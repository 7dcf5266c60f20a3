import Restyle.Proofs.WrittenStyle

/-!
Two style edits of one element. The first one inserts a style attribute into a tag that has none,
and the second one finds just that one and puts its own declarations over those in it. So nothing
of either is lost, and the line is as if all had been written at once.
-/
namespace Restyle.Style

open Text Markup

/-! ### Tags with room for an attribute -/

/-- Whether an attribute can stand behind `a` and a blank in a tag that opens at `start` and has no
style attribute, with `gap` between the attribute and the bracket. -/
structure HasRoom (a gap : List Char) (start : Nat) : Prop where
  behind : start < a.length
  outside : Scan.start.run (a.drop (start + 1)) = Scan.start
  goesOn : Scan.start.closing '>' (a.drop (start + 1)) = none
  unstyled : ∀ m, start ≤ m → (hitAt styleNameAt a m).isSome = false
  gap : gap = [] ∨ gap = " /".toList

/-- A tag that ends on its line and has no style attribute has room for one where one is
inserted. -/
theorem exists_hasRoom {cs : List Char} {start stop : Nat} (hopen : cs[start]? = some '<')
    (hend : tagEnd cs start = some stop) (hnone : HasNoHit styleNameAt (cs.take stop) start) :
    ∃ a gap rest, HasRoom a gap start ∧ ∀ tagLength text,
      insertAttribute cs start tagLength text = a ++ ' ' :: (text ++ (gap ++ '>' :: rest)) := by
  obtain ⟨ha, behind, hsplit, hbehind⟩ := tagBody_spec hopen hend
  have hpasses := passes_tagBody hopen hend
  obtain ⟨hin, hget⟩ := List.getElem?_eq_some_iff.1 (tagEnd_spec hend).2
  refine ⟨tagBody cs stop, tagSlash cs stop, cs.drop (stop + 1),
    ⟨ha, hpasses.run, hpasses.closing, fun m hm => ?_, tagSlash_cases cs stop⟩,
    fun tagLength text => ?_⟩
  · rw [Bool.eq_false_iff]
    intro hhit
    have hlong := styleName_append hhit behind
    rw [← hsplit, hnone m hm] at hlong
    cases hlong
  · rw [← hget, ← List.drop_eq_getElem_cons hin]
    exact insertAttribute_eq_tagBody hend tagLength text

section

variable {a gap rest w : List Char} {start : Nat}

/-- A tag with an attribute in it, up to its bracket. -/
def withAttribute (a w gap : List Char) : List Char :=
  a ++ ' ' :: (attributeOf w ++ gap)

theorem withAttribute_append (a w gap rest : List Char) :
    withAttribute a w gap ++ rest = (a ++ [' ']) ++ (attributeOf w ++ (gap ++ rest)) := by
  simp [withAttribute]

theorem length_space (a : List Char) : (a ++ [' ']).length = a.length + 1 :=
  List.length_append

theorem HasRoom.notMem_gap (h : HasRoom a gap start) {c : Char} (hc : c ≠ ' ') (hslash : c ≠ '/') :
    c ∉ gap := by
  rcases h.gap with rfl | rfl
  · exact List.not_mem_nil
  · simp [hc, hslash]

/-- With an attribute in it the tag ends behind that. -/
theorem HasRoom.tagEnd_eq (h : HasRoom a gap start) (hw : IsPiece w) :
    tagEnd (withAttribute a w gap ++ '>' :: rest) start = some (withAttribute a w gap).length := by
  have hsplit : withAttribute a w gap ++ '>' :: rest =
      a ++ ' ' :: (attributeOf w ++ (gap ++ '>' :: rest)) := by
    simp [withAttribute]
  rw [hsplit]
  exact tagEnd_inserted h.behind ⟨h.outside, h.goesOn⟩ hw.passes_attribute h.gap _

/-- No name of a style attribute stands in such a tag before the attribute. -/
theorem HasRoom.before (h : HasRoom a gap start) {m : Nat} (hm : start ≤ m) (hle : m ≤ a.length) :
    (hitAt styleNameAt (withAttribute a w gap) m).isSome = false := by
  obtain ⟨b, hb⟩ : ∃ b, withAttribute a w gap = a ++ ' ' :: 's' :: b := ⟨_, rfl⟩
  rw [Bool.eq_false_iff, hb]
  intro hhit
  have hshort := styleName_of_append hhit hle
  rw [h.unstyled m hm] at hshort
  cases hshort

/-- The attribute is the first one that is found in the tag, and it is found with its whole body. -/
theorem HasRoom.isFirstHit (h : HasRoom a gap start) (hw : IsPiece w) :
    IsFirstHit styleObjectAt (withAttribute a w gap) start (a.length + 1)
      (w, (attributeOf w).length) := by
  refine ⟨by have := h.behind; omega, ?_, fun m hm hlt => ?_⟩
  · have hsplit := withAttribute_append a w gap []
    rw [List.append_nil, List.append_nil] at hsplit
    rw [hitAt, hsplit, ← length_space, List.take_left, List.drop_left, List.getLast?_concat]
    exact hw.styleObjectAt_eq (by decide) gap
  · rw [← Option.not_isSome_iff_eq_none]
    intro hhit
    have hname := styleName_of_styleObject hhit
    rw [h.before hm (by omega)] at hname
    cases hname

/-- In the attribute the scan knows of nothing but the attribute. -/
theorem HasRoom.run_take (h : HasRoom a gap start) {k : Nat} (hk : k ≤ (attributeOf w).length) :
    Scan.start.run (((withAttribute a w gap ++ '>' :: rest).take (a.length + 1 + k)).drop
      (start + 1)) = Scan.start.run ((attributeOf w).take k) := by
  have hblank : Scan.start.run [' '] = Scan.start := by decide
  rw [withAttribute_append, ← length_space, List.take_length_add_append,
    List.take_append_of_le_length hk, List.append_assoc, List.drop_append_of_le_length h.behind,
    Scan.run_append, h.outside, Scan.run_append, hblank]

/-- What is put in place of the attribute stands where the attribute would be inserted. -/
theorem splice_withAttribute (text : List Char) :
    splice (withAttribute a w gap ++ '>' :: rest) (a.length + 1)
        (a.length + 1 + (attributeOf w).length) text =
      a ++ ' ' :: (text ++ (gap ++ '>' :: rest)) := by
  rw [splice, withAttribute_append, ← length_space, List.take_left, ← List.drop_drop,
    List.drop_left, List.drop_left]
  simp

/-- Outside of quotes and braces no other name of a style attribute stands in the tag. -/
theorem HasRoom.isOutside_iff (h : HasRoom a gap start) (hw : IsPiece w) {m : Nat} (hm : start ≤ m)
    (hhit : (hitAt styleNameAt (withAttribute a w gap) m).isSome = true) :
    IsOutside (withAttribute a w gap ++ '>' :: rest) start m ↔ m = a.length + 1 := by
  obtain ⟨k, rfl⟩ : ∃ k, m = a.length + 1 + k := by
    refine Nat.exists_eq_add_of_le ?_
    by_contra hshort
    rw [h.before hm (by omega)] at hhit
    cases hhit
  have hget : (attributeOf w ++ gap)[k]? = some 's' := by
    have hsplit := withAttribute_append a w gap []
    rw [List.append_nil, List.append_nil] at hsplit
    have hletter := styleName_head hhit
    rwa [hsplit, ← length_space, List.getElem?_append_right (Nat.le_add_right _ _),
      Nat.add_sub_cancel_left] at hletter
  have hk : k < (attributeOf w).length := by
    by_contra hge
    rw [List.getElem?_append_right (by omega)] at hget
    exact h.notMem_gap (by decide) (by decide) (List.mem_of_getElem? hget)
  rw [IsOutside, h.run_take hk.le]
  rcases Nat.lt_or_ge k 7 with hshort | hlong
  · have hall : ∀ k < 7, styleHead[k]? = some 's' → k = 0 := by decide
    rw [List.getElem?_append_left hk, getElem?_attributeOf (by omega)] at hget
    obtain rfl := hall k hshort hget
    simp [Scan.run, Scan.start]
  · have hlength : ((attributeOf w).take k).length = k := by
      rw [List.length_take, Nat.min_eq_left hk.le]
    have hdeep := hw.deep_attribute (List.take_prefix k _) (by omega) fun heq => by
      rw [heq] at hlength
      omega
    exact iff_of_false (fun hout => hdeep hout.2) (by omega)

end

/-! ### Declarations -/

/-- Declarations that end no object and no line where they are written, and whose names need no
escapes. -/
def Declarations.AreHarmless (ds : Declarations) : Prop :=
  ∀ d ∈ ds, ∃ name, d.1 = .text name ∧ IsHarmlessName name.toList ∧
    IsHarmless d.2.display.toList

theorem Declarations.AreHarmless.mapM_entryOf {ds : Declarations} (h : ds.AreHarmless) :
    ∃ pairs : Entries, ds.mapM entryOf = .ok pairs ∧ pairs.AreHarmless := by
  induction ds with
  | nil => exact ⟨[], rfl, fun e he => absurd he List.not_mem_nil⟩
  | cons d ds ih =>
    obtain ⟨pairs, hpairs, hharmless⟩ := ih fun x hx => h x (List.mem_cons_of_mem d hx)
    obtain ⟨name, hkey, hname, hvalue⟩ := h d List.mem_cons_self
    have hentry : entryOf d = .ok (camelCase name.toList, writeValue d.2.display.toList) := by
      obtain ⟨key, value⟩ := d
      obtain rfl : key = .text name := hkey
      rfl
    refine ⟨(camelCase name.toList, writeValue d.2.display.toList) :: pairs, ?_, ?_⟩
    · exact mapM_eq_ok.2 (.cons hentry (mapM_eq_ok.1 hpairs))
    · intro e he
      rcases List.mem_cons.1 he with rfl | he
      · exact ⟨hname.camelCase, _, hvalue, rfl⟩
      · exact hharmless e he

theorem Declarations.AreHarmless.entriesOf {ds : Declarations} (h : ds.AreHarmless) :
    ∃ es, Style.entriesOf ds = .ok es ∧ es.AreHarmless ∧ (es.map (·.1)).Nodup := by
  obtain ⟨pairs, hpairs, hharmless⟩ := h.mapM_entryOf
  exact ⟨ofPairs pairs, map_eq_ok.2 ⟨pairs, hpairs, rfl⟩,
    fun e he => hharmless e (mem_of_mem_ofPairs he), nodup_ofPairs pairs⟩

theorem Entries.AreHarmless.merge {old new : Entries} (hold : old.AreHarmless)
    (hnew : new.AreHarmless) : (Style.merge old new).AreHarmless :=
  fun e he => (mem_or_of_mem_merge he).elim (hold e) (hnew e)

theorem lookup_merge {new : Entries} (h : (new.map (·.1)).Nodup) (old : Entries)
    (name : List Char) :
    (merge old new).lookup name = (new.lookup name).or (old.lookup name) := by
  rw [merge, lookup_foldl_assign, lookup_reverse h]

theorem Entries.AreHarmless.isOneLine {es : Entries} (h : es.AreHarmless) :
    IsOneLine (styleAttribute es) := by
  have hhead : IsOneLine styleHead := by decide
  rw [styleAttribute_eq, attributeOf]
  exact hhead.append (h.isPiece.oneLine.append (by decide))

/-! ### The edits -/

/-- Whether the tag that opens at `start` ends on its line and has just one style attribute outside
of quotes and braces, which is the first one that is found, and shows the entries. -/
def HasOneStyle (line : List Char) (start : Nat) (es : Entries) : Prop :=
  ∃ stop n body length, tagEnd line start = some stop ∧
    IsFirstHit styleObjectAt (line.take stop) start n (body, length) ∧ readEntries body = es ∧
    ∀ m, start ≤ m → (hitAt styleNameAt (line.take stop) m).isSome = true →
      (IsOutside line start m ↔ m = n)

section

variable {content : List Char} {c c₁ c₂ : Change} {line : Int} {p : Place} {stop : Nat}

/-- An edit of a tag without a style attribute inserts one. -/
theorem applyInline_unstyled (hplace : locate content c line = .ok p)
    (hend : tagEnd (p.lines.getD p.row []) p.start = some stop)
    (hnone : HasNoHit styleNameAt (p.upTo stop) p.start) {new : Entries}
    (hnew : entriesOf c.styles = .ok new) :
    applyInline content c line = .ok (p.inserted (styleAttribute new)) := by
  have hobject : HasNoHit styleObjectAt (p.upTo stop) p.start := by
    intro n hn
    rw [← Option.not_isSome_iff_eq_none]
    intro hhit
    have hname := styleName_of_styleObject hhit
    rw [hnone n hn] at hname
    cases hname
  have hfound := (firstIn_tag_eq_none_iff styleObjectAt_needsText hplace hend).2 hobject
  have hfoundName := (firstIn_tag_eq_none_iff styleNameAt_needsText hplace hend).2 hnone
  rw [applyInline_eq hplace hnew, edit_oneLine hend]
  simp only [mergeStyle, hfound, hfoundName]
  rfl

theorem lines_inserted (hp : p.IsOn content line) {text : List Char} (htext : IsOneLine text) :
    Text.lines (p.inserted text) = p.lines.set p.row
      (insertAttribute (p.lines.getD p.row []) p.start p.tag.length text) := by
  have hone := (insertAttribute_spec hp.opens (hp.isOneLine p.row) htext p.tag.length).1
  unfold Place.inserted
  generalize insertAttribute (p.lines.getD p.row []) p.start p.tag.length text = new at hone ⊢
  rw [hp.lines]
  exact lines_unlines_set content p.row hone

/-- How long the tag's name is does not count where the tag ends on its line. -/
theorem inserted_tag (hp : p.IsOn content line)
    (hend : tagEnd (p.lines.getD p.row []) p.start = some stop) (tag text : List Char) :
    ({ p with tag } : Place).inserted text = p.inserted text := by
  obtain ⟨a, behind, gap, -, -, -, -, hinsert⟩ := insertAttribute_of_tagEnd hp.opens hend
  rw [Place.inserted, Place.inserted, hinsert, hinsert]

theorem insertAttribute_styleAttribute {cs a gap rest : List Char} {start tagLength : Nat}
    (h : ∀ tagLength text,
      insertAttribute cs start tagLength text = a ++ ' ' :: (text ++ (gap ++ '>' :: rest)))
    (es : Entries) : insertAttribute cs start tagLength (styleAttribute es) =
      withAttribute a (objectBody es) gap ++ '>' :: rest := by
  rw [h, withAttribute, styleAttribute_eq]
  simp

/-- A tag that had no style attribute has one when it is inserted. -/
theorem hasOneStyle_inserted (hp : p.IsOn content line)
    (hend : tagEnd (p.lines.getD p.row []) p.start = some stop)
    (hnone : HasNoHit styleNameAt (p.upTo stop) p.start) {es : Entries} (hes : es.AreHarmless)
    (hkeys : (es.map (·.1)).Nodup) :
    HasOneStyle ((Text.lines (p.inserted (styleAttribute es))).getD p.row []) p.start es := by
  obtain ⟨a, gap, rest, hroom, hinsert⟩ := exists_hasRoom hp.opens hend hnone
  rw [lines_inserted hp hes.isOneLine, getD_set_self hp.there,
    insertAttribute_styleAttribute hinsert]
  have hfirst := hroom.isFirstHit hes.isPiece
  refine ⟨(withAttribute a (objectBody es) gap).length, a.length + 1, objectBody es,
    (attributeOf (objectBody es)).length, hroom.tagEnd_eq hes.isPiece, ?_,
    hes.readEntries_objectBody hkeys, fun m hm hhit => ?_⟩
  · rwa [List.take_left]
  · rw [List.take_left] at hhit
    exact hroom.isOutside_iff hes.isPiece hm hhit

/-- Whether a change finds the element at a place, and by its tag only: it asks for nothing else,
and what the line has for the tag is part of the element's name. -/
structure FindsByTag (content : List Char) (c : Change) (line : Int) (p : Place) : Prop where
  located : locate content c line = .ok p
  asksTag : c.AsksTag
  named : p.NamesElement

/-- An edit of a tag that a style attribute was inserted into comes to one insertion. -/
theorem applyInline_inserted (hfinds : FindsByTag content c line p)
    (hend : tagEnd (p.lines.getD p.row []) p.start = some stop)
    (hnone : HasNoHit styleNameAt (p.upTo stop) p.start) {old new : Entries}
    (hold : old.AreHarmless) (hkeys : (old.map (·.1)).Nodup)
    (hnew : entriesOf c.styles = .ok new) :
    applyInline (p.inserted (styleAttribute old)) c line =
      .ok (p.inserted (styleAttribute (merge old new))) := by
  obtain ⟨hplace, hasks, hnamed⟩ := hfinds
  have hp := locate_isOn hplace
  obtain ⟨hlength, hends⟩ := nameEnd_spec hplace hasks
  obtain ⟨a, gap, rest, hroom, hinsert⟩ := exists_hasRoom hp.opens hend hnone
  have hone := (insertAttribute_spec hp.opens (hp.isOneLine p.row) hold.isOneLine p.tag.length).1
  have hkeeps := keepsName_inserted hp.opens hends hlength hnamed (styleAttribute old)
  have hagain := locate_again hplace hasks hp.there hone (fun _ => hkeeps)
    (Eq.refl (p.inserted (styleAttribute old)))
  rw [lines_inserted hp hold.isOneLine, insertAttribute_styleAttribute hinsert] at hagain
  have hline : (p.lines.set p.row (withAttribute a (objectBody old) gap ++ '>' :: rest)).getD
      p.row [] = withAttribute a (objectBody old) gap ++ '>' :: rest := getD_set_self hp.there _
  have hend' : tagEnd (withAttribute a (objectBody old) gap ++ '>' :: rest) p.start = _ :=
    hroom.tagEnd_eq hold.isPiece
  rw [← hline] at hend'
  have hfirst := hroom.isFirstHit hold.isPiece
  rw [applyInline_of_isFirstHit hagain hend' hnew (by rwa [Place.upTo, hline, List.take_left]),
    Place.replaced, hline, splice_withAttribute, List.set_set, hold.readEntries_objectBody hkeys,
    Place.inserted, hinsert]

/-- Two edits of an element without a style attribute, of which the second one finds it by its tag
only, come to one insertion. The attribute has the entries of the first edit with those of the
second one put over them, and it is the only one of the tag. -/
theorem applyInline_twice (hplace : locate content c₁ line = .ok p) {tag : List Char}
    (hfinds : FindsByTag content c₂ line { p with tag })
    (hend : tagEnd (p.lines.getD p.row []) p.start = some stop)
    (hnone : HasNoHit styleNameAt (p.upTo stop) p.start)
    (h₁ : c₁.styles.AreHarmless) (h₂ : c₂.styles.AreHarmless) :
    ∃ new₁ new₂ once twice, entriesOf c₁.styles = .ok new₁ ∧ entriesOf c₂.styles = .ok new₂ ∧
      applyInline content c₁ line = .ok once ∧ applyInline once c₂ line = .ok twice ∧
      twice = p.inserted (styleAttribute (merge new₁ new₂)) ∧
      HasOneStyle ((Text.lines twice).getD p.row []) p.start (merge new₁ new₂) ∧
      ∀ name, (merge new₁ new₂).lookup name = (new₂.lookup name).or (new₁.lookup name) := by
  obtain ⟨new₁, hnew₁, hharmless₁, hkeys₁⟩ := h₁.entriesOf
  obtain ⟨new₂, hnew₂, hharmless₂, hkeys₂⟩ := h₂.entriesOf
  have hp := locate_isOn hplace
  have htwice := applyInline_inserted hfinds hend hnone hharmless₁ hkeys₁ hnew₂
  rw [inserted_tag hp hend tag, inserted_tag hp hend tag] at htwice
  have hone := hasOneStyle_inserted hp hend hnone (hharmless₁.merge hharmless₂)
    (nodup_keys_merge hkeys₁ new₂)
  exact ⟨new₁, new₂, p.inserted (styleAttribute new₁),
    p.inserted (styleAttribute (merge new₁ new₂)), hnew₁, hnew₂,
    applyInline_unstyled hplace hend hnone hnew₁, htwice, rfl, hone, lookup_merge hkeys₂ new₁⟩

end

/-- An element with a bracket between braces, on the second one of three lines. -/
def keyedItem : List Char := "<ul>\n  <li key=\x7bi > 0\x7d />\n</ul>".toList

def keyedPlace : Place := ⟨lines keyedItem, 1, 2, "li".toList⟩

/-- Asks for a text with quotes, a bracket, a comma and the beginning of a style attribute. -/
def quotedContent : Change :=
  { redDiv with
    tag := .str "li"
    styles := [(.text "content", .str "'>', style=\x7b\x7b"), (.text "margin-top", .str "1px")] }

/-- Asks for another margin, and for a custom property with a backslash. -/
def otherMargin : Change :=
  { redDiv with
    tag := .str "LI"
    styles := [(.text "margin-top", .str "4px"), (.text "--sign", .str "\\")] }

theorem quotedContent_areHarmless : quotedContent.styles.AreHarmless := by
  intro d hd
  rcases List.mem_cons.1 hd with rfl | hd
  · exact ⟨"content", rfl, ⟨⟨by decide, by decide⟩, by decide, by decide⟩, by decide, by decide⟩
  · obtain rfl := List.mem_singleton.1 hd
    exact ⟨"margin-top", rfl, ⟨⟨by decide, by decide⟩, by decide, by decide⟩, by decide, by decide⟩

theorem otherMargin_areHarmless : otherMargin.styles.AreHarmless := by
  intro d hd
  rcases List.mem_cons.1 hd with rfl | hd
  · exact ⟨"margin-top", rfl, ⟨⟨by decide, by decide⟩, by decide, by decide⟩, by decide, by decide⟩
  · obtain rfl := List.mem_singleton.1 hd
    exact ⟨"--sign", rfl, ⟨⟨by decide, by decide⟩, by decide, by decide⟩, by decide, by decide⟩

theorem otherMargin_findsByTag :
    FindsByTag keyedItem otherMargin 2 { keyedPlace with tag := "LI".toList } := by
  refine ⟨by decide +kernel, ⟨⟨"LI".toList, none, []⟩, by decide +kernel, rfl, rfl⟩, ?_⟩
  intro i c hstart hend hc
  have hall : ∀ i < 5, 2 < i →
      ((keyedPlace.lines.getD 1 [])[i]?.all fun c => !endsTagName c) = true := by decide +kernel
  have hname := hall i hend hstart
  have hget : (keyedPlace.lines.getD 1 [])[i]? = some c := hc
  rw [hget] at hname
  simpa using hname

theorem applyInline_twice_keyed :
    locate keyedItem quotedContent 2 = .ok keyedPlace ∧
    FindsByTag keyedItem otherMargin 2 { keyedPlace with tag := "LI".toList } ∧
    tagEnd (keyedPlace.lines.getD 1 []) 2 = some 19 ∧
    HasNoHit styleNameAt (keyedPlace.upTo 19) 2 ∧
    quotedContent.styles.AreHarmless ∧ otherMargin.styles.AreHarmless ∧
    ∃ once twice es, applyInline keyedItem quotedContent 2 = .ok once ∧
      applyInline once otherMargin 2 = .ok twice ∧ HasOneStyle ((lines twice).getD 1 []) 2 es ∧
      es = [("content".toList, "'\\'>\\', style=\x7b\x7b'".toList),
        ("marginTop".toList, "'4px'".toList), ("--sign".toList, "'\\\\'".toList)] := by
  have hplace : locate keyedItem quotedContent 2 = .ok keyedPlace := by decide +kernel
  have hend : tagEnd (keyedPlace.lines.getD 1 []) 2 = some 19 := by decide +kernel
  have hnone : HasNoHit styleNameAt (keyedPlace.upTo 19) 2 :=
    (firstIn_tag_eq_none_iff styleNameAt_needsText hplace hend).1 (by decide +kernel)
  obtain ⟨new₁, new₂, once, twice, hnew₁, hnew₂, honce, htwice, -, hstyle, -⟩ :=
    applyInline_twice hplace otherMargin_findsByTag hend hnone quotedContent_areHarmless
      otherMargin_areHarmless
  have hquoted : entriesOf quotedContent.styles =
      .ok [("content".toList, "'\\'>\\', style=\x7b\x7b'".toList),
        ("marginTop".toList, "'1px'".toList)] := by decide +kernel
  have hother : entriesOf otherMargin.styles =
      .ok [("marginTop".toList, "'4px'".toList), ("--sign".toList, "'\\\\'".toList)] := by
    decide +kernel
  obtain rfl := Except.ok.inj (hquoted.symm.trans hnew₁)
  obtain rfl := Except.ok.inj (hother.symm.trans hnew₂)
  exact ⟨hplace, otherMargin_findsByTag, hend, hnone, quotedContent_areHarmless,
    otherMargin_areHarmless, once, twice, _, honce, htwice, hstyle, by decide⟩

end Restyle.Style
