import Restyle.Proofs.OneLine
import Restyle.Proofs.TagExtent

/-!
What changing the style of an element leaves alone: every line but one, which is a line of the
element's opening tag, and on the element's own line all that stands before the tag. A style
attribute that is written into the tag also leaves what stands behind the tag.
-/
namespace Restyle.Text

theorem firstHit_spec {α : Type} {test : Option Char → List Char → Option α} {prev : Option Char}
    {n m : Nat} {s : List Char} {a : α} (h : firstHit test prev n s = some (m, a)) :
    ∃ k prev', m = n + k ∧ k ≤ s.length ∧ test prev' (s.drop k) = some a := by
  induction s generalizing prev n with
  | nil =>
    obtain ⟨a', ha, he⟩ := Option.map_eq_some_iff.1 h
    obtain ⟨rfl, rfl⟩ := Prod.mk.inj he
    exact ⟨0, prev, rfl, Nat.le_refl _, ha⟩
  | cons c s ih =>
    rw [firstHit] at h
    split at h
    · next a' ha =>
      obtain ⟨rfl, rfl⟩ := Prod.mk.inj (Option.some.inj h)
      exact ⟨0, prev, rfl, Nat.zero_le _, ha⟩
    · obtain ⟨k, prev', rfl, hk, ha⟩ := ih h
      exact ⟨k + 1, prev', by omega, by simpa using hk, ha⟩

end Restyle.Text

namespace Restyle.Markup

open Text

/-! ### The stretches of a tag -/

theorem Scan.getElem?_of_closing {closer : Char} {s : Scan} {text : List Char} {n : Nat}
    (h : s.closing closer text = some n) : text[n]? = some closer := by
  induction text generalizing s n with
  | nil => cases h
  | cons c text ih =>
    rw [Scan.closing] at h
    split at h
    · next hends =>
      obtain rfl := Option.some.inj h
      simp only [Scan.ends, Bool.and_eq_true, beq_iff_eq] at hends
      simp [hends.1.2]
    · obtain ⟨m, hm, rfl⟩ := Option.map_eq_some_iff.1 h
      simpa using ih hm

theorem closingAt_spec {closer : Char} {cs : List Char} {start stop : Nat}
    (h : closingAt closer cs start = some stop) :
    start ≤ stop ∧ cs[stop]? = some closer := by
  obtain ⟨n, hn, rfl⟩ := Option.map_eq_some_iff.1 h
  have hchar := Scan.getElem?_of_closing hn
  rw [List.getElem?_drop] at hchar
  exact ⟨Nat.le_add_left _ _, by rwa [Nat.add_comm]⟩

theorem tagEnd_spec {cs : List Char} {start stop : Nat} (h : tagEnd cs start = some stop) :
    start < stop ∧ cs[stop]? = some '>' := closingAt_spec h

theorem mem_laterSpans {row : Nat} {lines : List (List Char)} {s : Span}
    (h : s ∈ laterSpans row lines) :
    row ≤ s.row ∧ s.row < row + lines.length ∧ s.first = 0 := by
  induction lines generalizing row with
  | nil => cases h
  | cons line rest ih =>
    rw [laterSpans] at h
    rw [List.length_cons]
    split at h
    · obtain rfl := List.mem_singleton.1 h
      exact ⟨Nat.le_refl _, Nat.lt_add_of_pos_right (Nat.succ_pos _), rfl⟩
    · rcases List.mem_cons.1 h with rfl | h
      · exact ⟨Nat.le_refl _, Nat.lt_add_of_pos_right (Nat.succ_pos _), rfl⟩
      · obtain ⟨hlow, hhigh, hfirst⟩ := ih h
        exact ⟨by omega, by omega, hfirst⟩

/-- Where the first stretch of a tag ends. -/
def firstStop (line : List Char) (start : Nat) : Nat := (tagEnd line start).getD line.length

theorem lt_firstStop {line : List Char} {start : Nat} (h : start < line.length) :
    start < firstStop line start := by
  unfold firstStop
  cases hend : tagEnd line start with
  | none => exact h
  | some stop => exact (tagEnd_spec hend).1

theorem tagSpans_eq {lines : List (List Char)} {row : Nat} (hrow : row < lines.length)
    (start : Nat) : ∃ later : List (List Char), later.length < maxTagLines ∧
      row + later.length < lines.length ∧ tagSpans lines row start =
        ⟨row, start, firstStop (lines.getD row []) start⟩ :: laterSpans (row + 1) later := by
  unfold tagSpans firstStop
  simp only
  cases tagEnd (lines.getD row []) start with
  | some stop => exact ⟨[], by decide, hrow, rfl⟩
  | none =>
    refine ⟨(lines.drop (row + 1)).take (maxTagLines - 1), ?_, ?_, rfl⟩
    · rw [List.length_take, maxTagLines]
      omega
    · rw [List.length_take, List.length_drop]
      omega

theorem mem_tagSpans {lines : List (List Char)} {row start : Nat} (hrow : row < lines.length)
    (hstart : start < (lines.getD row []).length) {s : Span} (h : s ∈ tagSpans lines row start) :
    row ≤ s.row ∧ s.row < row + maxTagLines ∧ s.row < lines.length ∧ s.first ≤ s.stop ∧
      (s.row = row → s.first = start) := by
  obtain ⟨later, hcount, hlast, hspans⟩ := tagSpans_eq hrow start
  rw [hspans] at h
  rcases List.mem_cons.1 h with rfl | h
  · exact ⟨Nat.le_refl _, Nat.lt_add_of_pos_right (Nat.zero_lt_of_lt hcount), hrow,
      (lt_firstStop hstart).le, fun _ => rfl⟩
  · obtain ⟨hlow, hhigh, hfirst⟩ := mem_laterSpans h
    exact ⟨by omega, by omega, by omega, by omega, fun e => by omega⟩

theorem tagAt_opens {tag s rest : List Char} (h : tagAt tag s = some rest) :
    s.head? = some '<' := by
  unfold tagAt at h
  split at h
  · rfl
  · cases h

/-- The element that a selector finds opens with its bracket. -/
theorem Selector.find_spec {sel : Selector} {cs : List Char} {n : Nat}
    (h : sel.find cs = some n) : cs[n]? = some '<' := by
  obtain ⟨⟨m, u⟩, hm, rfl⟩ := Option.map_eq_some_iff.1 h
  obtain ⟨k, prev, rfl, -, hk⟩ := firstHit_spec hm
  have hopens : sel.opensAt (cs.drop k) := by
    split at hk
    · assumption
    · cases hk
  unfold Selector.opensAt at hopens
  split at hopens
  · cases hopens
  · next rest hrest => simpa using tagAt_opens hrest

end Restyle.Markup

namespace Restyle.Style

open Text Markup

/-! ### Places -/

/-- The place of an element on a line of a content. -/
structure Place.IsOn (p : Place) (content : List Char) (line : Int) : Prop where
  lines : p.lines = Text.lines content
  row : (p.row : Int) = line - 1
  there : p.row < p.lines.length
  opens : (p.lines.getD p.row [])[p.start]? = some '<'

theorem locate_isOn {content : List Char} {c : Change} {line : Int} {p : Place}
    (h : locate content c line = .ok p) : p.IsOn content line := by
  unfold locate rowOf at h
  simp only [bind, Except.bind] at h
  split at h
  · cases h
  · next row hrow =>
    split at hrow
    · next hline =>
      obtain rfl := Except.ok.inj hrow
      split at h
      · cases h
      · split at h
        · next start hfind =>
          obtain rfl := Except.ok.inj h
          exact ⟨rfl, by simp only; omega, by simp only; omega, Selector.find_spec hfind⟩
        · cases h
    · cases hrow

theorem Place.IsOn.start_lt {p : Place} {content : List Char} {line : Int}
    (h : p.IsOn content line) : p.start < (p.lines.getD p.row []).length :=
  (List.getElem?_eq_some_iff.1 h.opens).1

theorem Place.IsOn.isOneLine {p : Place} {content : List Char} {line : Int}
    (h : p.IsOn content line) (row : Nat) : IsOneLine (p.lines.getD row []) := by
  rw [h.lines, List.getD_eq_getElem?_getD]
  cases hl : (Text.lines content)[row]? with
  | none => exact List.not_mem_nil
  | some l => exact isOneLine_of_mem_lines (List.mem_of_getElem? hl)

/-- On a line that is there the element is located if it is there. -/
theorem locate_eq (content : List Char) {c : Change} {n : Nat} {l : List Char}
    (hl : (Text.lines content)[n]? = some l) {sel : Selector} (hsel : c.target = .ok sel) :
    locate content c (n + 1 : Nat) =
      match sel.find l with
      | some start => .ok ⟨Text.lines content, n, start, sel.tag⟩
      | none => .error (.elementNotFound (String.ofList sel.tag) (n + 1 : Nat)) := by
  obtain ⟨hn, -⟩ := List.getElem?_eq_some_iff.1 hl
  have hrow : rowOf (n + 1 : Nat) (Text.lines content).length = .ok n := by
    unfold rowOf
    rw [if_pos (by omega)]
    congr
    omega
  unfold locate
  simp only [hrow, hsel, faulty, bind, Except.bind, List.getD_eq_getElem?_getD, hl,
    Option.getD_some]
  cases sel.find l <;> rfl

/-! ### Edits -/

/-- What an edit comes to: one of the stretches is found to change its line, or the attribute is
inserted on the line of the first one. -/
inductive Edited (p : Place) (find : Span → Finding) (text : List Char) (s : Span) :
    List Char → Prop
  | changed {new : List Char} (found : find s = .changed new) : Edited p find text s new
  | inserted (first : s = ⟨p.row, p.start, firstStop (p.lines.getD p.row []) p.start⟩) :
      Edited p find text s (insertAttribute (p.lines.getD p.row []) p.start p.tag.length text)

theorem firstFinding_spec {find : Span → Finding} {spans : List Span} {row : Nat} {f : Finding}
    (h : firstFinding find spans = some (row, f)) : ∃ s ∈ spans, s.row = row ∧ find s = f := by
  induction spans with
  | nil => cases h
  | cons s spans ih =>
    rw [firstFinding] at h
    split at h
    · obtain ⟨s', hs', hrow, hf⟩ := ih h
      exact ⟨s', List.mem_cons_of_mem _ hs', hrow, hf⟩
    · obtain ⟨rfl, rfl⟩ := Prod.mk.inj (Option.some.inj h)
      exact ⟨s, List.mem_cons_self, rfl, rfl⟩

theorem edit_cases {p : Place} (hrow : p.row < p.lines.length) {find : Span → Finding}
    {text out : List Char} (h : edit p find text = .ok out) :
    ∃ s ∈ tagSpans p.lines p.row p.start, ∃ new,
      Edited p find text s new ∧ out = unlines (p.lines.set s.row new) := by
  unfold edit at h
  split at h
  · cases h
  · next row new hf =>
    obtain rfl := Except.ok.inj h
    obtain ⟨s, hs, rfl, hfound⟩ := firstFinding_spec hf
    exact ⟨s, hs, new, .changed hfound, rfl⟩
  · obtain rfl := Except.ok.inj h
    obtain ⟨later, -, -, hspans⟩ := tagSpans_eq hrow p.start
    exact ⟨_, hspans ▸ List.mem_cons_self, _, .inserted rfl, rfl⟩

/-! ### Lines with another text in a stretch -/

theorem isOneLine_splice {line new : List Char} (hline : IsOneLine line) (hnew : IsOneLine new)
    (first stop : Nat) : IsOneLine (splice line first stop new) :=
  ((hline.take first).append hnew).append (hline.drop stop)

theorem take_splice {line new : List Char} {start first stop : Nat} (h : start ≤ first)
    (hstart : start ≤ line.length) : (splice line first stop new).take start = line.take start := by
  unfold splice
  rw [List.append_assoc, List.take_append_of_le_length (by rw [List.length_take]; omega),
    List.take_take, Nat.min_eq_left h]

theorem suffix_splice {line new : List Char} {first stop stop' : Nat} (h : stop ≤ stop') :
    line.drop stop' <:+ splice line first stop new :=
  (List.drop_suffix_drop_left line h).trans (List.suffix_append _ _)

/-- Only blanks at the end go. -/
theorem exists_trimRight (s : List Char) : ∃ b, IsBlank b ∧ trimRight s ++ b = s := by
  refine ⟨(s.reverse.takeWhile isBlank).reverse, fun c hc => ?_, ?_⟩
  · exact isBlank_takeWhile _ c (List.mem_reverse.1 hc)
  · have h := congrArg List.reverse
      (List.takeWhile_append_dropWhile (p := isBlank) (l := s.reverse))
    rwa [List.reverse_append, List.reverse_reverse] at h

theorem trimRight_spec (s : List Char) : trimRight s <+: s ∧
    ∀ i c, s[i]? = some c → isBlank c = false → i < (trimRight s).length := by
  obtain ⟨b, hb, hsplit⟩ := exists_trimRight s
  refine ⟨⟨b, hsplit⟩, fun i c hi hc => ?_⟩
  by_contra hge
  rw [← hsplit, List.getElem?_append_right (by omega)] at hi
  have hblank := hb c (List.mem_of_getElem? hi)
  rw [hc] at hblank
  cases hblank

/-- What stands before a character that is no blank stays when the blanks at the end go. -/
theorem take_prefix_trimRight {cs : List Char} {n m : Nat} {c : Char} (hc : cs[n]? = some c)
    (hblank : isBlank c = false) (h : n < m) : cs.take n <+: trimRight (cs.take m) := by
  have hkept : n < (trimRight (cs.take m)).length :=
    (trimRight_spec _).2 n c (by rw [List.getElem?_take_of_lt h, hc]) hblank
  refine List.prefix_of_prefix_length_le (List.take_prefix n cs)
    ((trimRight_spec _).1.trans (List.take_prefix m cs)) ?_
  rw [List.length_take]
  omega

/-- A tag does not open with the slash that it ends with. -/
theorem slash_spec {cs : List Char} {start stop : Nat} (hopen : cs[start]? = some '<')
    (hlt : start < stop) (hstop : stop < cs.length)
    (hslash : (cs.take stop).getLast? = some '/') :
    start < stop - 1 ∧ cs[stop - 1]? = some '/' := by
  rw [List.getLast?_eq_getElem?, List.length_take, Nat.min_eq_left hstop.le,
    List.getElem?_take_of_lt (by omega)] at hslash
  refine ⟨Nat.lt_of_le_of_ne (by omega) ?_, hslash⟩
  rintro rfl
  rw [hopen] at hslash
  cases hslash

/-- An attribute that is inserted into a tag stays behind its opening and before its end. -/
theorem insertAttribute_spec {cs text : List Char} {start : Nat} (hopen : cs[start]? = some '<')
    (hline : IsOneLine cs) (htext : IsOneLine text) (tagLength : Nat) :
    IsOneLine (insertAttribute cs start tagLength text) ∧
      cs.take start <+: insertAttribute cs start tagLength text ∧
      cs.drop (firstStop cs start) <:+ insertAttribute cs start tagLength text := by
  have htaken {m : Nat} (h : start < m) : cs.take start <+: trimRight (cs.take m) :=
    take_prefix_trimRight hopen (by decide) h
  have htrim (m : Nat) : IsOneLine (trimRight (cs.take m)) :=
    (hline.take m).of_subset (trimRight_subset _)
  have hblank : IsOneLine (' ' :: text) := htext.cons (by decide)
  unfold insertAttribute firstStop
  cases hend : tagEnd cs start with
  | none =>
    refine ⟨((hline.take _).append hblank).append (hline.drop _), ?_, ?_⟩
    · rw [List.append_assoc]
      exact (List.take_prefix_take_left (by omega)).trans (List.prefix_append _ _)
    · rw [Option.getD_none, List.drop_length]
      exact List.nil_suffix
  | some stop =>
    obtain ⟨hlt, hstop⟩ := tagEnd_spec hend
    simp only [Option.getD_some]
    split
    · next hslash =>
      have hfar := (slash_spec hopen hlt (List.getElem?_eq_some_iff.1 hstop).1 hslash).1
      refine ⟨(((htrim _).append hblank).append (by decide)).append (hline.drop _), ?_, ?_⟩
      · simp only [List.append_assoc]
        exact (htaken hfar).trans (List.prefix_append _ _)
      · obtain ⟨hin, hget⟩ := List.getElem?_eq_some_iff.1 hstop
        rw [List.drop_eq_getElem_cons hin, hget]
        exact ⟨trimRight (cs.take (stop - 1)) ++ ' ' :: text ++ " /".toList, by simp⟩
    · refine ⟨((htrim _).append hblank).append (hline.drop _), ?_, List.suffix_append _ _⟩
      rw [List.append_assoc]
      exact (htaken hlt).trans (List.prefix_append _ _)

/-! ### What is found in a stretch -/

theorem firstIn_spec {α : Type} {test : Option Char → List Char → Option α} {line : List Char}
    {first stop n : Nat} {a : α} (h : firstIn test line first stop = some (n, a)) :
    first ≤ n ∧ (first ≤ stop → n ≤ stop) ∧
      ∃ prev, test prev ((line.take stop).drop n) = some a := by
  obtain ⟨k, prev, rfl, hk, ha⟩ := firstHit_spec h
  rw [List.length_drop, List.length_take] at hk
  rw [List.drop_drop] at ha
  exact ⟨Nat.le_add_right _ _, fun _ => by omega, prev, ha⟩

theorem after?_subset {p s r : List Char} (h : after? p s = some r) : r ⊆ s := by
  rw [after?_eq_some.1 h]
  simp

theorem afterEquals?_subset {s r : List Char} (h : afterEquals? s = some r) : r ⊆ s := by
  unfold afterEquals? at h
  split at h
  · next rest hs =>
    obtain rfl := Option.some.inj h
    intro c hc
    exact skipBlanks_subset s (by simp [hs, skipBlanks_subset rest hc])
  · cases h

theorem openingQuote?_subset {s r : List Char} {q : Char} (h : openingQuote? s = some (q, r)) :
    r ⊆ s := by
  unfold openingQuote? at h
  split at h
  · cases h
  · next rest hrest =>
    have hbrace : skipBrace rest ⊆ rest := by
      unfold skipBrace
      split
      · exact List.subset_cons_of_subset _ (skipBlanks_subset _)
      · exact List.Subset.refl _
    split at h
    · next c value hvalue =>
      split at h
      · obtain ⟨rfl, rfl⟩ := Prod.mk.inj (Option.some.inj h)
        intro x hx
        exact afterEquals?_subset hrest (hbrace (by simp [hvalue, hx]))
      · cases h
    · cases h

theorem untilQuote?_subset {q : Char} {s v r : List Char} (h : untilQuote? q s = some (v, r)) :
    v ⊆ s := by
  induction s generalizing v r with
  | nil => cases h
  | cons c s ih =>
    rw [untilQuote?] at h
    split at h
    · obtain ⟨rfl, -⟩ := Prod.mk.inj (Option.some.inj h)
      exact List.nil_subset _
    · split at h
      · cases h
      · obtain ⟨⟨v', r'⟩, hv, he⟩ := Option.map_eq_some_iff.1 h
        obtain ⟨rfl, -⟩ := Prod.mk.inj he
        exact List.cons_subset_cons c (ih hv)

theorem untilBraces_subset {s v r : List Char} (h : untilBraces s = some (v, r)) : v ⊆ s := by
  fun_induction untilBraces s generalizing v r with
  | case1 => cases h
  | case2 rest =>
    obtain ⟨rfl, -⟩ := Prod.mk.inj (Option.some.inj h)
    exact List.nil_subset _
  | case3 c s hfeed hbraces =>
    rw [if_pos hfeed] at h
    cases h
  | case4 c s hfeed hbraces ih =>
    rw [if_neg hfeed] at h
    obtain ⟨⟨v', r'⟩, hv, he⟩ := Option.map_eq_some_iff.1 h
    obtain ⟨rfl, -⟩ := Prod.mk.inj he
    exact List.cons_subset_cons c (ih hv)

theorem styleObjectAt_spec {prev : Option Char} {s body : List Char} {length : Nat}
    (h : styleObjectAt prev s = some (body, length)) : body ⊆ s ∧ length ≤ s.length := by
  unfold styleObjectAt at h
  split at h
  · split at h
    · next rest hrest =>
      obtain ⟨⟨v, r⟩, hv, he⟩ := Option.map_eq_some_iff.1 h
      obtain ⟨rfl, rfl⟩ := Prod.mk.inj he
      obtain ⟨u, hu, hequals⟩ := Option.bind_eq_some_iff.1 hrest
      have hsub : rest ⊆ s := fun c hc =>
        after?_subset hu (afterEquals?_subset hequals (by simp [hc]))
      exact ⟨List.Subset.trans (untilBraces_subset hv) hsub, Nat.sub_le _ _⟩
    · cases h
  · cases h

theorem classTextAt_subset {prev : Option Char} {s value : List Char} {offset : Nat}
    (h : classTextAt prev s = some (value, offset)) : value ⊆ s := by
  unfold classTextAt at h
  split at h
  · split at h
    · next q rest hrest =>
      obtain ⟨⟨v, r⟩, hv, he⟩ := Option.map_eq_some_iff.1 h
      obtain ⟨rfl, -⟩ := Prod.mk.inj he
      obtain ⟨u, hu, hquote⟩ := Option.bind_eq_some_iff.1 hrest
      have hname : u ⊆ s := by
        rw [afterClassName?, Option.orElse_eq_orElse, Option.orElse_eq_or,
          Option.or_eq_some_iff] at hu
        rcases hu with hu | ⟨-, hu⟩
        · exact after?_subset hu
        · exact after?_subset hu
      exact List.Subset.trans (untilQuote?_subset hv)
        (List.Subset.trans (openingQuote?_subset hquote) hname)
    · cases h
  · cases h

/-- What a changed line has to be: one line, that begins as the line of its stretch did. -/
structure Fits (line : List Char) (s : Span) (new : List Char) : Prop where
  oneLine : IsOneLine new
  before : ∀ start, start ≤ s.first → start ≤ line.length → new.take start = line.take start

theorem Fits.splice {line text : List Char} (hline : IsOneLine line) (htext : IsOneLine text)
    {s : Span} {first : Nat} (h : s.first ≤ first) (stop : Nat) :
    Fits line s (splice line first stop text) :=
  ⟨isOneLine_splice hline htext first stop, fun _ hstart hlen => take_splice (hstart.trans h) hlen⟩

/-- Entries that are put into a style attribute change nothing outside of the stretch. -/
theorem fits_of_mergeStyle {ls : List (List Char)} {entries : Entries} {s : Span} {new : List Char}
    (h : mergeStyle ls entries s = .changed new) (hline : IsOneLine (ls.getD s.row []))
    (hentries : entries.AreOneLine) (hspan : s.first ≤ s.stop) :
    Fits (ls.getD s.row []) s new ∧ (ls.getD s.row []).drop s.stop <:+ new := by
  unfold mergeStyle at h
  simp only at h
  split at h
  · next n body length hfirst =>
    obtain rfl := Finding.changed.inj h
    obtain ⟨hn, hstop, prev, hobject⟩ := firstIn_spec hfirst
    obtain ⟨hbody, hlength⟩ := styleObjectAt_spec hobject
    rw [List.length_drop, List.length_take] at hlength
    have hin : n + length ≤ s.stop := by
      have := hstop hspan
      omega
    have hread := areOneLine_readEntries (((hline.take s.stop).drop n).of_subset hbody)
    exact ⟨.splice hline (isOneLine_styleAttribute (hread.merge hentries)) hn _,
      suffix_splice hin⟩
  · split at h <;> cases h

theorem isOneLine_addClassWord {value name : List Char} (hvalue : IsOneLine value)
    (hname : IsOneLine name) : IsOneLine (addClassWord value name) := by
  unfold addClassWord
  split
  · exact hvalue
  · split
    · exact hname
    · exact hvalue.append (hname.cons (by decide))

theorem isOneLine_addClassToExpression {expr name : List Char} (hexpr : IsOneLine expr)
    (hname : IsOneLine name) : IsOneLine (addClassToExpression expr name) := by
  have hopen : IsOneLine "className=\x7b\x60$\x7b".toList := by decide
  have hmiddle : IsOneLine "\x7d ".toList := by decide
  have hclose : IsOneLine "\x60\x7d".toList := by decide
  exact (((hopen.append hexpr).append hmiddle).append hname).append hclose

theorem fits_of_attachClass {ls : List (List Char)} {name : List Char} {s : Span}
    {new : List Char} (h : attachClass ls name s = .changed new)
    (hline : IsOneLine (ls.getD s.row [])) (hname : IsOneLine name) :
    Fits (ls.getD s.row []) s new := by
  unfold attachClass at h
  simp only at h
  split at h
  · next n value offset hfirst =>
    obtain rfl := Finding.changed.inj h
    obtain ⟨hn, -, prev, htext⟩ := firstIn_spec hfirst
    have hvalue := ((hline.take s.stop).drop n).of_subset (classTextAt_subset htext)
    exact .splice hline (isOneLine_addClassWord hvalue hname) (by omega) _
  · split at h
    · next n offset hfirst =>
      obtain ⟨hn, -⟩ := firstIn_spec hfirst
      split at h
      · cases h
      · next close hclose =>
        split at h
        · obtain rfl := Finding.changed.inj h
          exact ⟨hline, fun _ _ _ => rfl⟩
        · obtain rfl := Finding.changed.inj h
          have hexpr := ((hline.take close).drop (n + offset + 1)).of_subset
            (trim_sublist _).subset
          exact .splice hline (isOneLine_addClassToExpression hexpr hname) hn _
    · cases h

/-! ### The whole content -/

/-- How a content is rewritten, when all that is written into it is on one line. -/
inductive Rewrites (content : List Char) (c : Change) (line : Int) : Method → List Char → Prop
  | inline {out : List Char} (oneLine : c.styles.AreOneLine)
      (done : applyInline content c line = .ok out) : Rewrites content c line .inline out
  | byClass {name out : List Char} (oneLine : IsOneLine name)
      (done : applyClass content c line name = .ok out) : Rewrites content c line .byClass out

/-- Whether a new content differs from the old one in a stretch of the element's tag only, and that
stretch is near. -/
structure StaysIn (p : Place) (s : Span) (out : List Char) : Prop where
  stretch : s ∈ tagSpans p.lines p.row p.start
  near : p.row ≤ s.row ∧ s.row < p.row + maxTagLines
  there : s.row < p.lines.length
  count : (lines out).length = p.lines.length
  others : ∀ row, row ≠ s.row → (lines out)[row]? = p.lines[row]?
  before : ((lines out).getD p.row []).take p.start = (p.lines.getD p.row []).take p.start

theorem getD_set_self {ls : List (List Char)} {row : Nat} (h : row < ls.length) (new : List Char) :
    (ls.set row new).getD row [] = new := by
  rw [List.getD_eq_getElem?_getD, List.getElem?_set_self h]
  rfl

theorem staysIn_of_fits {p : Place} {content : List Char} {line : Int} (hp : p.IsOn content line)
    {s : Span} (hs : s ∈ tagSpans p.lines p.row p.start) {new : List Char}
    (h : Fits (p.lines.getD s.row []) s new) :
    lines (unlines (p.lines.set s.row new)) = p.lines.set s.row new ∧
      StaysIn p s (unlines (p.lines.set s.row new)) := by
  obtain ⟨hlow, hhigh, hin, -, hfirst⟩ := mem_tagSpans hp.there hp.start_lt hs
  have hlines : lines (unlines (p.lines.set s.row new)) = p.lines.set s.row new := by
    rw [hp.lines]
    exact lines_unlines_set content s.row h.oneLine
  refine ⟨hlines, hs, ⟨hlow, hhigh⟩, hin, ?_, ?_, ?_⟩
  · rw [hlines, List.length_set]
  · intro row hrow
    rw [hlines, List.getElem?_set_ne hrow.symm]
  · rw [hlines]
    by_cases hrow : s.row = p.row
    · rw [hrow] at h ⊢
      rw [getD_set_self hp.there]
      exact h.before _ (hfirst hrow).ge hp.start_lt.le
    · rw [List.getD_eq_getElem?_getD, List.getElem?_set_ne hrow, ← List.getD_eq_getElem?_getD]

/-- An edit stays in the tag, when what it finds and what it inserts do. -/
theorem edit_staysIn {p : Place} {content : List Char} {line : Int} (hp : p.IsOn content line)
    {find : Span → Finding} {text out : List Char} (h : edit p find text = .ok out)
    (htext : IsOneLine text)
    (hfound : ∀ s ∈ tagSpans p.lines p.row p.start, ∀ new, find s = .changed new →
      Fits (p.lines.getD s.row []) s new) :
    ∃ s new, lines out = p.lines.set s.row new ∧ StaysIn p s out ∧
      (find s = .changed new ∨ (p.lines.getD s.row []).drop s.stop <:+ new) := by
  obtain ⟨s, hs, new, hedited, rfl⟩ := edit_cases hp.there h
  cases hedited with
  | changed hnew =>
    obtain ⟨hlines, hstays⟩ := staysIn_of_fits hp hs (hfound s hs new hnew)
    exact ⟨s, new, hlines, hstays, .inl hnew⟩
  | inserted hfirst =>
    obtain ⟨hone, hbefore, hbehind⟩ :=
      insertAttribute_spec hp.opens (hp.isOneLine p.row) htext p.tag.length
    subst hfirst
    have hfits : Fits (p.lines.getD p.row [])
        ⟨p.row, p.start, firstStop (p.lines.getD p.row []) p.start⟩
        (insertAttribute (p.lines.getD p.row []) p.start p.tag.length text) := by
      refine ⟨hone, fun start hstart hlen => ?_⟩
      have hshort := (List.take_prefix_take_left (l := p.lines.getD p.row []) hstart).trans hbefore
      rw [List.prefix_iff_eq_take.1 hshort, List.length_take, Nat.min_eq_left hlen]
    obtain ⟨hlines, hstays⟩ := staysIn_of_fits hp hs hfits
    exact ⟨_, _, hlines, hstays, .inr hbehind⟩

/-- Where a content is rewritten, the element is on its line, and only one line is another one
afterwards: a line of the element's tag, among the lines that a tag may take. What stands before the
tag stays, and so does what stands behind the stretch when the style is written into the tag. -/
theorem rewrites_staysIn {content : List Char} {c : Change} {line : Int} {m : Method}
    {out : List Char} (h : Rewrites content c line m out) :
    ∃ p, locate content c line = .ok p ∧ p.IsOn content line ∧ ∃ s, StaysIn p s out ∧
      (m = .inline →
        (p.lines.getD s.row []).drop s.stop <:+ (lines out).getD s.row []) := by
  cases h with
  | inline hstyles done =>
    unfold applyInline at done
    cases hplace : locate content c line with
    | error f => rw [hplace] at done; cases done
    | ok p =>
      cases hnew : entriesOf c.styles with
      | error f => rw [hplace, hnew] at done; cases done
      | ok entries =>
        rw [hplace, hnew] at done
        have hp := locate_isOn hplace
        have hentries := areOneLine_entriesOf hnew hstyles
        have hfits (s : Span) (hs : s ∈ tagSpans p.lines p.row p.start) (new : List Char)
            (hfound : mergeStyle p.lines entries s = .changed new) :=
          fits_of_mergeStyle hfound (hp.isOneLine s.row) hentries
            (mem_tagSpans hp.there hp.start_lt hs).2.2.2.1
        obtain ⟨s, new, hlines, hstays, hbehind⟩ := edit_staysIn hp done
          (isOneLine_styleAttribute hentries) fun s hs new hfound => (hfits s hs new hfound).1
        refine ⟨p, rfl, hp, s, hstays, fun _ => ?_⟩
        rw [hlines, getD_set_self hstays.there]
        exact hbehind.elim (fun hfound => (hfits s hstays.stretch new hfound).2) id
  | @byClass name _ hname done =>
    unfold applyClass at done
    cases hplace : locate content c line with
    | error f => rw [hplace] at done; cases done
    | ok p =>
      rw [hplace] at done
      have hp := locate_isOn hplace
      have htext : IsOneLine ("className=\"".toList ++ name ++ ['"']) := by
        have hopen : IsOneLine "className=\"".toList := by decide
        exact (hopen.append hname).append (by decide)
      obtain ⟨s, new, -, hstays, -⟩ := edit_staysIn hp done htext
        fun s _ new hfound => fits_of_attachClass hfound (hp.isOneLine s.row) hname
      exact ⟨p, rfl, hp, s, hstays, by rintro ⟨⟩⟩

theorem redDiv_areOneLine : redDiv.styles.AreOneLine := by
  intro d hd
  obtain rfl := List.mem_singleton.1 hd
  exact ⟨by decide, by decide⟩

/-- A tag over two lines: its style attribute is on the second one, and behind it stands a text. -/
theorem rewrites_staysIn_second_line :
    Rewrites "<p><div\nstyle=\x7b\x7btop: 2\x7d\x7d>b".toList redDiv 1 .inline
      "<p><div\nstyle=\x7b\x7b top: 2, color: 'red' \x7d\x7d>b".toList ∧
    ∃ p s, StaysIn p s "<p><div\nstyle=\x7b\x7b top: 2, color: 'red' \x7d\x7d>b".toList ∧
      (p.row : Int) = 0 := by
  have hdone : applyInline "<p><div\nstyle=\x7b\x7btop: 2\x7d\x7d>b".toList redDiv 1 =
      .ok "<p><div\nstyle=\x7b\x7b top: 2, color: 'red' \x7d\x7d>b".toList := by decide +kernel
  have h := Rewrites.inline redDiv_areOneLine hdone
  obtain ⟨p, -, hp, s, hstays, -⟩ := rewrites_staysIn h
  exact ⟨h, p, s, hstays, hp.row⟩

end Restyle.Style
