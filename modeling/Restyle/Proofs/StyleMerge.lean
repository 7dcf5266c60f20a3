import Restyle.Proofs.Pairs
import Restyle.Proofs.StyleReading

/-!
What a style object keeps when new entries are put over it: all segments of its body, exactly when
each of them is a name with a value that the reader does not cut.
-/
namespace Restyle.Style

open Text Markup

/-! ### Segments one after the other -/

/-- A body is one segment, or a segment, a comma outside of quotes, and the segments of the rest. -/
theorem segmentsFrom_cases (s : Markup.Scan) (before text : List Char) :
    segmentsFrom s before text = [before.reverse ++ text] ∨
    ∃ a b, text = a ++ ',' :: b ∧ (nesting s a).quote = none ∧
      segmentsFrom s before text = (before.reverse ++ a) :: segmentsFrom .start [] b := by
  induction text generalizing s before with
  | nil => exact .inl (by simp [segmentsFrom])
  | cons c text ih =>
    cases hc : separates s c with
    | true =>
      simp only [separates, Bool.and_eq_true, Option.isNone_iff_eq_none, beq_iff_eq] at hc
      obtain ⟨⟨hquote, hdepth⟩, rfl⟩ := hc
      refine .inr ⟨[], text, rfl, hquote, ?_⟩
      rw [segmentsFrom, if_pos (by simp [separates, hquote, hdepth])]
      simp
    | false =>
      have hstep : segmentsFrom s before (c :: text) =
          segmentsFrom (s.step (asBrace c)) (c :: before) text := by
        rw [segmentsFrom, if_neg (by simp [hc])]
      rcases ih (s.step (asBrace c)) (c :: before) with h | ⟨a, b, rfl, hquote, h⟩
      · exact .inl (by rw [hstep, h]; simp)
      · exact .inr ⟨c :: a, b, rfl, hquote, by rw [hstep, h]; simp⟩

theorem segments_singleton {body : List Char}
    (h : segmentsFrom .start [] body = [body]) :
    segments body = if body.all isBlank then [] else [body] := by
  cases hb : body.all isBlank <;> simp [segments, h, hb]

theorem segments_cons {a b body : List Char}
    (h : segmentsFrom .start [] body = a :: segmentsFrom .start [] b) :
    segments body = if a.all isBlank then segments b else a :: segments b := by
  cases ha : a.all isBlank <;> simp [segments, h, ha]

/-- Where no segment is cut the reader finds one entry for each of them, in order. -/
theorem found_spells (body : List Char)
    (h : ∀ s ∈ segments body, ∃ e, Spells s e ∧ IsUncut e.2) :
    List.Forall₂ Spells (segments body) (found body) := by
  induction hn : body.length using Nat.strongRecOn generalizing body with
  | _ n ih =>
  rcases segmentsFrom_cases .start [] body with hone | ⟨a, b, rfl, hquote, hmore⟩
  · have hseg := segments_singleton hone
    rw [hseg] at h ⊢
    by_cases hblank : body.all isBlank
    · have hfound := found_of_isBlank (List.all_eq_true.1 hblank) []
      rw [List.append_nil] at hfound
      rw [if_pos hblank, hfound]
      exact .nil
    · rw [if_neg hblank] at h ⊢
      obtain ⟨e, he, huncut⟩ := h body List.mem_cons_self
      have hfound := found_append he huncut (.inl ⟨rfl, rfl⟩) (fun hne => absurd rfl hne)
      rw [List.append_nil] at hfound
      rw [hfound]
      exact .cons he .nil
  · rw [List.reverse_nil, List.nil_append] at hmore
    have hseg := segments_cons hmore
    have hlt : b.length < n := by
      rw [← hn, List.length_append, List.length_cons]
      omega
    rw [hseg] at h ⊢
    by_cases hblank : a.all isBlank
    · rw [if_pos hblank] at h ⊢
      rw [found_of_isBlank (List.all_eq_true.1 hblank), found_comma]
      exact ih b.length hlt b h rfl
    · rw [if_neg hblank] at h ⊢
      obtain ⟨e, he, huncut⟩ := h a List.mem_cons_self
      rw [found_append he huncut (.inr rfl) (fun _ => hquote)]
      exact .cons he (ih b.length hlt b (fun s hs => h s (List.mem_cons_of_mem _ hs)) rfl)

/-! ### What is found is not cut -/

theorem mem_hits {α : Type} {test : Option Char → List Char → Option (α × Nat)}
    {prev : Option Char} {skip : Nat} {s : List Char} {a : α} (h : a ∈ hits test prev skip s) :
    ∃ p t n, t <:+ s ∧ test p t = some (a, n) := by
  have shift {c : Char} {s : List Char} :
      (∃ p t n, t <:+ s ∧ test p t = some (a, n)) →
        ∃ p t n, t <:+ c :: s ∧ test p t = some (a, n) :=
    fun ⟨p, t, n, ht, hn⟩ => ⟨p, t, n, ht.trans (List.suffix_cons c s), hn⟩
  induction s generalizing prev skip with
  | nil => cases h
  | cons c s ih =>
    cases skip with
    | succ k => exact shift (ih h)
    | zero =>
      rw [hits] at h
      split at h
      · next x n hx =>
        rcases List.mem_cons.1 h with rfl | h
        · exact ⟨prev, c :: s, n, List.suffix_refl _, hx⟩
        · exact shift (ih h)
      · exact shift (ih h)

theorem trim_sublist (s : List Char) : (trim s).Sublist s := by
  obtain ⟨a, b, -, -, hs, -⟩ := exists_trim s
  conv => rhs; rw [hs]
  exact ((trim s).sublist_append_left b).trans (List.sublist_append_right a _)

theorem comma_notMem_of_plainValue {s v r : List Char} (h : plainValue s = some (v, r)) :
    ',' ∉ v := by
  induction s generalizing v r with
  | nil => cases h
  | cons c s ih =>
    rw [plainValue] at h
    split at h
    · cases h
    · next hc =>
      have hne : ',' ≠ c := by
        rintro rfl
        exact hc rfl
      split at h
      · obtain ⟨rfl, rfl⟩ := Prod.mk.inj (Option.some.inj h)
        simpa using hne
      · obtain ⟨⟨v', r'⟩, hv, he⟩ := Option.map_eq_some_iff.1 h
        obtain ⟨rfl, rfl⟩ := Prod.mk.inj he
        rw [List.mem_cons, not_or]
        exact ⟨hne, ih hv⟩

theorem IsText.trim_eq {text : List Char} (h : IsText text) : trim text = text := by
  apply trim_of_ends
  · intro c hc
    cases h with
    | quoted quote between =>
      obtain rfl := Option.some.inj hc
      exact isBlank_eq_false_of_quote (isQuote_of_or quote)
    | accents once =>
      obtain rfl := Option.some.inj hc
      decide
  · intro c hc
    obtain ⟨q, hlast, hq⟩ := h.getLast?
    obtain rfl := Option.some.inj (hc.symm.trans hlast)
    exact isBlank_eq_false_of_quote hq

theorem isUncut_of_valueAt {s v r : List Char} (h : valueAt s = some (v, r)) : IsUncut (trim v) := by
  have hplain : ∀ {v r}, plainValue s = some (v, r) → IsUncut (trim v) := fun h =>
    .inr fun hm => comma_notMem_of_plainValue h ((trim_sublist _).mem hm)
  rw [valueAt] at h
  split at h
  · next t u ht =>
    split at h
    · obtain ⟨rfl, rfl⟩ := Prod.mk.inj (Option.some.inj h)
      have htext := (textAt_eq_some_iff.1 ht).1
      exact .inl (htext.trim_eq.symm ▸ htext)
    · exact hplain h
  · exact hplain h

theorem isUncut_of_valueAfterColon {s v r : List Char} (h : valueAfterColon s = some (v, r)) :
    IsUncut (trim v) := by
  rw [valueAfterColon] at h
  split at h
  · next w hw =>
    cases h
    exact isUncut_of_valueAt hw
  · split at h
    · next b hb =>
      obtain ⟨u, hu, he⟩ := Option.map_eq_some_iff.1 h
      obtain ⟨rfl, rfl⟩ := Prod.mk.inj he
      have hblank := isBlank_takeWhile s b (List.mem_of_getLast? hb)
      have htrim : trim [b] = [] := by
        apply trim_of_isBlank
        intro c hc
        rw [List.mem_singleton.1 hc]
        exact hblank
      rw [htrim]
      exact .inr List.not_mem_nil
    · cases h

theorem isUncut_of_mem_found {body : List Char} {e : List Char × List Char} (h : e ∈ found body) :
    IsUncut e.2 := by
  obtain ⟨-, t, n, -, ht⟩ := mem_hits h
  rw [entryAt] at ht
  split at ht
  · cases ht
  · split at ht
    · split at ht
      · next hv =>
        obtain ⟨rfl, -⟩ := Prod.mk.inj (Option.some.inj ht)
        exact isUncut_of_valueAfterColon hv
      · cases ht
    · cases ht

/-! ### Putting entries over others -/

theorem merge_cons (old new : Entries) (e : List Char × List Char) :
    merge old (e :: new) = merge (assign e.1 e.2 old) new := rfl

/-- An entry stays unless a later one of its name has another value. -/
theorem mem_merge {old new : Entries} {e : List Char × List Char} (h : e ∈ old ∨ e ∈ new)
    (hsame : ∀ e' ∈ new, e'.1 = e.1 → e' = e) : e ∈ merge old new := by
  induction new generalizing old with
  | nil => exact h.resolve_right List.not_mem_nil
  | cons x new ih =>
    rw [merge_cons]
    apply ih
    · by_cases hx : x = e
      · subst hx
        exact .inl (mem_assign_self _ _ _)
      · rcases h with h | h
        · refine .inl (mem_assign_of_ne h ?_)
          intro heq
          exact hx (hsame x List.mem_cons_self heq.symm)
        · exact .inr ((List.mem_cons.1 h).resolve_left fun e => hx e.symm)
    · exact fun e' he' => hsame e' (List.mem_cons_of_mem _ he')

theorem mem_or_of_mem_merge {old new : Entries} {e : List Char × List Char}
    (h : e ∈ merge old new) : e ∈ old ∨ e ∈ new := by
  induction new generalizing old with
  | nil => exact .inl h
  | cons x new ih =>
    rw [merge_cons] at h
    rcases ih h with h | h
    · rcases mem_assign h with rfl | h
      · exact .inr List.mem_cons_self
      · exact .inl h
    · exact .inr (List.mem_cons_of_mem _ h)

theorem nodup_keys_merge {old : Entries} (h : (old.map (·.1)).Nodup) (new : Entries) :
    ((merge old new).map (·.1)).Nodup := by
  induction new generalizing old with
  | nil => exact h
  | cons x new ih =>
    rw [merge_cons]
    exact ih (nodup_assign h _ _)

theorem readEntries_eq (body : List Char) : readEntries body = merge [] (found body) := rfl

theorem eq_of_mem_readEntries {body : List Char} {e e' : List Char × List Char}
    (h : e ∈ readEntries body) (h' : e' ∈ readEntries body) (hkey : e.1 = e'.1) : e = e' := by
  rw [readEntries_eq] at h h'
  have hnodup : (([] : Entries).map (·.1)).Nodup := by simp
  exact List.inj_on_of_nodup_map (nodup_keys_merge hnodup _) h h' hkey

theorem isUncut_of_mem_readEntries {body : List Char} {e : List Char × List Char}
    (h : e ∈ readEntries body) : IsUncut e.2 := by
  rw [readEntries_eq] at h
  exact isUncut_of_mem_found ((mem_or_of_mem_merge h).resolve_left List.not_mem_nil)

/-! ### What is written -/

theorem infix_intercalate {α : Type} {sep x : List α} {l : List (List α)} (h : x ∈ l) :
    x <:+: sep.intercalate l := by
  induction l with
  | nil => cases h
  | cons a l ih =>
    cases l with
    | nil =>
      rw [List.mem_singleton.1 h]
      simp [List.intercalate]
    | cons b l =>
      rw [List.intercalate_cons_cons]
      rcases List.mem_cons.1 h with rfl | h
      · exact ⟨[], sep ++ sep.intercalate (b :: l), by simp⟩
      · exact (ih h).trans (List.suffix_append _ _).isInfix

theorem infix_styleAttribute {entries : Entries} {e : List Char × List Char} (h : e ∈ entries) :
    writeName e.1 ++ ':' :: ' ' :: e.2 <:+: styleAttribute entries := by
  have hbody : writeName e.1 ++ ':' :: ' ' :: e.2 <:+: writeBody entries :=
    infix_intercalate (List.mem_map_of_mem (f := fun e => writeName e.1 ++ ':' :: ' ' :: e.2) h)
  obtain ⟨a, b, hab⟩ := hbody
  refine ⟨"style=".toList ++ ("\x7b\x7b ".toList ++ a), b ++ " \x7d\x7d".toList, ?_⟩
  have hwritten : styleAttribute entries =
      "style=".toList ++ ("\x7b\x7b ".toList ++ writeBody entries ++ " \x7d\x7d".toList) := rfl
  rw [hwritten, ← hab]
  simp only [List.append_assoc]

/-! ### Changing the attribute -/

/-- Whether of all stretches of the element's tag `s` is the first with a style attribute, which
has an object: where on the line it starts, its body and its length. -/
structure Captures (place : Place) (s : Span) (n : Nat) (body : List Char) (length : Nat) :
    Prop where
  first : ∃ before after, tagSpans place.lines place.row place.start = before ++ s :: after ∧
    ∀ s' ∈ before,
      firstIn styleObjectAt (place.lines.getD s'.row []) s'.first s'.stop = none ∧
      firstIn styleNameAt (place.lines.getD s'.row []) s'.first s'.stop = none
  object : firstIn styleObjectAt (place.lines.getD s.row []) s.first s.stop = some (n, body, length)

/-- The content when another text stands in place of the attribute. -/
def Place.replaced (place : Place) (s : Span) (n length : Nat) (text : List Char) : List Char :=
  unlines (place.lines.set s.row (splice (place.lines.getD s.row []) n (n + length) text))

theorem firstFinding_of_found {find : Span → Finding} {before after : List Span} {s : Span}
    (hbefore : ∀ s' ∈ before, find s' = .absent) (hs : find s ≠ .absent) :
    firstFinding find (before ++ s :: after) = some (s.row, find s) := by
  induction before with
  | nil =>
    rw [List.nil_append, firstFinding]
    cases hfind : find s with
    | absent => exact absurd hfind hs
    | changed line => rfl
    | refused problem => rfl
  | cons x before ih =>
    rw [List.cons_append, firstFinding, hbefore x List.mem_cons_self]
    exact ih fun s' hs' => hbefore s' (List.mem_cons_of_mem _ hs')

theorem Captures.edit_eq {place : Place} {s : Span} {n length : Nat} {body : List Char}
    (h : Captures place s n body length) (new : Entries) (text : List Char) :
    edit place (mergeStyle place.lines new) text =
      .ok (place.replaced s n length (styleAttribute (merge (readEntries body) new))) := by
  obtain ⟨before, after, hspans, hbefore⟩ := h.first
  have habsent : ∀ s' ∈ before, mergeStyle place.lines new s' = .absent := by
    intro s' hs'
    obtain ⟨hobject, hname⟩ := hbefore s' hs'
    simp only [mergeStyle, hobject, hname]
    rfl
  have hchanged : mergeStyle place.lines new s = .changed (splice (place.lines.getD s.row []) n
      (n + length) (styleAttribute (merge (readEntries body) new))) := by
    simp only [mergeStyle, h.object]
  have hfound : mergeStyle place.lines new s ≠ .absent := by
    rw [hchanged]
    exact fun h => nomatch h
  rw [edit, hspans, firstFinding_of_found habsent hfound, hchanged]
  rfl

/-- Whether a segment is among the entries. -/
def Keeps (entries : Entries) (segment : List Char) : Prop := ∃ e ∈ entries, Spells segment e

/-- A name does not start with a blank. -/
theorem IsName.skipBlanks_append {text name : List Char} (h : IsName text name) (y : List Char) :
    skipBlanks (text ++ y) = text ++ y := by
  apply skipBlanks_of_head
  intro c hc
  cases h with
  | word first rest =>
    obtain rfl := Option.some.inj hc
    exact isBlank_eq_false_of_part (isIdentifierPart_of_starts first)
  | quoted quote between once =>
    obtain rfl := Option.some.inj hc
    exact isBlank_eq_false_of_quote (isQuote_of_or quote)

theorem Spells.unique {segment : List Char} {e e' : List Char × List Char}
    (h : Spells segment e) (h' : Spells segment e') : e = e' := by
  have hread {e : List Char × List Char} (h : Spells segment e) :
      ∃ rest value, nameAt (skipBlanks segment) = some (e.1, rest) ∧
        skipBlanks rest = ':' :: value ∧ trim value = e.2 := by
    obtain ⟨before, name, between, value, hbefore, hname, hb, -, rfl, htrim⟩ := h
    refine ⟨between ++ ':' :: value, value, ?_, ?_, htrim⟩
    · rw [skipBlanks_append_of_blank hbefore, hname.skipBlanks_append]
      exact nameAt_append hname.reads (isIdentifierPart_before_colon hb value)
    · rw [skipBlanks_append_of_blank hb]
      rfl
  obtain ⟨rest, value, hname, hskip, htrim⟩ := hread h
  obtain ⟨rest', value', hname', hskip', htrim'⟩ := hread h'
  rw [hname] at hname'
  obtain ⟨hkey, rfl⟩ := Prod.mk.inj (Option.some.inj hname')
  rw [hskip] at hskip'
  obtain ⟨-, rfl⟩ := List.cons.inj hskip'
  exact Prod.ext hkey (htrim.symm.trans htrim')

/-- Whether a body can be read without loss: each segment is a name with a value that is not cut,
and no two give a name different values. -/
def IsReadable (body : List Char) : Prop :=
  ∀ s ∈ segments body, ∃ e, Spells s e ∧ IsUncut e.2 ∧
    ∀ s' ∈ segments body, ∀ e', Spells s' e' → e'.1 = e.1 → e' = e

theorem IsReadable.keeps {body : List Char} (h : IsReadable body) {s : List Char}
    (hs : s ∈ segments body) {new : Entries} (hnew : ∀ e, Spells s e → e.1 ∉ new.map (·.1)) :
    Keeps (merge (readEntries body) new) s := by
  obtain ⟨e, he, -, hsame⟩ := h s hs
  have hfound := found_spells body fun s hs =>
    let ⟨e, he, huncut, _⟩ := h s hs
    ⟨e, he, huncut⟩
  have hmem : e ∈ found body := by
    obtain ⟨e', hm, he'⟩ := exists_mem_of_forall₂ hfound hs
    rwa [he.unique he']
  have hold : e ∈ readEntries body := by
    rw [readEntries_eq]
    apply mem_merge (.inr hmem)
    intro e' he' hkey
    obtain ⟨s', hs', hspells⟩ := exists_mem_of_forall₂ hfound.flip he'
    exact hsame s' hs' e' hspells hkey
  refine ⟨e, mem_merge (.inl hold) ?_, he⟩
  intro e' he' hkey
  exact absurd (hkey ▸ List.mem_map_of_mem he') (hnew e he)

theorem isReadable_of_keeps {body : List Char}
    (h : ∀ s ∈ segments body, Keeps (readEntries body) s) : IsReadable body := by
  intro s hs
  obtain ⟨e, hm, he⟩ := h s hs
  refine ⟨e, he, isUncut_of_mem_readEntries hm, ?_⟩
  intro s' hs' e' he' hkey
  obtain ⟨e'', hm'', he''⟩ := h s' hs'
  obtain rfl := he'.unique he''
  exact eq_of_mem_readEntries hm'' hm hkey

variable {content : List Char} {c : Change} {line : Int} {place : Place} {s : Span}
  {n length : Nat} {body : List Char}

/-- A changed attribute shows all entries that were read and are not named anew; and these are all
segments of the old body, whatever the new styles are, exactly when each segment is a name with a
value that is a text in quotes or has no comma in it. -/
theorem applyInline_keeps_iff (hplace : locate content c line = .ok place)
    (hbody : Captures place s n body length) :
    (∀ styles new, entriesOf styles = .ok new →
      ∃ written, applyInline content { c with styles } line = .ok (place.replaced s n length written) ∧
        ∀ e ∈ merge (readEntries body) new, writeName e.1 ++ ':' :: ' ' :: e.2 <:+: written) ∧
    ((∀ styles new, entriesOf styles = .ok new → ∀ segment ∈ segments body,
        (∀ e, Spells segment e → e.1 ∉ new.map (·.1)) →
        Keeps (merge (readEntries body) new) segment) ↔
      IsReadable body) := by
  refine ⟨?_, ?_, ?_⟩
  · intro styles new hnew
    refine ⟨styleAttribute (merge (readEntries body) new), ?_, fun e he => infix_styleAttribute he⟩
    have hlocate : locate content { c with styles } line = .ok place := hplace
    have hedit := hbody.edit_eq new (styleAttribute new)
    simp only [applyInline, hlocate, hnew, faulty]
    exact hedit
  · intro hkeeps
    apply isReadable_of_keeps
    intro segment hs
    exact hkeeps [] [] rfl segment hs fun _ _ => List.not_mem_nil
  · intro hreadable styles new _ segment hs hnew
    exact hreadable.keeps hs hnew

/-- Asks for a red `div`. -/
def redDiv : Change where
  selector := .null
  styles := [(.text "color", .str "red")]
  id := .null
  classes := .null
  tag := .str "div"
  source := none

/-- The last line holds the style attribute; a text in it has a comma, and a name has quotes. -/
def listedStyles : List Char :=
  "<div id='x'\n  style=\x7b\x7b font: \"a, b\", 'top': 2, \x7d\x7d>".toList

def listedPlace : Place := ⟨lines listedStyles, 0, 0, "div".toList⟩

def listedBody : List Char := " font: \"a, b\", 'top': 2, ".toList

theorem applyInline_keeps_iff_listed :
    locate listedStyles redDiv 1 = .ok listedPlace ∧
    Captures listedPlace ⟨1, 0, 37⟩ 2 listedBody 35 ∧
    ((∀ styles new, entriesOf styles = .ok new → ∀ segment ∈ segments listedBody,
        (∀ e, Spells segment e → e.1 ∉ new.map (·.1)) →
        Keeps (merge (readEntries listedBody) new) segment) ↔
      IsReadable listedBody) := by
  have hplace : locate listedStyles redDiv 1 = .ok listedPlace := by decide +kernel
  have hbody : Captures listedPlace ⟨1, 0, 37⟩ 2 listedBody 35 :=
    ⟨⟨[⟨0, 0, 11⟩], [], by decide +kernel, by decide +kernel⟩, by decide +kernel⟩
  exact ⟨hplace, hbody, (applyInline_keeps_iff hplace hbody).2⟩

/-- The one segment of a style object has a function call for its value, and the call is cut at its
comma when another name is set. -/
theorem applyInline_cuts_call :
    segments " width: min(1, 2) ".toList = [" width: min(1, 2) ".toList] ∧
    Spells " width: min(1, 2) ".toList ("width".toList, "min(1, 2)".toList) ∧
    ∃ out, applyInline "<div style=\x7b\x7b width: min(1, 2) \x7d\x7d>".toList redDiv 1 = .ok out ∧
      ¬ "min(1, 2)".toList <:+: out := by
  refine ⟨by decide +kernel, ?_, ?_⟩
  · refine ⟨[' '], "width".toList, [], " min(1, 2) ".toList, ?_, ?_, ?_, ?_, ?_, ?_⟩
    · intro c hc
      rw [List.mem_singleton.1 hc]
      decide
    · exact .word (by decide) (by decide +kernel)
    · exact fun c hc => absurd hc List.not_mem_nil
    · decide
    · decide
    · decide
  · exact ⟨"<div style=\x7b\x7b width: min(1, color: 'red' \x7d\x7d>".toList, by decide +kernel,
      by decide +kernel⟩

end Restyle.Style
