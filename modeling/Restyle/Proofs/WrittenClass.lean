import Restyle.Proofs.ClassExpression

/-!
What is found in a tag after its line changed. The stretches before that line are the same, its own
one ends where the scan of the new line says; and a class attribute that is written into it is the
first one there, unless something before it opens a text.
-/
namespace Restyle.Markup

/-! ### Where a stretch ends -/

theorem Scan.closing_append_eq_none {closer : Char} {s : Scan} {a b : List Char} :
    s.closing closer (a ++ b) = none ↔ s.closing closer a = none ∧
      (s.run a).closing closer b = none := by
  rw [closing_append]
  cases s.closing closer a with
  | some n => simp
  | none => simp

theorem Scan.closing_of_notMem {closer : Char} {s : Scan} {text : List Char} (h : closer ∉ text) :
    s.closing closer text = none := by
  cases hclosing : s.closing closer text with
  | none => rfl
  | some n => exact absurd (List.mem_of_getElem? (getElem?_of_closing hclosing)) h

/-- Nothing ends in quotes. -/
theorem Scan.closing_of_quote {closer : Char} {s : Scan} {q : Char} {w : List Char}
    (hs : s.quote = some q) (h : q ∉ w) : s.closing closer w = none := by
  cases hclosing : s.closing closer w with
  | none => rfl
  | some n =>
    have hends := ends_of_closing hclosing
    have hopen := quote_run hs (w := w.take n) fun hq => h (List.mem_of_mem_take hq)
    simp only [ends, hopen, Bool.and_eq_true] at hends
    exact absurd hends.1.1.1.1 (by simp)

/-- Where the stretch of a tag ends that begins at `first`. -/
def stretchStop (line : List Char) (first : Nat) : Nat :=
  (closingAt '>' line first).getD line.length

theorem stretchStop_le (line : List Char) (first : Nat) : stretchStop line first ≤ line.length := by
  unfold stretchStop
  cases h : closingAt '>' line first with
  | none => exact Nat.le_refl _
  | some stop => exact (List.getElem?_eq_some_iff.1 (closingAt_spec h).2).1.le

/-- A stretch reaches as far as nothing ends the tag. -/
theorem le_stretchStop_iff {line : List Char} {first m : Nat} (hfirst : first ≤ m)
    (hm : m ≤ line.length) :
    m ≤ stretchStop line first ↔ Scan.start.closing '>' ((line.take m).drop first) = none := by
  have hlength : ((line.take m).drop first).length = m - first := by
    rw [List.length_drop, List.length_take, Nat.min_eq_left hm]
  have hsplit : line.drop first = (line.take m).drop first ++ line.drop m := by
    have hle : first ≤ (line.take m).length := by
      rw [List.length_take]
      omega
    rw [← List.drop_append_of_le_length hle, List.take_append_drop]
  have hclosing := Scan.closing_append '>' .start ((line.take m).drop first) (line.drop m)
  rw [← hsplit] at hclosing
  rw [stretchStop, closingAt, hclosing]
  cases hfront : Scan.start.closing '>' ((line.take m).drop first) with
  | some k =>
    have hlt := Scan.closing_lt hfront
    simp only [Option.map_some, Option.getD_some, reduceCtorEq, iff_false]
    omega
  | none =>
    simp only [iff_true]
    cases (Scan.start.run ((line.take m).drop first)).closing '>' (line.drop m) with
    | none => exact hm
    | some k =>
      simp only [Option.map_some, Option.getD_some]
      omega

theorem tagEnd_eq_closingAt {cs : List Char} {start : Nat} (h : cs[start]? = some '<') :
    tagEnd cs start = closingAt '>' cs start := by
  obtain ⟨hlt, hget⟩ := List.getElem?_eq_some_iff.1 h
  have hbracket : Scan.start.closing '>' (cs.drop start) =
      (Scan.start.closing '>' (cs.drop (start + 1))).map (· + 1) := by
    rw [List.drop_eq_getElem_cons hlt, hget]
    rfl
  rw [tagEnd, closingAt, closingAt, hbracket, Option.map_map]
  congr 1
  funext n
  simp only [Function.comp_apply]
  omega

/-! ### The stretches after a line changed -/

theorem laterSpans_set {row : Nat} {lines : List (List Char)} {before after : List Span} {s : Span}
    (h : laterSpans row lines = before ++ s :: after) (line : List Char) :
    (∀ s' ∈ before, s'.row < s.row) ∧
      ∃ after', laterSpans row (lines.set (s.row - row) line) =
        before ++ ⟨s.row, 0, stretchStop line 0⟩ :: after' := by
  induction lines generalizing row before with
  | nil => cases before <;> cases h
  | cons l rest ih =>
    have hset (line : List Char) (rest : List (List Char)) : ∃ after',
        laterSpans row (line :: rest) = ⟨row, 0, stretchStop line 0⟩ :: after' := by
      rw [laterSpans, stretchStop]
      cases closingAt '>' line 0 with
      | some stop => exact ⟨[], rfl⟩
      | none => exact ⟨laterSpans (row + 1) rest, rfl⟩
    cases before with
    | nil =>
      obtain ⟨after', hold⟩ := hset l rest
      rw [hold] at h
      obtain ⟨rfl, -⟩ := List.cons.inj h
      refine ⟨fun s' hs' => absurd hs' List.not_mem_nil, ?_⟩
      obtain ⟨after', hnew⟩ := hset line rest
      exact ⟨after', by simpa using hnew⟩
    | cons x before =>
      rw [laterSpans] at h
      cases hend : closingAt '>' l 0 with
      | some stop =>
        rw [hend] at h
        cases before <;> cases h
      | none =>
        rw [hend] at h
        obtain ⟨rfl, hrest⟩ := List.cons.inj h
        obtain ⟨hbefore, after', hnew⟩ := ih hrest
        have hrow : row + 1 ≤ s.row := by
          have hmem : s ∈ laterSpans (row + 1) rest := by
            rw [hrest]
            simp
          exact (mem_laterSpans hmem).1
        have hnext : s.row - row = s.row - (row + 1) + 1 := by omega
        refine ⟨?_, after', ?_⟩
        · intro s' hs'
          rcases List.mem_cons.1 hs' with rfl | hs'
          · exact hrow
          · exact hbefore s' hs'
        · rw [hnext, List.set_cons_succ, laterSpans, hend]
          exact congrArg _ hnew

/-- The lines on which a tag may go on. -/
def linesBehind (lines : List (List Char)) (row : Nat) : List (List Char) :=
  (lines.drop (row + 1)).take (maxTagLines - 1)

theorem tagSpans_eq_cons {lines : List (List Char)} {row start : Nat}
    (hopen : (lines.getD row [])[start]? = some '<') :
    tagSpans lines row start = ⟨row, start, stretchStop (lines.getD row []) start⟩ ::
      if (tagEnd (lines.getD row []) start).isSome then []
      else laterSpans (row + 1) (linesBehind lines row) := by
  rw [tagSpans, stretchStop, ← tagEnd_eq_closingAt hopen]
  cases tagEnd (lines.getD row []) start <;> rfl

/-- When the line of a stretch changes, the stretches before it stay. -/
theorem tagSpans_set {lines : List (List Char)} {row start : Nat} (hrow : row < lines.length)
    (hopen : (lines.getD row [])[start]? = some '<') {before after : List Span} {s : Span}
    (h : tagSpans lines row start = before ++ s :: after) {cs : List Char}
    (hline : s.row = row → cs[start]? = some '<') :
    (∀ s' ∈ before, s'.row < s.row) ∧
      ∃ after', tagSpans (lines.set s.row cs) row start =
        before ++ ⟨s.row, s.first, stretchStop cs s.first⟩ :: after' := by
  rw [tagSpans_eq_cons hopen] at h
  cases before with
  | nil =>
    obtain ⟨rfl, -⟩ := List.cons.inj h
    have hnew : (lines.set row cs).getD row [] = cs := by
      rw [List.getD_eq_getElem?_getD, List.getElem?_set_self hrow]
      rfl
    have hopen' : ((lines.set row cs).getD row [])[start]? = some '<' := by
      rw [hnew]
      exact hline rfl
    refine ⟨fun s' hs' => absurd hs' List.not_mem_nil, ?_⟩
    rw [tagSpans_eq_cons hopen', hnew]
    exact ⟨_, rfl⟩
  | cons x before =>
    obtain ⟨rfl, hlater⟩ := List.cons.inj h
    split at hlater
    · cases before <;> cases hlater
    · next hend =>
      have hmem : s ∈ laterSpans (row + 1) (linesBehind lines row) := by
        rw [hlater]
        simp
      obtain ⟨hlow, -, hfirst⟩ := mem_laterSpans hmem
      obtain ⟨hbefore, after', hnew⟩ := laterSpans_set hlater cs
      have hsame : (lines.set s.row cs).getD row [] = lines.getD row [] := by
        rw [List.getD_eq_getElem?_getD, List.getElem?_set_ne (by omega),
          ← List.getD_eq_getElem?_getD]
      have hbehind : linesBehind (lines.set s.row cs) row =
          (linesBehind lines row).set (s.row - (row + 1)) cs := by
        rw [linesBehind, linesBehind, List.drop_set, if_neg (by omega), List.take_set]
      refine ⟨?_, after', ?_⟩
      · intro s' hs'
        rcases List.mem_cons.1 hs' with rfl | hs'
        · exact hlow
        · exact hbefore s' hs'
      · rw [tagSpans_eq_cons (by rwa [hsame]), hsame, if_neg hend, hbehind, hnew, hfirst]
        rfl

/-- Every stretch of a tag ends where the scan of its line says. -/
theorem stop_eq_stretchStop {lines : List (List Char)} {row start : Nat} (hrow : row < lines.length)
    (hopen : (lines.getD row [])[start]? = some '<') {s : Span}
    (h : s ∈ tagSpans lines row start) : s.stop = stretchStop (lines.getD s.row []) s.first := by
  obtain ⟨before, after, hspans⟩ := List.append_of_mem h
  have hline : s.row = row → (lines.getD s.row [])[start]? = some '<' := fun e => e ▸ hopen
  obtain ⟨-, after', hnew⟩ := tagSpans_set hrow hopen hspans hline
  rw [Style.set_getD_self, hspans] at hnew
  exact congrArg Span.stop (List.cons.inj (List.append_cancel_left hnew)).1

end Restyle.Markup

namespace Restyle.Style

open Text Markup

/-! ### Texts that open -/

/-- What begins a joined text begins its first part, or goes on into the second one. -/
theorem prefix_append_cases {p x y : List Char} (h : p <+: x ++ y) :
    p <+: x ∨ ∃ more, more ≠ [] ∧ x ++ more = p ∧ more <+: y := by
  rcases Nat.lt_or_ge x.length p.length with hlong | hshort
  · obtain ⟨more, rfl⟩ := List.prefix_of_prefix_length_le (List.prefix_append x y) h hlong.le
    refine .inr ⟨more, ?_, rfl, (List.prefix_append_right_inj x).1 h⟩
    rintro rfl
    rw [List.append_nil] at hlong
    omega
  · exact .inl (List.prefix_of_prefix_length_le h (List.prefix_append x y) hshort)

/-- Whether a class attribute begins at a place with a quote that opens its text, closed or not. -/
def OpensText (text : List Char) (m : Nat) : Prop :=
  nameStarts (text.take m).getLast? = true ∧ ∃ head q, IsTextHead head q ∧ head <+: text.drop m

theorem opensText_iff {text : List Char} {m : Nat} :
    OpensText text m ↔ nameStarts (text.take m).getLast? = true ∧
      ((afterClassName? (text.drop m)).bind openingQuote?).isSome = true := by
  refine and_congr_right fun _ => ⟨?_, fun h => ?_⟩
  · rintro ⟨head, q, hhead, rest, hrest⟩
    rw [opening_eq_some_iff.2 ⟨head, hhead, hrest.symm⟩]
    rfl
  · obtain ⟨⟨q, rest⟩, hopen⟩ := Option.isSome_iff_exists.1 h
    obtain ⟨head, hhead, hrest⟩ := opening_eq_some_iff.1 hopen
    exact ⟨head, q, hhead, rest, hrest.symm⟩

instance (text : List Char) (m : Nat) : Decidable (OpensText text m) :=
  decidable_of_iff _ opensText_iff.symm

theorem OpensText.lt_length {text : List Char} {m : Nat} (h : OpensText text m) :
    m < text.length := by
  obtain ⟨-, head, q, hhead, hpre⟩ := h
  obtain ⟨rest, rfl, -⟩ := hhead.exists_cons
  by_contra hge
  rw [List.drop_eq_nil_of_le (by omega), List.prefix_nil] at hpre
  cases hpre

theorem IsTextHead.getLast? {head : List Char} {q : Char} (h : IsTextHead head q) :
    head.getLast? = some q ∧ isQuote q = true := by
  obtain @⟨name, a, b, o, _, -, -, -, -, hq⟩ := h
  refine ⟨?_, hq⟩
  rw [List.getLast?_append_of_ne_nil _ (by simp), List.getLast?_append_of_ne_nil _ (by simp)]
  have hsplit : '=' :: (b ++ (o ++ [q])) = ('=' :: (b ++ o)) ++ [q] := by simp
  rw [hsplit, List.getLast?_concat]

theorem opensText_of_hit {text : List Char} {m : Nat}
    (h : (hitAt classTextAt text m).isSome = true) : OpensText text m := by
  obtain ⟨⟨value, offset⟩, hhit⟩ := Option.isSome_iff_exists.1 h
  obtain ⟨hprev, head, q, r, hhead, htext, -⟩ := classTextAt_eq_some_iff.1 hhit
  exact ⟨hprev, head, q, hhead, htext ▸ List.prefix_append _ _⟩

theorem OpensText.append {a : List Char} {m : Nat} (h : OpensText a m) (hm : m ≤ a.length)
    (b : List Char) : OpensText (a ++ b) m := by
  obtain ⟨hprev, head, q, hhead, hpre⟩ := h
  refine ⟨by rwa [List.take_append_of_le_length hm], head, q, hhead, ?_⟩
  rw [List.drop_append_of_le_length hm]
  exact hpre.trans (List.prefix_append _ _)

/-- A text that opens before blanks and a class attribute opens before them alone: its beginning has
a `c` nowhere but at its start, and ends with a quote. -/
theorem OpensText.of_append {a gap b : List Char} {m : Nat}
    (h : OpensText (a ++ (gap ++ 'c' :: b)) m) (hgap : IsBlank gap)
    (hm : m < a.length + gap.length) : m < a.length ∧ OpensText a m := by
  obtain ⟨hprev, head, q, hhead, hpre⟩ := h
  obtain ⟨hlast, hq⟩ := hhead.getLast?
  obtain ⟨rest, rfl, hrest⟩ := hhead.exists_cons
  rw [← List.append_assoc, List.drop_append_of_le_length (by rw [List.length_append]; omega)]
    at hpre
  have hshort : 'c' :: rest <+: (a ++ gap).drop m := by
    rcases prefix_append_cases hpre with hshort | ⟨more, hne, hmore, hbehind⟩
    · exact hshort
    · obtain ⟨x, xs, hx⟩ : ∃ x xs, (a ++ gap).drop m = x :: xs := by
        refine List.exists_cons_of_ne_nil fun hnil => ?_
        rw [List.drop_eq_nil_iff, List.length_append] at hnil
        omega
      obtain ⟨y, more, rfl⟩ := List.exists_cons_of_ne_nil hne
      obtain ⟨rfl, -⟩ := List.cons_prefix_cons.1 hbehind
      rw [hx, List.cons_append] at hmore
      exact absurd ((List.cons.inj hmore).2 ▸ List.mem_append_right xs List.mem_cons_self) hrest
  have hlt : m < a.length := by
    by_contra hge
    rw [List.drop_append, List.drop_eq_nil_of_le (by omega), List.nil_append] at hshort
    exact absurd (hgap 'c' (List.mem_of_mem_drop (hshort.subset List.mem_cons_self))) (by decide)
  rw [List.drop_append_of_le_length hlt.le] at hshort
  refine ⟨hlt, by rwa [List.take_append_of_le_length hlt.le] at hprev, _, q, hhead, ?_⟩
  rcases prefix_append_cases hshort with hshort | ⟨more, hne, hmore, hbehind⟩
  · exact hshort
  · rw [← hmore, List.getLast?_append_of_ne_nil _ hne] at hlast
    have hblank := hgap q (hbehind.subset (List.mem_of_getLast? hlast))
    rw [isQuote_eq_false_of_blank hblank] at hq
    cases hq

/-- A class attribute with a text that is written behind `a` and blanks is what the stretch has for
one, if the tag does not end before it does and no text opens before it. -/
theorem classIn_of_written {a gap head value rest : List Char} {q : Char} {first row : Nat}
    (hhead : IsTextHead head q) (hvalue : q ∉ value) (hline : IsOneLine value) (hgap : IsBlank gap)
    (hfirst : first ≤ a.length) (hprev : nameStarts (a ++ gap).getLast? = true)
    (hclear : ∀ m, first ≤ m → m < a.length → ¬ OpensText a m)
    (hopen : Scan.start.closing '>' ((a ++ (gap ++ (head ++ (value ++ [q])))).drop first) = none) :
    classIn (a ++ (gap ++ (head ++ (value ++ q :: rest))))
        ⟨row, first, stretchStop (a ++ (gap ++ (head ++ (value ++ q :: rest)))) first⟩ =
      some (.text (a.length + gap.length) head.length value) := by
  have hfront : a ++ (gap ++ (head ++ (value ++ q :: rest))) =
      (a ++ (gap ++ (head ++ (value ++ [q])))) ++ rest := by simp
  generalize hwhole : a ++ (gap ++ (head ++ (value ++ q :: rest))) = whole at hfront ⊢
  have hreach : (a ++ (gap ++ (head ++ (value ++ [q])))).length ≤ stretchStop whole first := by
    refine (le_stretchStop_iff ?_ ?_).2 ?_
    · rw [List.length_append]
      omega
    · exact (hfront ▸ List.prefix_append _ rest).length_le
    · rwa [hfront, List.take_left]
  obtain ⟨behind, htext⟩ : ∃ behind, whole.take (stretchStop whole first) =
      a ++ (gap ++ (head ++ (value ++ q :: behind))) := by
    refine ⟨rest.take (stretchStop whole first -
      (a ++ (gap ++ (head ++ (value ++ [q])))).length), ?_⟩
    conv => lhs; rw [hfront]
    rw [List.take_append, ← hfront, List.take_of_length_le hreach]
    simp
  have hstop : first ≤ stretchStop whole first := by
    rw [List.length_append] at hreach
    omega
  have hfound : firstIn classTextAt whole first (stretchStop whole first) =
      some (a.length + gap.length, value, head.length) := by
    rw [firstIn_eq_some_iff classTextAt_needsText hstop (hstop.trans (stretchStop_le _ _)), htext]
    refine ⟨by omega, ?_, fun m hm hlt => ?_⟩
    · rw [hitAt, ← List.append_assoc, ← List.length_append, List.take_left, List.drop_left]
      exact classTextAt_eq_some_iff.2 ⟨hprev, head, q, behind, hhead, rfl, hvalue, hline, rfl⟩
    · rw [← Option.not_isSome_iff_eq_none]
      intro hhit
      have hopens := opensText_of_hit hhit
      obtain ⟨more, rfl, -⟩ := hhead.exists_cons
      obtain ⟨hlt, hopens⟩ := hopens.of_append hgap hlt
      exact hclear m hm hlt hopens
  rw [classIn, hfound]

end Restyle.Style
