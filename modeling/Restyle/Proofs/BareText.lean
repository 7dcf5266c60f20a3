import Restyle.Proofs.WrittenStyle

/-!
What stands outside of quotes. Braces are counted there alone: the scan of a text knows at each place
how many more have opened than closed outside of quotes so far. From a brace that opens up to a
place with as many of both there is one that closes.
-/
namespace Restyle

namespace Markup

/-! ### What stands outside of quotes -/

mutual

/-- The characters of a text that stand outside of quotes, each at its place. -/
def bare : List Char → List (Option Char)
  | [] => []
  | c :: rest => if isQuote c then none :: bareBehind c rest else some c :: bare rest

/-- The same behind a quote: up to the next one like it there are none, and a backslash takes the
next character along. -/
def bareBehind (q : Char) : List Char → List (Option Char)
  | [] => []
  | '\\' :: _ :: rest => none :: none :: bareBehind q rest
  | c :: rest => none :: if c = q then bare rest else bareBehind q rest

end

theorem bareBehind_cons {q c : Char} (hescape : c ≠ '\\') (rest : List Char) :
    bareBehind q (c :: rest) = none :: if c = q then bare rest else bareBehind q rest := by
  rw [bareBehind]
  intro _ _ h
  exact absurd h hescape

/-- What a character changes in the number of open braces. -/
def weight (mark : Option Char) : Int :=
  if mark = some '\x7b' then 1 else if mark = some '\x7d' then -1 else 0

theorem weight_cases (mark : Option Char) :
    0 ≤ weight mark ∨ mark = some '\x7d' ∧ weight mark = -1 := by
  unfold weight
  split
  · exact .inl (by decide)
  · split
    · next h => exact .inr ⟨h, rfl⟩
    · exact .inl (by decide)

/-- How many more braces open than close. -/
def excess (marks : List (Option Char)) : Int :=
  marks.count (some '\x7b') - marks.count (some '\x7d')

theorem excess_cons (mark : Option Char) (marks : List (Option Char)) :
    excess (mark :: marks) = weight mark + excess marks := by
  simp only [excess, weight, List.count_cons, beq_iff_eq]
  by_cases hopen : mark = some '\x7b'
  · subst hopen
    simp
    omega
  · by_cases hclose : mark = some '\x7d'
    · subst hclose
      simp
      omega
    · simp [hopen, hclose]

theorem excess_append (marks more : List (Option Char)) :
    excess (marks ++ more) = excess marks + excess more := by
  simp only [excess, List.count_append]
  omega

theorem excess_take_succ {marks : List (Option Char)} {n : Nat} {mark : Option Char}
    (h : marks[n]? = some mark) :
    excess (marks.take (n + 1)) = excess (marks.take n) + weight mark := by
  rw [List.take_add_one, h, Option.toList_some, excess_append, excess_cons]
  simp [excess]

/-- From more braces that open than close the first step to as many is a brace that closes. -/
theorem exists_closing_mark {marks : List (Option Char)} (hopen : 0 < excess (marks.take 1))
    {n : Nat} (hn : excess (marks.take (n + 1)) ≤ 0) :
    ∃ j ≤ n, marks[j]? = some (some '\x7d') ∧ excess (marks.take (j + 1)) = 0 := by
  induction n with
  | zero => exact absurd hn (Int.not_le.2 hopen)
  | succ n ih =>
    -- Either there was no excess before the last step, or the last step takes the last of it.
    by_cases hbefore : excess (marks.take (n + 1)) ≤ 0
    · obtain ⟨j, hj, hmark⟩ := ih hbefore
      exact ⟨j, Nat.le_succ_of_le hj, hmark⟩
    · cases hat : marks[n + 1]? with
      | none =>
        have hlength := List.getElem?_eq_none_iff.1 hat
        rw [List.take_of_length_le (by omega)] at hn
        rw [List.take_of_length_le (by omega)] at hbefore
        exact absurd hn hbefore
      | some mark =>
        rw [excess_take_succ hat] at hn
        rcases weight_cases mark with hnone | ⟨rfl, hone⟩
        · omega
        · refine ⟨n + 1, Nat.le_refl _, hat, ?_⟩
          rw [excess_take_succ hat]
          omega

/-! ### The scan counts what stands outside of quotes -/

namespace Scan

/-- What stands outside of quotes in a text that the scan comes to. -/
def marks (s : Scan) (text : List Char) : List (Option Char) :=
  match s.quote with
  | none => bare text
  | some q =>
    match s.escaped, text with
    | true, _ :: rest => none :: bareBehind q rest
    | true, [] => []
    | false, _ => bareBehind q text

/-- The next character, if it stands outside of quotes. -/
def mark (s : Scan) (c : Char) : Option Char :=
  if s.quote.isNone && !isQuote c then some c else none

theorem marks_nil (s : Scan) : s.marks [] = [] := by
  obtain ⟨quote, escaped, depth⟩ := s
  cases quote with
  | none => rfl
  | some q => cases escaped <;> rfl

theorem step_outside {s : Scan} (hs : s.quote = none) {c : Char} (hc : isQuote c = false) :
    s.step c = { s with depth := s.depth + weight (some c) } := by
  obtain ⟨quote, escaped, depth⟩ := s
  subst hs
  simp only [step, hc, Bool.false_eq_true, if_false, beq_iff_eq, weight, Option.some.injEq]
  split
  · rfl
  · split
    · rfl
    · rw [Int.add_zero]

theorem depth_step (s : Scan) (c : Char) : (s.step c).depth = s.depth + weight (s.mark c) := by
  cases hs : s.quote with
  | some q => simp [step, mark, hs, weight, apply_ite Scan.depth]
  | none =>
    cases hc : isQuote c with
    | true => simp [step, mark, hs, hc, weight]
    | false => simp [step_outside hs hc, mark, hs, hc]

variable {s : Scan}

theorem marks_cons (hs : s.IsSound) (c : Char) (rest : List Char) :
    s.marks (c :: rest) = s.mark c :: (s.step c).marks rest := by
  obtain ⟨quote, escaped, depth⟩ := s
  cases quote with
  | none =>
    obtain rfl : escaped = false := hs.escaped rfl
    cases hc : isQuote c with
    | true => simp [marks, bare, mark, step, hc]
    | false => simp [step_outside, marks, bare, mark, hc]
  | some q =>
    cases escaped with
    | true => rfl
    | false =>
      by_cases hescape : c = '\\'
      · subst hescape
        -- A backslash at the end of the text has nothing to take along.
        cases rest with
        | nil =>
          rw [marks_nil]
          simp [marks, mark, bareBehind, bare]
        | cons d rest => rfl
      · have hmarks := bareBehind_cons (q := q) hescape rest
        by_cases hc : c = q
        · subst hc
          simp [marks, mark, step, hmarks, hescape]
        · simp [marks, mark, step, hmarks, hescape, hc]

theorem depth_run (hs : s.IsSound) (text : List Char) :
    (s.run text).depth = s.depth + excess (s.marks text) := by
  induction text generalizing s with
  | nil => simp [run, marks_nil, excess]
  | cons c rest ih =>
    have hrest := ih (hs.step c)
    rw [depth_step, Int.add_assoc] at hrest
    rw [marks_cons hs, excess_cons]
    exact hrest

theorem length_marks (hs : s.IsSound) (text : List Char) :
    (s.marks text).length = text.length := by
  induction text generalizing s with
  | nil => rw [marks_nil, List.length_nil, List.length_nil]
  | cons c rest ih => rw [marks_cons hs, List.length_cons, ih (hs.step c), List.length_cons]

theorem marks_take (hs : s.IsSound) (n : Nat) (text : List Char) :
    s.marks (text.take n) = (s.marks text).take n := by
  induction text generalizing s n with
  | nil => rw [List.take_nil, marks_nil, List.take_nil]
  | cons c rest ih =>
    cases n with
    | zero => exact s.marks_nil
    | succ n =>
      rw [List.take_succ_cons, marks_cons hs, marks_cons hs, List.take_succ_cons, ih (hs.step c)]

theorem marks_drop (hs : s.IsSound) (n : Nat) (text : List Char) :
    (s.run (text.take n)).marks (text.drop n) = (s.marks text).drop n := by
  induction text generalizing s n with
  | nil => rw [List.drop_nil, marks_nil, marks_nil, List.drop_nil]
  | cons c rest ih =>
    cases n with
    | zero => rfl
    | succ n =>
      rw [marks_cons hs, List.drop_succ_cons, List.drop_succ_cons]
      exact ih (hs.step c) n

theorem getElem?_marks (hs : s.IsSound) (n : Nat) (text : List Char) :
    (s.marks text)[n]? = text[n]?.map (s.run (text.take n)).mark := by
  induction text generalizing s n with
  | nil => rw [marks_nil, List.getElem?_nil, List.getElem?_nil, Option.map_none]
  | cons c rest ih =>
    rw [marks_cons hs]
    cases n with
    | zero => rfl
    | succ n => exact ih (hs.step c) n

theorem isSound_start : start.IsSound := isSound_of_none 0

end Scan

/-! ### Braces in a part of a line -/

/-- The line from one place up to another one, both with it. -/
def fromTo (line : List Char) (start i : Nat) : List Char := (line.take (i + 1)).drop start

/-- Whether outside of quotes as many braces close as open. -/
def IsBalanced (text : List Char) : Prop :=
  (bare text).count (some '\x7d') = (bare text).count (some '\x7b')

/-- Whether a character stands at a place of a line, outside of the quotes that open from `start`
on. -/
def StandsBare (c : Char) (line : List Char) (start i : Nat) : Prop :=
  start ≤ i ∧ (bare (line.drop start))[i - start]? = some (some c)

variable {line : List Char} {start : Nat}

theorem isBalanced_iff (text : List Char) : IsBalanced text ↔ excess (bare text) = 0 := by
  unfold IsBalanced excess
  omega

theorem length_bare (text : List Char) : (bare text).length = text.length :=
  Scan.length_marks Scan.isSound_start text

theorem bare_fromTo (line : List Char) (start i : Nat) :
    bare (fromTo line start i) = (bare (line.drop start)).take (i + 1 - start) := by
  rw [fromTo, List.drop_take]
  exact Scan.marks_take Scan.isSound_start (i + 1 - start) (line.drop start)

/-- Behind a place outside of quotes it does not matter whether the quotes before it are read. -/
theorem bare_drop {c : Char} (h : StandsBare c line 0 start) :
    bare (line.drop start) = (bare line).drop start := by
  have hmark := Scan.getElem?_marks Scan.isSound_start start line
  obtain ⟨d, -, hd⟩ := Option.map_eq_some_iff.1 (hmark.symm.trans h.2)
  have houtside : (Scan.start.run (line.take start)).quote = none := by
    simp only [Scan.mark, Option.ite_none_right_eq_some, Bool.and_eq_true,
      Option.isNone_iff_eq_none] at hd
    exact hd.1.1
  have hdrop := Scan.marks_drop Scan.isSound_start start line
  rw [Scan.marks, houtside] at hdrop
  exact hdrop

end Markup

end Restyle
