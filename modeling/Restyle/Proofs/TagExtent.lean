import Restyle.Markup.Scan
import Restyle.Text.Search

/-!
How far an opening tag goes when its lines are one text. The scan that goes on from line to line is
the rule; the stretches of a tag are found by a scan that starts anew on every line, so the two
agree exactly where starting anew makes no difference.
-/
namespace Restyle.Markup

open Text

private theorem unlines_cons_cons (line next : List Char) (rest : List (List Char)) :
    unlines (line :: next :: rest) = line ++ '\n' :: unlines (next :: rest) := by
  simp [unlines, List.intercalate]

private theorem unlines_singleton (line : List Char) : unlines [line] = line := by
  simp [unlines, List.intercalate]

private theorem drop_unlines {line : List Char} {n : Nat} (h : n ≤ line.length)
    (rest : List (List Char)) : (unlines (line :: rest)).drop n = unlines (line.drop n :: rest) := by
  cases rest with
  | nil => rw [unlines_singleton, unlines_singleton]
  | cons next rest => rw [unlines_cons_cons, unlines_cons_cons, List.drop_append_of_le_length h]

namespace Scan

/-- What the scan knows behind a line and its line break. -/
def nextLine (s : Scan) (line : List Char) : Scan := s.run (line ++ ['\n'])

theorem closing_lt {closer : Char} {s : Scan} {text : List Char} {n : Nat}
    (h : s.closing closer text = some n) : n < text.length := by
  induction text generalizing s n with
  | nil => simp [closing] at h
  | cons c rest ih =>
    simp only [closing] at h
    split at h
    · simp only [Option.some.injEq] at h
      simp only [List.length_cons]
      omega
    · obtain ⟨m, hm, rfl⟩ := Option.map_eq_some_iff.1 h
      have := ih hm
      simp only [List.length_cons]
      omega

theorem closing_append (closer : Char) (s : Scan) (a b : List Char) :
    s.closing closer (a ++ b) =
      match s.closing closer a with
      | some n => some n
      | none => ((s.run a).closing closer b).map (· + a.length) := by
  induction a generalizing s with
  | nil => simp [closing, run]
  | cons c a ih =>
    simp only [List.cons_append, closing]
    cases hc : ends closer c s with
    | true => simp
    | false =>
      simp only [Bool.false_eq_true, if_false]
      rw [ih (s.step c)]
      cases hn : (s.step c).closing closer a with
      | some n => simp
      | none =>
        simp only [Option.map_none, Option.map_map, List.length_cons, run, List.foldl_cons]
        congr 1

/-- A line break ends no tag. -/
theorem ends_newline (s : Scan) : ends '>' '\n' s = false := by
  simp [ends]

/-- Over a line that does not end the tag the scan goes on behind the line break. -/
theorem closing_unlines_cons {s : Scan} {line next : List Char} {rest : List (List Char)}
    (h : s.closing '>' line = none) :
    s.closing '>' (unlines (line :: next :: rest)) =
      ((s.nextLine line).closing '>' (unlines (next :: rest))).map (· + (line.length + 1)) := by
  have after : (s.run line).step '\n' = s.nextLine line := by
    rw [nextLine, run_append]
    rfl
  rw [unlines_cons_cons, closing_append, h]
  simp only [closing, ends_newline, Bool.false_eq_true, if_false, after, Option.map_map]
  congr 1
  funext n
  simp only [Function.comp_apply]
  omega

theorem closing_unlines_of_line {s : Scan} {line : List Char} {rest : List (List Char)} {n : Nat}
    (h : s.closing '>' line = some n) : s.closing '>' (unlines (line :: rest)) = some n := by
  cases rest with
  | nil => rwa [unlines_singleton]
  | cons next rest => rw [unlines_cons_cons, closing_append, h]

/-- Whether a scan that starts anew on each line finds there what the scan `s` finds that goes on
from line to line, up to the line where the latter ends. -/
def Restartable (s : Scan) : List (List Char) → Prop
  | [] => True
  | line :: rest =>
    start.closing '>' line = s.closing '>' line ∧
      (s.closing '>' line = none → (s.nextLine line).Restartable rest)

/-- Whether every line break that the scan passes before it ends lies outside quotes and braces. -/
def BreaksOutside (s : Scan) : List (List Char) → Prop
  | [] => True
  | line :: rest =>
    s.closing '>' line = none → s.nextLine line = start ∧ start.BreaksOutside rest

instance decidableRestartable (s : Scan) : (lines : List (List Char)) → Decidable (s.Restartable lines)
  | [] => .isTrue trivial
  | line :: rest =>
    have := decidableRestartable (s.nextLine line) rest
    inferInstanceAs (Decidable (_ ∧ (_ → _)))

instance decidableBreaksOutside (s : Scan) : (lines : List (List Char)) →
    Decidable (s.BreaksOutside lines)
  | [] => .isTrue trivial
  | _ :: rest =>
    have := decidableBreaksOutside start rest
    inferInstanceAs (Decidable (_ → _ ∧ _))

theorem restartable_of_breaksOutside {lines : List (List Char)} (h : start.BreaksOutside lines) :
    start.Restartable lines := by
  induction lines with
  | nil => trivial
  | cons line rest ih =>
    refine ⟨rfl, ?_⟩
    intro hn
    obtain ⟨same, outside⟩ := h hn
    rw [same]
    exact ih outside

end Scan

/-- The stretches that `n` characters take from `first` on, where `first` counts in the first of the
lines, the lines are one text, and the first of them has the number `row`. -/
def stretches (row first : Nat) : List (List Char) → Nat → List Span
  | [], _ => []
  | line :: rest, n =>
    if first + n ≤ line.length then [⟨row, first, first + n⟩]
    else ⟨row, first, line.length⟩ :: stretches (row + 1) 0 rest (first + n - (line.length + 1))

/-- What stands in a stretch. -/
def Span.text (lines : List (List Char)) (s : Span) : List Char :=
  ((lines.getD s.row []).take s.stop).drop s.first

theorem stretches_text {all lines : List (List Char)} {row first n : Nat}
    (hp : lines <+: all.drop row) (hf : ∀ line ∈ lines.head?, first ≤ line.length)
    (hn : first + n ≤ (unlines lines).length) :
    unlines ((stretches row first lines n).map (Span.text all)) =
      ((unlines lines).drop first).take n := by
  induction lines generalizing row first n with
  | nil => simp [stretches, unlines]
  | cons line rest ih =>
    obtain ⟨behind, he⟩ := hp
    have here : all[row]?.getD [] = line := by
      have hg : (all.drop row)[0]? = some line := by rw [← he]; rfl
      rw [List.getElem?_drop, Nat.add_zero] at hg
      simp [hg]
    have later : rest <+: all.drop (row + 1) := by
      refine ⟨behind, ?_⟩
      rw [← List.drop_drop, ← he]
      rfl
    have fits : first ≤ line.length := hf line (by simp)
    cases rest with
    | nil =>
      rw [unlines_singleton] at hn ⊢
      simp [stretches, hn, Span.text, here, unlines_singleton, List.drop_take]
    | cons next rest =>
      rw [unlines_cons_cons] at hn ⊢
      rw [List.drop_append_of_le_length fits]
      by_cases hs : first + n ≤ line.length
      · have short : n ≤ (line.drop first).length := by simp only [List.length_drop]; omega
        rw [List.take_append_of_le_length short]
        simp [stretches, hs, Span.text, here, unlines_singleton, List.drop_take]
      · have long : n = (line.drop first).length + (first + n - (line.length + 1) + 1) := by
          simp only [List.length_drop]
          omega
        have within : 0 + (first + n - (line.length + 1)) ≤ (unlines (next :: rest)).length := by
          simp only [List.length_append, List.length_cons] at hn
          omega
        have tail := ih later (by simp) within
        obtain ⟨s, more, hm⟩ : ∃ s more, stretches (row + 1) 0 (next :: rest)
            (first + n - (line.length + 1)) = s :: more := by
          simp only [stretches]
          split <;> exact ⟨_, _, rfl⟩
        rw [hm, List.drop_zero] at tail
        rw [stretches, if_neg hs, hm, long, List.take_length_add_append, List.take_succ_cons, ← tail,
          List.map_cons, List.map_cons, unlines_cons_cons]
        simp [Span.text, here]

/-- The lines that a tag may take which opens in the line `row`. -/
def tagLines (lines : List (List Char)) (row : Nat) : List (List Char) :=
  (lines.drop row).take maxTagLines

theorem laterSpans_eq_iff (row : Nat) {s : Scan} {lines : List (List Char)} {n : Nat}
    (h : s.closing '>' (unlines lines) = some n) :
    laterSpans row lines = stretches row 0 lines n ↔ s.Restartable lines := by
  induction lines generalizing s row n with
  | nil => simp [unlines, Scan.closing] at h
  | cons line rest ih =>
    have anew : closingAt '>' line 0 = Scan.start.closing '>' line := by
      simp [closingAt]
    simp only [laterSpans, Scan.Restartable, anew]
    cases hl : s.closing '>' line with
    | some m =>
      have hm : m = n := by
        rw [Scan.closing_unlines_of_line hl] at h
        exact Option.some.inj h
      have hlt := Scan.closing_lt hl
      subst hm
      have one : stretches row 0 (line :: rest) m = [⟨row, 0, m⟩] := by
        simp [stretches, Nat.le_of_lt hlt]
      rw [one]
      cases Scan.start.closing '>' line with
      | some close => simp
      | none =>
        simp only [reduceCtorEq, false_and, iff_false, List.cons.injEq, Span.mk.injEq, true_and]
        omega
    | none =>
      cases rest with
      | nil => simp [unlines_singleton, hl] at h
      | cons next rest =>
        rw [Scan.closing_unlines_cons hl] at h
        obtain ⟨k, hk, rfl⟩ := Option.map_eq_some_iff.1 h
        have more : stretches row 0 (line :: next :: rest) (k + (line.length + 1)) =
            ⟨row, 0, line.length⟩ :: stretches (row + 1) 0 (next :: rest) k := by
          rw [stretches, if_neg (by omega)]
          congr 2
          omega
        rw [more]
        cases hc : Scan.start.closing '>' line with
        | some close =>
          have := Scan.closing_lt hc
          simp only [reduceCtorEq, false_and, iff_false, List.cons.injEq, Span.mk.injEq, true_and]
          omega
        | none => simpa using ih (row + 1) hk

/-- A tag is followed through its own line and anew through those behind it. -/
theorem tagSpans_eq_stretches {lines later : List (List Char)} {row start n : Nat}
    {line : List Char} (hget : lines.getD row [] = line) (hstart : start < line.length)
    (hlater : (lines.drop (row + 1)).take (maxTagLines - 1) = later)
    (hend : Scan.start.closing '>' (unlines (line.drop (start + 1) :: later)) = some n) :
    tagSpans lines row start = stretches row start (line :: later) (n + 1) ↔
      Scan.start.Restartable (line.drop (start + 1) :: later) := by
  have hbehind : tagEnd line start =
      (Scan.start.closing '>' (line.drop (start + 1))).map (· + (start + 1)) := rfl
  rw [tagSpans, hget, hlater]
  simp only [Scan.Restartable, true_and, hbehind]
  cases hc : Scan.start.closing '>' (line.drop (start + 1)) with
  | some m =>
    rw [Scan.closing_unlines_of_line hc] at hend
    obtain rfl := Option.some.inj hend
    have hlt := Scan.closing_lt hc
    rw [List.length_drop] at hlt
    have one : stretches row start (line :: later) (m + 1) = [⟨row, start, m + (start + 1)⟩] := by
      rw [stretches, if_pos (by omega)]
      congr 2
      omega
    simp [one]
  | none =>
    cases later with
    | nil => simp [unlines_singleton, hc] at hend
    | cons next rest =>
      rw [Scan.closing_unlines_cons hc] at hend
      obtain ⟨k, hk, rfl⟩ := Option.map_eq_some_iff.1 hend
      have more : stretches row start (line :: next :: rest)
          (k + ((line.drop (start + 1)).length + 1) + 1) =
            ⟨row, start, line.length⟩ :: stretches (row + 1) 0 (next :: rest) k := by
        rw [List.length_drop, stretches, if_neg (by omega)]
        congr 2
        omega
      rw [more]
      simpa using laterSpans_eq_iff (row + 1) hk

/-- Where an opening tag ends in the text of its lines, its stretches are those up to that end if
and only if the scan may start anew on every line before the end; it may where no line break of the
tag lies in quotes or braces. -/
theorem tagSpans_eq_stretches_iff (lines : List (List Char)) (row start n : Nat)
    (hopen : (lines.getD row [])[start]? = some '<')
    (hend : Scan.start.closing '>' ((unlines (tagLines lines row)).drop (start + 1)) = some n) :
    unlines ((stretches row start (tagLines lines row) (n + 1)).map (Span.text lines)) =
        ((unlines (tagLines lines row)).drop start).take (n + 1) ∧
      (tagSpans lines row start = stretches row start (tagLines lines row) (n + 1) ↔
        Scan.start.Restartable ((tagLines lines row).modifyHead (List.drop (start + 1)))) ∧
      (Scan.start.BreaksOutside ((tagLines lines row).modifyHead (List.drop (start + 1))) →
        tagSpans lines row start = stretches row start (tagLines lines row) (n + 1)) := by
  have hstart : start < (lines.getD row []).length := (List.getElem?_eq_some_iff.1 hopen).1
  obtain ⟨line, hline⟩ : ∃ line, lines[row]? = some line := by
    cases h : lines[row]? with
    | some line => exact ⟨line, rfl⟩
    | none => simp [h] at hstart
  have hget : lines.getD row [] = line := by simp [hline]
  rw [hget] at hstart
  have hlines : tagLines lines row =
      line :: (lines.drop (row + 1)).take (maxTagLines - 1) := by
    obtain ⟨hrow, rfl⟩ := List.getElem?_eq_some_iff.1 hline
    rw [tagLines, List.drop_eq_getElem_cons hrow]
    rfl
  have hhead : ∀ l ∈ (tagLines lines row).head?, start ≤ l.length := by
    intro l hl
    obtain rfl : line = l := by simpa [hlines] using hl
    omega
  have hlength : start + (n + 1) ≤ (unlines (tagLines lines row)).length := by
    have hlt := Scan.closing_lt hend
    rw [List.length_drop] at hlt
    omega
  have htext := stretches_text (List.take_prefix maxTagLines (lines.drop row)) hhead hlength
  have hiff : tagSpans lines row start = stretches row start (tagLines lines row) (n + 1) ↔
      Scan.start.Restartable ((tagLines lines row).modifyHead (List.drop (start + 1))) := by
    rw [hlines, drop_unlines hstart] at hend
    rw [hlines, List.modifyHead_cons]
    exact tagSpans_eq_stretches hget hstart rfl hend
  exact ⟨htext, hiff, fun h => hiff.2 (Scan.restartable_of_breaksOutside h)⟩

/-- A tag over three lines with a brace and an arrow in the middle one. -/
theorem tagSpans_eq_stretches_over_three_lines :
    let lines := ["<Card".toList, "  onPick={() => 1} tag=\"a > b\"".toList, "  wide>".toList]
    tagSpans lines 0 0 = stretches 0 0 (tagLines lines 0) 43 := by
  refine (tagSpans_eq_stretches_iff _ 0 0 42 ?_ ?_).2.2 ?_
  · decide
  · decide
  · decide

/-- A quote that is open at a line break is taken for closed behind it: the tag ends on its second
line, but its stretches go on over the tag that follows. -/
theorem tagSpans_ne_stretches_at_open_quote :
    let lines := ["<div title=\"a".toList, "b\">".toList, "<p style=\x7b\x7b color: 1 \x7d\x7d>".toList]
    (lines.getD 0 [])[0]? = some '<' ∧
      Scan.start.closing '>' ((unlines (tagLines lines 0)).drop 1) = some 15 ∧
      stretches 0 0 (tagLines lines 0) 16 = [⟨0, 0, 13⟩, ⟨1, 0, 2⟩] ∧
      tagSpans lines 0 0 = [⟨0, 0, 13⟩, ⟨1, 0, 3⟩, ⟨2, 0, 23⟩] := by
  decide

end Restyle.Markup
