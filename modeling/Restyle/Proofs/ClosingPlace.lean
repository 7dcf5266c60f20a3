import Mathlib.Order.Bounds.Basic
import Restyle.Proofs.BareText

/-!
Where the scan ends. What it looks for ends at the first place outside of quotes at which as many
braces have closed as opened, and nowhere only if there is no such place. For braces it is enough to
count: behind one that opens, the first place with as many of both is where it closes. The scan is
also told as a loop that goes from place to place, with a leap over what is escaped in quotes, and
the loop comes to an end whatever it looks for.
-/
namespace Restyle

/-! ### Loops and first places -/

/-- Whether a loop ends after so many turns, and with what. A turn gives what comes next, or the
result. -/
inductive EndsAfter {σ α : Type} (turn : σ → σ ⊕ α) : σ → Nat → α → Prop
  | done {s : σ} {a : α} (last : turn s = .inr a) : EndsAfter turn s 1 a
  | next {s s' : σ} {n : Nat} {a : α} (turned : turn s = .inl s') (rest : EndsAfter turn s' n a) :
      EndsAfter turn s (n + 1) a

theorem exists_endsAfter {σ α : Type} {turn : σ → σ ⊕ α} {size : σ → Nat}
    (hless : ∀ s s', turn s = .inl s' → size s' < size s) (s : σ) :
    ∃ n ≤ size s + 1, ∃ a, EndsAfter turn s n a := by
  induction hsize : size s using Nat.strongRecOn generalizing s with
  | ind m ih =>
    subst hsize
    cases hturn : turn s with
    | inr a => exact ⟨1, Nat.le_add_left 1 _, a, .done hturn⟩
    | inl s' =>
      have hlt := hless s s' hturn
      obtain ⟨n, hn, a, hends⟩ := ih (size s') hlt s' rfl
      exact ⟨n + 1, by omega, a, .next hturn hends⟩

/-- Whether what is found is the least of the places, and nothing exactly if there are none. -/
structure IsFirstOf (found : Option Nat) (places : Set Nat) : Prop where
  some_iff : ∀ i, found = some i ↔ IsLeast places i
  none_iff : found = none ↔ places = ∅

namespace IsFirstOf

variable {found : Option Nat} {places : Set Nat}

theorem of_cases (hsome : ∀ i, found = some i → IsLeast places i)
    (hnone : found = none → places = ∅) : IsFirstOf found places := by
  cases found with
  | none =>
    have hempty := hnone rfl
    refine ⟨fun i => ⟨nofun, fun h => ?_⟩, iff_of_true rfl hempty⟩
    rw [hempty] at h
    cases h.1
  | some j =>
    have hleast := hsome j rfl
    refine ⟨fun i => ⟨fun h => hsome i h, fun h => ?_⟩, iff_of_false nofun ?_⟩
    · rw [hleast.unique h]
    · exact Set.nonempty_iff_ne_empty.1 ⟨j, hleast.1⟩

/-- More places change nothing if each of them is behind one that was there before. -/
theorem of_subset (h : IsFirstOf found places) {more : Set Nat} (hsub : places ⊆ more)
    (hbehind : ∀ i ∈ more, ∃ j ∈ places, j ≤ i) : IsFirstOf found more := by
  apply of_cases
  · intro i hi
    have hleast := (h.some_iff i).1 hi
    refine ⟨hsub hleast.1, fun j hj => ?_⟩
    obtain ⟨k, hk, hle⟩ := hbehind j hj
    exact (hleast.2 hk).trans hle
  · intro hnone
    apply Set.eq_empty_iff_forall_notMem.2
    intro i hi
    obtain ⟨j, hj, -⟩ := hbehind i hi
    rw [h.none_iff.1 hnone] at hj
    exact hj

theorem shift (h : IsFirstOf found places) (k : Nat) :
    IsFirstOf (found.map (· + k)) {i | k ≤ i ∧ i - k ∈ places} := by
  apply of_cases
  · intro i hi
    obtain ⟨n, hn, rfl⟩ := Option.map_eq_some_iff.1 hi
    have hleast := (h.some_iff n).1 hn
    refine ⟨⟨Nat.le_add_left k n, ?_⟩, fun j hj => ?_⟩
    · rw [Nat.add_sub_cancel]
      exact hleast.1
    · obtain ⟨hk, hj⟩ := hj
      have hle := hleast.2 hj
      omega
  · intro hnone
    rw [h.none_iff.1 (Option.map_eq_none_iff.1 hnone)]
    apply Set.eq_empty_iff_forall_notMem.2
    intro i hi
    exact hi.2

end IsFirstOf

namespace Markup

/-! ### Where the scan ends -/

namespace Scan

variable {s : Scan} {closer : Char} {text : List Char} {n : Nat}

theorem ends_iff {c : Char} :
    ends closer c s = true ↔
      closer ≠ '\x7b' ∧ s.mark c = some closer ∧ s.depth + weight (some closer) = 0 := by
  by_cases hc : c = closer
  · subst hc
    by_cases hclose : c = '\x7d'
    · subst hclose
      have hdepth : s.depth = 1 ↔ s.depth + -1 = 0 := by omega
      simp [ends, mark, weight, hdepth]
    · by_cases hopen : c = '\x7b'
      · simp [ends, hopen]
      · simp [ends, mark, weight, hclose, hopen]
  · simp [ends, mark, hc]

/-- Whether the scan can end at a place, seen by itself. -/
def EndsAt (closer : Char) (s : Scan) (text : List Char) (n : Nat) : Prop :=
  ∃ c, text[n]? = some c ∧ ends closer c (s.run (text.take n)) = true

theorem endsAt_iff (hs : s.IsSound) :
    EndsAt closer s text n ↔ closer ≠ '\x7b' ∧ (s.marks text)[n]? = some (some closer) ∧
      s.depth + excess ((s.marks text).take (n + 1)) = 0 := by
  have hdepth := depth_run hs (text.take n)
  rw [marks_take hs] at hdepth
  constructor
  · intro h
    obtain ⟨c, hc, hends⟩ := h
    obtain ⟨hopen, hmark, hzero⟩ := ends_iff.1 hends
    have hat : (s.marks text)[n]? = some (some closer) := by
      rw [getElem?_marks hs, hc, Option.map_some, hmark]
    refine ⟨hopen, hat, ?_⟩
    rw [excess_take_succ hat]
    omega
  · intro h
    obtain ⟨hopen, hat, hzero⟩ := h
    rw [excess_take_succ hat] at hzero
    rw [getElem?_marks hs] at hat
    obtain ⟨c, hc, hmark⟩ := Option.map_eq_some_iff.1 hat
    exact ⟨c, hc, ends_iff.2 ⟨hopen, hmark, by omega⟩⟩

theorem exists_closing_le (h : EndsAt closer s text n) :
    ∃ k ≤ n, s.closing closer text = some k := by
  obtain ⟨c, hc, hends⟩ := h
  obtain ⟨hlt, hget⟩ := List.getElem?_eq_some_iff.1 hc
  have hsplit : text = text.take n ++ c :: text.drop (n + 1) := by
    rw [← hget, List.getElem_cons_drop, List.take_append_drop]
  have hhere : (s.run (text.take n)).closing closer (c :: text.drop (n + 1)) = some 0 := by
    rw [closing, if_pos hends]
  have hwhole := closing_append closer s (text.take n) (c :: text.drop (n + 1))
  rw [← hsplit, hhere] at hwhole
  cases hfront : s.closing closer (text.take n) with
  | some k =>
    have hk := closing_lt hfront
    rw [List.length_take] at hk
    exact ⟨k, by omega, by rw [hwhole, hfront]⟩
  | none =>
    refine ⟨n, Nat.le_refl n, ?_⟩
    rw [hwhole, hfront, Option.map_some, List.length_take, Nat.min_eq_left hlt.le, Nat.zero_add]

theorem closing_isFirstOf (closer : Char) (s : Scan) (text : List Char) :
    IsFirstOf (s.closing closer text) {n | EndsAt closer s text n} := by
  apply IsFirstOf.of_cases
  · intro n h
    refine ⟨⟨closer, getElem?_of_closing h, ends_of_closing h⟩, fun m hm => ?_⟩
    obtain ⟨k, hk, heq⟩ := exists_closing_le hm
    obtain rfl : n = k := Option.some.inj (h.symm.trans heq)
    exact hk
  · intro h
    apply Set.eq_empty_iff_forall_notMem.2
    intro n hn
    obtain ⟨k, -, heq⟩ := exists_closing_le hn
    rw [h] at heq
    cases heq

end Scan

/-! ### Where the end is on a line -/

variable {text : List Char} {start : Nat}

theorem closingAt_isFirstOf {closer : Char} (hcloser : closer ≠ '\x7b') (text : List Char)
    (start : Nat) :
    IsFirstOf (closingAt closer text start)
      {i | StandsBare closer text start i ∧ IsBalanced (fromTo text start i)} := by
  have hfirst := (Scan.closing_isFirstOf closer .start (text.drop start)).shift start
  have hplaces :
      {i | start ≤ i ∧ i - start ∈ {n | Scan.EndsAt closer .start (text.drop start) n}} =
        {i | StandsBare closer text start i ∧ IsBalanced (fromTo text start i)} := by
    ext i
    have hmarks : Scan.start.marks (text.drop start) = bare (text.drop start) := rfl
    have hdepth : Scan.start.depth = 0 := rfl
    simp only [Set.mem_ofPred_eq, Scan.endsAt_iff Scan.isSound_start, StandsBare, isBalanced_iff,
      bare_fromTo, hmarks, hdepth, Int.zero_add]
    constructor
    · intro h
      obtain ⟨hle, -, hat, hzero⟩ := h
      rw [← Nat.sub_add_comm hle] at hzero
      exact ⟨⟨hle, hat⟩, hzero⟩
    · intro h
      obtain ⟨⟨hle, hat⟩, hzero⟩ := h
      rw [Nat.sub_add_comm hle] at hzero
      exact ⟨hle, hcloser, hat, hzero⟩
  rw [hplaces] at hfirst
  exact hfirst

/-- Behind a brace that opens every place with as many braces of both kinds is behind one that
closes there, so that places in quotes and other characters need not be left out. -/
theorem closingAt_brace_isFirstOf (h : text[start]? = some '\x7b') :
    IsFirstOf (closingAt '\x7d' text start)
      {i | start ≤ i ∧ i < text.length ∧ IsBalanced (fromTo text start i)} := by
  obtain ⟨hlt, hget⟩ := List.getElem?_eq_some_iff.1 h
  apply (closingAt_isFirstOf (by decide) text start).of_subset
  · intro i hi
    obtain ⟨⟨hle, hat⟩, hbalanced⟩ := hi
    have hin := (List.getElem?_eq_some_iff.1 hat).1
    rw [length_bare, List.length_drop] at hin
    exact ⟨hle, by omega, hbalanced⟩
  · intro i hi
    obtain ⟨hle, -, hbalanced⟩ := hi
    have hopen : 0 < excess ((bare (text.drop start)).take 1) := by
      rw [List.drop_eq_getElem_cons hlt, hget]
      exact (by decide : 0 < excess [some '\x7b'])
    rw [isBalanced_iff, bare_fromTo, Nat.sub_add_comm hle] at hbalanced
    obtain ⟨j, hj, hat, hzero⟩ := exists_closing_mark hopen hbalanced.le
    refine ⟨start + j, ⟨⟨Nat.le_add_right start j, ?_⟩, ?_⟩, by omega⟩
    · rw [Nat.add_sub_cancel_left]
      exact hat
    · rw [isBalanced_iff, bare_fromTo, Nat.add_assoc, Nat.add_sub_cancel_left]
      exact hzero

/-! ### From place to place -/

/-- Where the search stands: the place it comes to next, the quote that is open, and how many braces
are open. -/
structure Stand where
  place : Nat
  quote : Option Char
  depth : Int

/-- One turn of the search on a line. In quotes a backslash makes it leap over the next character.
Which characters are looked for is told by `closes`. -/
def turn (closes : Char → Bool) (text : List Char) (s : Stand) : Stand ⊕ Option Nat :=
  match text[s.place]? with
  | none => .inr none
  | some c =>
    match s.quote with
    | some q =>
      if c == '\\' then .inl { s with place := s.place + 2 }
      else if c == q then .inl { s with place := s.place + 1, quote := none }
      else .inl { s with place := s.place + 1 }
    | none =>
      if isQuote c then .inl { s with place := s.place + 1, quote := some c }
      else if c == '\x7b' then .inl { s with place := s.place + 1, depth := s.depth + 1 }
      else if c == '\x7d' then
        if closes '\x7d' && s.depth - 1 == 0 then .inr (some s.place)
        else .inl { s with place := s.place + 1, depth := s.depth - 1 }
      else if closes c && s.depth == 0 then .inr (some s.place)
      else .inl { s with place := s.place + 1 }

theorem turn_advances {closes : Char → Bool} {s s' : Stand} (h : turn closes text s = .inl s') :
    s.place < text.length ∧ s.place < s'.place := by
  unfold turn at h
  split at h
  · cases h
  · next c hc =>
    refine ⟨(List.getElem?_eq_some_iff.1 hc).1, ?_⟩
    grind

theorem exists_endsAfter_turn (closes : Char → Bool) (text : List Char) (s : Stand) :
    ∃ n ≤ text.length - s.place + 1, ∃ found, EndsAfter (turn closes text) s n found := by
  have hless (s s' : Stand) (h : turn closes text s = .inl s') :
      text.length - s'.place < text.length - s.place := by
    obtain ⟨hlt, hadvance⟩ := turn_advances h
    omega
  exact exists_endsAfter hless s

namespace Scan

variable {closer c : Char} {s : Scan}

theorem closing_cons_found (h : ends closer c s = true) (rest : List Char) (place : Nat) :
    (s.closing closer (c :: rest)).map (· + place) = some place := by
  rw [closing, if_pos h, Option.map_some, Nat.zero_add]

theorem closing_cons_next (h : ends closer c s = false) (rest : List Char) (place : Nat) :
    (s.closing closer (c :: rest)).map (· + place) =
      ((s.step c).closing closer rest).map (· + (place + 1)) := by
  rw [closing, h, if_neg Bool.false_ne_true, Option.map_map]
  congr 1
  funext n
  simp only [Function.comp_apply]
  omega

/-- A turn counts a brace that closes before it looks whether it is the last one. -/
theorem ends_close (closer : Char) (depth : Int) :
    ends closer '\x7d' ⟨none, false, depth⟩ = ('\x7d' == closer && depth - 1 == 0) := by
  have hdepth : (depth == 1) = (depth - 1 == 0) := by
    rw [Bool.eq_iff_iff, beq_iff_eq, beq_iff_eq]
    omega
  rw [← hdepth]
  rfl

theorem ends_outside (hquote : isQuote c = false) (hopen : c ≠ '\x7b') (hclose : c ≠ '\x7d')
    (depth : Int) : ends closer c ⟨none, false, depth⟩ = (c == closer && depth == 0) := by
  have hne : (c != '\x7b') = true := bne_iff_ne.2 hopen
  simp [ends, hquote, hne, hclose]

/-- What is escaped ends nothing, whatever it is. -/
theorem closing_escaped (closer q : Char) (depth : Int) (rest : List Char) (place : Nat) :
    ((Scan.mk (some q) true depth).closing closer rest).map (· + (place + 1)) =
      ((Scan.mk (some q) false depth).closing closer (rest.drop 1)).map (· + (place + 2)) := by
  cases rest with
  | nil => rfl
  | cons d rest => exact closing_cons_next rfl rest (place + 1)

end Scan

namespace Stand

variable {closer : Char} {s : Stand} {c : Char}

/-- What the scan finds from where the search stands. -/
def found (closer : Char) (text : List Char) (s : Stand) : Option Nat :=
  ((Scan.mk s.quote false s.depth).closing closer (text.drop s.place)).map (· + s.place)

/-- Whether a turn keeps what the scan finds, or gives it. -/
def Keeps (closer : Char) (text : List Char) (s : Stand) : Prop :=
  match turn (· == closer) text s with
  | .inl s' => s.found closer text = s'.found closer text
  | .inr a => s.found closer text = a

theorem keeps_inside {q : Char} (hchar : text[s.place]? = some c) (hs : s.quote = some q) :
    s.Keeps closer text := by
  obtain ⟨place, quote, depth⟩ := s
  subst hs
  obtain ⟨hlt, hget⟩ := List.getElem?_eq_some_iff.1 hchar
  have hends : Scan.ends closer c ⟨some q, false, depth⟩ = false := rfl
  have hnext := Scan.closing_cons_next hends (text.drop (place + 1)) place
  simp only [Keeps, turn, found, hchar, List.drop_eq_getElem_cons hlt, hget, hnext]
  by_cases hescape : c = '\\'
  · simp [Scan.step, hescape, Scan.closing_escaped]
  · by_cases hquote : c = q
    · subst hquote
      simp [Scan.step, hescape]
    · simp [Scan.step, hescape, hquote]

theorem keeps_outside (hchar : text[s.place]? = some c) (hs : s.quote = none) :
    s.Keeps closer text := by
  obtain ⟨place, quote, depth⟩ := s
  subst hs
  obtain ⟨hlt, hget⟩ := List.getElem?_eq_some_iff.1 hchar
  have hnext (h : Scan.ends closer c ⟨none, false, depth⟩ = false) :=
    Scan.closing_cons_next h (text.drop (place + 1)) place
  have hfound (h : Scan.ends closer c ⟨none, false, depth⟩ = true) :=
    Scan.closing_cons_found h (text.drop (place + 1)) place
  simp only [Keeps, turn, found, hchar, List.drop_eq_getElem_cons hlt, hget]
  cases hquote : isQuote c with
  | true => simpa [Scan.step, hquote] using hnext (by simp [Scan.ends, hquote])
  | false =>
    by_cases hopen : c = '\x7b'
    · subst hopen
      exact hnext (by simp [Scan.ends])
    · by_cases hclose : c = '\x7d'
      · subst hclose
        have hstep : (Scan.mk none false depth).step '\x7d' = ⟨none, false, depth - 1⟩ := rfl
        rw [Scan.ends_close, hstep] at hnext
        rw [Scan.ends_close] at hfound
        cases hhere : ('\x7d' == closer && depth - 1 == 0) with
        | true => simpa [hhere] using hfound hhere
        | false => simpa [hhere] using hnext hhere
      · have hstep : (Scan.mk none false depth).step c = ⟨none, false, depth⟩ := by
          simp [Scan.step, hquote, hopen, hclose]
        rw [Scan.ends_outside hquote hopen hclose, hstep] at hnext
        rw [Scan.ends_outside hquote hopen hclose] at hfound
        cases hhere : (c == closer && depth == 0) with
        | true => simpa [hhere, hopen, hclose] using hfound hhere
        | false => simpa [hhere, hopen, hclose] using hnext hhere

theorem keeps (closer : Char) (text : List Char) (s : Stand) : s.Keeps closer text := by
  cases hchar : text[s.place]? with
  | none =>
    simp only [Keeps, turn, found, hchar]
    rw [List.drop_eq_nil_of_le (List.getElem?_eq_none_iff.1 hchar)]
    rfl
  | some c =>
    cases hs : s.quote with
    | some q => exact keeps_inside hchar hs
    | none => exact keeps_outside hchar hs

/-- The search ends with what the scan finds. -/
theorem found_of_endsAfter {n : Nat} {a : Option Nat}
    (h : EndsAfter (turn (· == closer) text) s n a) : s.found closer text = a := by
  induction h with
  | @done s a last =>
    have hkeeps := keeps closer text s
    rwa [Keeps, last] at hkeeps
  | @next s s' n a turned rest ih =>
    have hkeeps := keeps closer text s
    rw [Keeps, turned] at hkeeps
    exact hkeeps.trans ih

end Stand

/-- Whatever is looked for, the search ends after no more turns than there are characters, and one
for the end of the line; and what it ends with is what the scan finds. For a brace that opens, that
is the first place up to which as many close as open outside of quotes. The bracket of a tag is the
first one outside of quotes with as many of both before it. If the search begins outside of the
quotes of the line, the quotes that it sees are those of the line. -/
theorem closingAt_matches (text : List Char) (start : Nat) :
    (∀ closes, ∃ n ≤ text.length - start + 1, ∃ found,
      EndsAfter (turn closes text) ⟨start, none, 0⟩ n found) ∧
    (∀ closer n found, EndsAfter (turn (· == closer) text) ⟨start, none, 0⟩ n found →
      closingAt closer text start = found) ∧
    (text[start]? = some '\x7b' → IsFirstOf (closingAt '\x7d' text start)
      {i | start ≤ i ∧ i < text.length ∧ IsBalanced (fromTo text start i)}) ∧
    IsFirstOf (closingAt '>' text start)
      {i | StandsBare '>' text start i ∧ IsBalanced (fromTo text start i)} ∧
    ∀ c, StandsBare c text 0 start → bare (text.drop start) = (bare text).drop start := by
  refine ⟨?_, ?_, closingAt_brace_isFirstOf, closingAt_isFirstOf (by decide) text start, ?_⟩
  · intro closes
    exact exists_endsAfter_turn closes text ⟨start, none, 0⟩
  · intro closer n found h
    exact Stand.found_of_endsAfter h
  · intro c h
    exact bare_drop h

/-- An element with braces, escaped quotes and a bracket in the values of its attributes. -/
def callLine : List Char := "<a b=\x7bf('\x7b', \"\\\"\x7d\")\x7d c='>'>".toList

theorem closingAt_matches_call :
    callLine[5]? = some '\x7b' ∧ StandsBare '\x7b' callLine 0 5 ∧
    closingAt '\x7d' callLine 5 = some 19 ∧
    IsLeast {i | 5 ≤ i ∧ i < callLine.length ∧ IsBalanced (fromTo callLine 5 i)} 19 ∧
    bare (callLine.drop 5) = (bare callLine).drop 5 := by
  have hopen : callLine[5]? = some '\x7b' := by decide
  have hbare : StandsBare '\x7b' callLine 0 5 := ⟨Nat.zero_le 5, by decide⟩
  have hfound : closingAt '\x7d' callLine 5 = some 19 := by decide
  obtain ⟨-, -, hbrace, -, hquotes⟩ := closingAt_matches callLine 5
  exact ⟨hopen, hbare, hfound, ((hbrace hopen).some_iff 19).1 hfound, hquotes '\x7b' hbare⟩

end Markup

end Restyle
