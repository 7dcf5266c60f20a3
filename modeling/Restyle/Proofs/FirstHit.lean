import Mathlib.Data.Nat.Find
import Restyle.Proofs.EditLocality

/-!
Where a search finds something. The search for an attribute in a stretch of a line tells the first
place in it where its test finds something, and tells none only if there is no such place.
-/
namespace Restyle.Text

/-- What a test finds at a place of a text. -/
def hitAt {α : Type} (test : Option Char → List Char → Option α) (text : List Char) (n : Nat) :
    Option α :=
  test (text.take n).getLast? (text.drop n)

/-- Whether a place is the first one from `first` on where a test finds something. -/
structure IsFirstHit {α : Type} (test : Option Char → List Char → Option α) (text : List Char)
    (first n : Nat) (a : α) : Prop where
  behind : first ≤ n
  hit : hitAt test text n = some a
  before : ∀ m, first ≤ m → m < n → hitAt test text m = none

/-- Whether a test finds nothing from `first` on. -/
def HasNoHit {α : Type} (test : Option Char → List Char → Option α) (text : List Char)
    (first : Nat) : Prop :=
  ∀ n, first ≤ n → hitAt test text n = none

/-- Whether a test finds nothing where nothing stands. -/
def NeedsText {α : Type} (test : Option Char → List Char → Option α) : Prop :=
  ∀ prev, test prev [] = none

variable {α : Type} {test : Option Char → List Char → Option α} {text : List Char} {first n : Nat}
  {a : α}

theorem hitAt_length_add (htest : NeedsText test) (h : text.length ≤ n) :
    hitAt test text n = none := by
  rw [hitAt, List.drop_eq_nil_of_le h]
  exact htest _

theorem firstHit_split (htest : NeedsText test) (pre s : List Char) :
    (∀ n a, firstHit test pre.getLast? pre.length s = some (n, a) →
      IsFirstHit test (pre ++ s) pre.length n a) ∧
    (firstHit test pre.getLast? pre.length s = none → HasNoHit test (pre ++ s) pre.length) := by
  induction s generalizing pre with
  | nil =>
    rw [firstHit, htest, Option.map_none, List.append_nil]
    exact ⟨fun _ _ h => (by cases h), fun _ n hn => hitAt_length_add htest hn⟩
  | cons c s ih =>
    have hhere : hitAt test (pre ++ c :: s) pre.length = test pre.getLast? (c :: s) := by
      rw [hitAt, List.take_left, List.drop_left]
    rw [firstHit]
    cases hc : test pre.getLast? (c :: s) with
    | some b =>
      refine ⟨fun n a h => ?_, fun h => by cases h⟩
      obtain ⟨rfl, rfl⟩ := Prod.mk.inj (Option.some.inj h)
      exact ⟨Nat.le_refl _, hhere.trans hc, fun m hm hlt => absurd hm (by omega)⟩
    | none =>
      have hnext := ih (pre ++ [c])
      rw [List.getLast?_concat, List.length_append, List.length_singleton, List.append_assoc,
        List.singleton_append] at hnext
      obtain ⟨hsome, hnone⟩ := hnext
      have hfrom : ∀ m, pre.length ≤ m → m < pre.length + 1 →
          hitAt test (pre ++ c :: s) m = none := by
        intro m hm hlt
        obtain rfl : m = pre.length := by omega
        rw [hhere, hc]
      refine ⟨fun n a h => ?_, fun h n hn => ?_⟩
      · have hfirst := hsome n a h
        have hbehind := hfirst.behind
        refine ⟨by omega, hfirst.hit, fun m hm hlt => ?_⟩
        by_cases hlater : pre.length + 1 ≤ m
        · exact hfirst.before m hlater hlt
        · exact hfrom m hm (by omega)
      · by_cases hlater : pre.length + 1 ≤ n
        · exact hnone h n hlater
        · exact hfrom n hn (by omega)

theorem IsFirstHit.unique {n' : Nat} {a' : α} (h : IsFirstHit test text first n a)
    (h' : IsFirstHit test text first n' a') : n = n' ∧ a = a' := by
  have hle {m m' : Nat} {b b' : α} (h : IsFirstHit test text first m b)
      (h' : IsFirstHit test text first m' b') : m' ≤ m := by
    by_contra hlt
    have hnone := h'.before m h.behind (by omega)
    rw [h.hit] at hnone
    cases hnone
  obtain rfl : n = n' := Nat.le_antisymm (hle h' h) (hle h h')
  exact ⟨rfl, Option.some.inj (h.hit.symm.trans h'.hit)⟩

/-- Up to a place with a hit there is a first one. -/
theorem exists_isFirstHit (hn : first ≤ n) (h : (hitAt test text n).isSome) :
    ∃ m a, m ≤ n ∧ IsFirstHit test text first m a := by
  have hex : ∃ m, first ≤ m ∧ (hitAt test text m).isSome := ⟨n, hn, h⟩
  obtain ⟨hbehind, hhit⟩ := Nat.find_spec hex
  obtain ⟨a, ha⟩ := Option.isSome_iff_exists.1 hhit
  refine ⟨Nat.find hex, a, Nat.find_min' hex ⟨hn, h⟩, hbehind, ha, fun j hj hlt => ?_⟩
  have hnot := Nat.find_min hex hlt
  rw [not_and, Option.not_isSome_iff_eq_none] at hnot
  exact hnot hj

theorem exists_isFirstHit_or (test : Option Char → List Char → Option α) (text : List Char)
    (first : Nat) : (∃ n a, IsFirstHit test text first n a) ∨ HasNoHit test text first := by
  by_cases h : HasNoHit test text first
  · exact .inr h
  · obtain ⟨n, hn⟩ := not_forall.1 h
    obtain ⟨hbehind, hhit⟩ := Classical.not_imp.1 hn
    obtain ⟨m, a, -, hfirst⟩ := exists_isFirstHit hbehind (Option.isSome_iff_ne_none.2 hhit)
    exact .inl ⟨m, a, hfirst⟩

theorem IsFirstHit.not_hasNoHit (h : IsFirstHit test text first n a) :
    ¬ HasNoHit test text first := by
  intro hnone
  have := hnone n h.behind
  rw [h.hit] at this
  cases this

/-- The search behind a text finds the first hit there. -/
theorem firstHit_eq_some_iff (htest : NeedsText test) (pre s : List Char) :
    firstHit test pre.getLast? pre.length s = some (n, a) ↔
      IsFirstHit test (pre ++ s) pre.length n a := by
  have hsplit := firstHit_split htest pre s
  refine ⟨hsplit.1 n a, fun h => ?_⟩
  cases hfirst : firstHit test pre.getLast? pre.length s with
  | none => exact absurd (hsplit.2 hfirst) h.not_hasNoHit
  | some x =>
    obtain ⟨rfl, rfl⟩ := (hsplit.1 x.1 x.2 hfirst).unique h
    rfl

theorem firstHit_eq_none_iff (htest : NeedsText test) (pre s : List Char) :
    firstHit test pre.getLast? pre.length s = none ↔ HasNoHit test (pre ++ s) pre.length := by
  have hsplit := firstHit_split htest pre s
  refine ⟨hsplit.2, fun h => ?_⟩
  cases hfirst : firstHit test pre.getLast? pre.length s with
  | none => rfl
  | some x => exact absurd h (hsplit.1 x.1 x.2 hfirst).not_hasNoHit

end Restyle.Text

namespace Restyle.Style

open Text Markup

section

variable {α : Type} {test : Option Char → List Char → Option α} {line : List Char}
  {first stop n : Nat} {a : α}

theorem firstIn_eq (hstop : first ≤ stop) (hlength : first ≤ line.length) :
    firstIn test line first stop = firstHit test ((line.take stop).take first).getLast?
      ((line.take stop).take first).length ((line.take stop).drop first) := by
  rw [firstIn, List.take_take, Nat.min_eq_left hstop, List.length_take,
    Nat.min_eq_left hlength]

/-- The search in a stretch finds the first hit in it. -/
theorem firstIn_eq_some_iff (htest : NeedsText test) (hstop : first ≤ stop)
    (hlength : first ≤ line.length) :
    firstIn test line first stop = some (n, a) ↔ IsFirstHit test (line.take stop) first n a := by
  rw [firstIn_eq hstop hlength, firstHit_eq_some_iff htest, List.take_append_drop,
    List.length_take, List.length_take, Nat.min_eq_left (by omega)]

theorem firstIn_eq_none_iff (htest : NeedsText test) (hstop : first ≤ stop)
    (hlength : first ≤ line.length) :
    firstIn test line first stop = none ↔ HasNoHit test (line.take stop) first := by
  rw [firstIn_eq hstop hlength, firstHit_eq_none_iff htest, List.take_append_drop,
    List.length_take, List.length_take, Nat.min_eq_left (by omega)]

end

theorem styleObjectAt_needsText : NeedsText styleObjectAt := by
  intro prev
  simp [styleObjectAt, after?, afterBy?]

theorem classTextAt_needsText : NeedsText classTextAt := by
  intro prev
  simp [classTextAt, afterClassName?, after?, afterBy?]

theorem classExpressionAt_needsText : NeedsText classExpressionAt := by
  intro prev
  simp [classExpressionAt, after?, afterBy?]

end Restyle.Style
