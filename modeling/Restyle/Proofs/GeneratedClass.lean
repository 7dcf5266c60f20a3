import Mathlib.Data.Nat.Digits.Lemmas
import Restyle.Style.ClassName

/-!
The names of generated classes. What they have in them is told apart from the rest of a rule, and
they are as many as there are hashes without their sign.
-/
namespace Restyle

namespace Text

/-- A text without blanks is its only word. -/
theorem words_eq_self {w : List Char} (hne : w ≠ []) (h : ∀ c ∈ w, isBlank c = false) :
    words w = [w] := by
  rw [words, List.splitOnP_eq_singleton h]
  simpa using hne

end Text

namespace Number

theorem digit36_inj : ∀ m < 36, ∀ n < 36, digit36 m = digit36 n → m = n := by decide

theorem digit36_mem : ∀ n < 36, digit36 n ∈ "0123456789abcdefghijklmnopqrstuvwxyz".toList := by
  decide

/-- The digits are those of the number to the base 36, the highest first. -/
theorem digits36_eq (n : Nat) (acc : List Char) :
    digits36 n acc = (Nat.digits 36 n).reverse.map digit36 ++ acc := by
  induction n using Nat.strongRecOn generalizing acc with
  | ind n ih =>
    rw [digits36]
    split
    · next h =>
      subst h
      simp
    · next h =>
      rw [ih (n / 36) (by omega), Nat.digits_def' (by decide) (Nat.pos_of_ne_zero h)]
      simp

theorem base36_eq (n : Nat) :
    base36 n = if n = 0 then [digit36 0] else (Nat.digits 36 n).reverse.map digit36 := by
  unfold base36
  split
  · rfl
  · simp [digits36_eq]

theorem lt_of_mem_digits {n d : Nat} (h : d ∈ (Nat.digits 36 n).reverse) : d < 36 :=
  Nat.digits_lt_base (by decide) (List.mem_reverse.1 h)

theorem map_digit36_inj {ds ds' : List Nat} (hds : ∀ d ∈ ds, d < 36) (hds' : ∀ d ∈ ds', d < 36)
    (h : ds.map digit36 = ds'.map digit36) : ds = ds' := by
  induction ds generalizing ds' with
  | nil => exact (List.map_eq_nil_iff.1 h.symm).symm
  | cons d ds ih =>
    cases ds' with
    | nil => cases h
    | cons d' ds' =>
      obtain ⟨hd, hrest⟩ := List.cons.inj h
      rw [digit36_inj d (hds d List.mem_cons_self) d' (hds' d' List.mem_cons_self) hd,
        ih (fun x hx => hds x (List.mem_cons_of_mem _ hx))
          (fun x hx => hds' x (List.mem_cons_of_mem _ hx)) hrest]

/-- A numeral has no zeros in front, so that only zero is written as one. -/
theorem map_digits_ne_zero {n : Nat} (hn : n ≠ 0) :
    (Nat.digits 36 n).reverse.map digit36 ≠ [digit36 0] := by
  intro h
  have hzero : (Nat.digits 36 n).reverse = [0] :=
    map_digit36_inj (fun d hd => lt_of_mem_digits hd) (by decide) h
  have hdigits : Nat.digits 36 n = [0] := by simpa using congrArg List.reverse hzero
  have hlast := Nat.getLast_digit_ne_zero 36 hn
  simp [hdigits] at hlast

theorem base36_injective {m n : Nat} (h : base36 m = base36 n) : m = n := by
  rw [base36_eq, base36_eq] at h
  split at h
  · next hm =>
    split at h
    · next hn => rw [hm, hn]
    · next hn => exact absurd h.symm (map_digits_ne_zero hn)
  · next hm =>
    split at h
    · next hn => exact absurd h (map_digits_ne_zero hm)
    · next hn =>
      have hreverse := map_digit36_inj (fun d hd => lt_of_mem_digits hd)
        (fun d hd => lt_of_mem_digits hd) h
      exact Nat.digits_inj_iff.1 (List.reverse_injective hreverse)

theorem mem_base36 {n : Nat} {c : Char} (h : c ∈ base36 n) :
    c ∈ "0123456789abcdefghijklmnopqrstuvwxyz".toList := by
  rw [base36_eq] at h
  split at h
  · rw [List.mem_singleton.1 h]
    exact digit36_mem 0 (by decide)
  · obtain ⟨d, hd, rfl⟩ := List.mem_map.1 h
    exact digit36_mem d (lt_of_mem_digits hd)

end Number

namespace Style

open Number

theorem nameOf_eq_iff {h h' : Int} : nameOf h = nameOf h' ↔ h.natAbs = h'.natAbs := by
  constructor
  · intro e
    have hlist := congrArg String.toList e
    simp only [nameOf, String.toList_append, String.toList_ofList,
      List.append_cancel_left_eq] at hlist
    exact base36_injective hlist
  · intro e
    rw [nameOf, nameOf, e]

theorem className_eq_ok {ds : Declarations} {name : String} (h : className ds = .ok name) :
    name = nameOf (signedHash (signature ds)) := by
  unfold className hashOf at h
  split at h
  · cases h
  · split at h <;> cases h
    rfl

/-- Two sets of declarations have one class if and only if their hashes agree up to the sign. -/
theorem className_eq_iff {ds ds' : Declarations} {name name' : String}
    (h : className ds = .ok name) (h' : className ds' = .ok name') :
    name = name' ↔ (signedHash (signature ds)).natAbs = (signedHash (signature ds')).natAbs := by
  rw [className_eq_ok h, className_eq_ok h', nameOf_eq_iff]

/-- What is in the name of a class. -/
def isNameSign (c : Char) : Bool :=
  "sourcelens-dynamic-0123456789abcdefghijklmnopqrstuvwxyz".toList.contains c

theorem isNameSign_of_mem {ds : Declarations} {name : String} (h : className ds = .ok name)
    {c : Char} (hc : c ∈ name.toList) : isNameSign c = true := by
  rw [className_eq_ok h, nameOf, String.toList_append, String.toList_ofList,
    List.mem_append] at hc
  unfold isNameSign
  rw [List.contains_iff_mem]
  have hall : "sourcelens-dynamic-0123456789abcdefghijklmnopqrstuvwxyz".toList =
      classPrefix.toList ++ "0123456789abcdefghijklmnopqrstuvwxyz".toList := by decide
  rw [hall]
  exact List.mem_append.2 (hc.imp_right mem_base36)

end Style

end Restyle
