import Mathlib.Data.List.TakeDrop
import Restyle.Value.Json

/-!
Whole numbers as text: different numbers have different texts, and a number is read back from the
front of a text if what follows does not go on with it.
-/
namespace Restyle.Value

open Number

theorem mem_decimalDigits {n : Nat} {c : Char} (h : c ∈ decimalDigits n) : c.isDigit :=
  Nat.isDigit_of_mem_toDigits (by decide) (by decide) h

theorem decimalDigits_ne_nil (n : Nat) : decimalDigits n ≠ [] := Nat.toDigits_ne_nil

theorem digitsValue_decimalDigits (n : Nat) : digitsValue (decimalDigits n) = n := by
  have h := Nat.ofDigitChars_toDigits (b := 10) (n := n) (by decide) (by decide)
  rw [Nat.ofDigitChars_eq_foldl] at h
  unfold digitsValue decimalDigits
  simpa only [Nat.mul_comm] using h

theorem decimalDigits_injective {m n : Nat} (h : decimalDigits m = decimalDigits n) : m = n := by
  rw [← digitsValue_decimalDigits m, h, digitsValue_decimalDigits]

/-- Only zero begins with a zero. -/
theorem head_decimalDigits {n : Nat} {rest : List Char} (h : decimalDigits n = '0' :: rest) :
    n = 0 ∧ rest = [] := by
  induction n using Nat.strongRecOn generalizing rest with
  | _ n ih =>
    unfold decimalDigits at h ih
    by_cases hn : n < 10
    · rw [Nat.toDigits_of_lt_base hn] at h
      simp only [List.cons.injEq] at h
      obtain ⟨hd, rfl⟩ := h
      refine ⟨?_, rfl⟩
      have hz : ∀ m : Fin 10, Nat.digitChar m = '0' → m.val = 0 := by decide
      exact hz ⟨n, hn⟩ hd
    · rw [Nat.toDigits_of_base_le (by decide) (by omega)] at h
      cases hd : Nat.toDigits 10 (n / 10) with
      | nil => exact absurd hd Nat.toDigits_ne_nil
      | cons c cs =>
        rw [hd] at h
        simp only [List.cons_append, List.cons.injEq] at h
        obtain ⟨rfl, -⟩ := h
        have hz := (ih (n / 10) (by omega) hd).1
        omega

theorem mem_intText {n : Int} {c : Char} (h : c ∈ intText n) : c = '-' ∨ c.isDigit := by
  unfold intText at h
  split at h
  · rcases List.mem_cons.1 h with rfl | h
    · exact .inl rfl
    · exact .inr (mem_decimalDigits h)
  · exact .inr (mem_decimalDigits h)

theorem toList_toString (n : Int) : (toString n).toList = intText n := by
  rw [Int.toString_eq_repr, Int.repr_eq_if]
  unfold intText decimalDigits
  by_cases h : n < 0
  · have h' : ¬ 0 ≤ n := by omega
    have e : (-n).toNat = n.natAbs := by omega
    rw [if_neg h', if_pos h, e, String.toList_append, Nat.toList_repr]
    rfl
  · have h' : 0 ≤ n := by omega
    have e : n.toNat = n.natAbs := by omega
    rw [if_pos h', if_neg h, e, Nat.toList_repr]

theorem intText_injective {m n : Int} (h : intText m = intText n) : m = n := by
  have dash (k : Nat) (cs : List Char) : decimalDigits k ≠ '-' :: cs := by
    intro e
    have hd := mem_decimalDigits (e ▸ List.mem_cons_self : '-' ∈ decimalDigits k)
    simp at hd
  unfold intText at h
  split at h <;> split at h
  · have e := decimalDigits_injective (List.cons.inj h).2
    omega
  · exact absurd h.symm (dash _ _)
  · exact absurd h (dash _ _)
  · have e := decimalDigits_injective h
    omega

/-- Whether a text does not go on with a number. -/
def EndsNumber (s : List Char) : Prop :=
  ∀ c, s.head? = some c → c.isDigit = false ∧ c ≠ '.' ∧ c ≠ 'e' ∧ c ≠ 'E'

theorem takeDigits_append {ds rest : List Char} (hd : ∀ c ∈ ds, c.isDigit) (hr : EndsNumber rest) :
    takeDigits (ds ++ rest) = (ds, rest) := by
  unfold takeDigits
  rw [List.span_eq_takeWhile_dropWhile, List.takeWhile_append_of_pos hd,
    List.dropWhile_append_of_pos hd]
  cases rest with
  | nil => simp
  | cons c rest => simp [(hr c rfl).1]

theorem readFraction_of_ends {rest : List Char} (hr : EndsNumber rest) :
    readFraction rest = ([], rest) := by
  unfold readFraction
  split
  · next r => exact absurd rfl (hr '.' rfl).2.1
  · rfl

theorem readExponent_of_ends {rest : List Char} (hr : EndsNumber rest) :
    readExponent rest = (none, rest) := by
  cases rest with
  | nil => rfl
  | cons c rest =>
    obtain ⟨-, -, he, hE⟩ := hr c rfl
    have h : ¬(c = 'e' ∨ c = 'E') := by
      rintro (h | h)
      · exact he h
      · exact hE h
    simp only [readExponent, if_neg h]

theorem readUnsigned_digits (negative : Bool) (n : Nat) {rest : List Char}
    (hl : (decimalDigits n).length ≤ maxDigits) (hr : EndsNumber rest) :
    readUnsigned negative (decimalDigits n ++ rest) =
      some (int (if negative then -(n : Int) else n), rest) := by
  have hne : (decimalDigits n).isEmpty = false := by
    simpa using decimalDigits_ne_nil n
  have hlt : ¬ maxDigits < (decimalDigits n).length := by omega
  have ht := takeDigits_append (fun c (hc : c ∈ decimalDigits n) => mem_decimalDigits hc) hr
  unfold readUnsigned
  split
  next whole rest' heq =>
    have e : (whole, rest') = (decimalDigits n, rest) := by
      rw [← heq]
      split
      · next r e =>
        cases hd : decimalDigits n with
        | nil => exact absurd hd (decimalDigits_ne_nil n)
        | cons c cs =>
          rw [hd] at e
          obtain ⟨rfl, er⟩ := List.cons.inj e
          obtain ⟨-, rfl⟩ := head_decimalDigits hd
          have er' : rest = r := er
          rw [er']
      · exact ht
    obtain ⟨rfl, rfl⟩ := Prod.mk.inj e
    simp only [hne, readFraction_of_ends hr, readExponent_of_ends hr, hlt,
      digitsValue_decimalDigits]
    simp

theorem decimalDigits_cons (n : Nat) : ∃ c cs, decimalDigits n = c :: cs ∧ c.isDigit := by
  cases h : decimalDigits n with
  | nil => exact absurd h (decimalDigits_ne_nil n)
  | cons c cs => exact ⟨c, cs, rfl, mem_decimalDigits (h ▸ List.mem_cons_self)⟩

/-- A whole number is read back. -/
theorem readNumber_intText {n : Int} {rest : List Char}
    (hl : (decimalDigits n.natAbs).length ≤ maxDigits) (hr : EndsNumber rest) :
    readNumber (intText n ++ rest) = some (int n, rest) := by
  obtain ⟨c, cs, e, hc⟩ := decimalDigits_cons n.natAbs
  have hread (negative : Bool) := readUnsigned_digits negative n.natAbs hl hr
  unfold intText
  rw [e] at hread ⊢
  split
  · next h =>
    have hI : c ≠ 'I' := by
      rintro rfl
      simp at hc
    have hinf : Text.after? "Infinity".toList (c :: cs ++ rest) = none := by
      simp [Text.after?, Text.afterBy?, Ne.symm hI]
    have hn : -(n.natAbs : Int) = n := by omega
    rw [List.cons_append]
    unfold readNumber
    simp only [hinf, hread true, if_true, hn]
  · next h =>
    have hm : c ≠ '-' := by
      rintro rfl
      simp at hc
    have hn : (n.natAbs : Int) = n := by omega
    unfold readNumber
    split
    · next r e' => exact absurd (List.cons.inj e').1 hm
    · rw [hread false]
      simp [hn]

end Restyle.Value
