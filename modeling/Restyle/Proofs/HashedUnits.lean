import Mathlib.Algebra.BigOperators.Fin
import Mathlib.Data.Int.ModEq
import Mathlib.Data.Nat.Bitwise
import Mathlib.Tactic.Ring
import Restyle.Proofs.CanonicalClass

/-!
What the hash of a text is. Taken step by step in 32 bits it is still the sum of all the units, each
times as often 31 as units follow, but for whole multiples of what 32 bits hold. So the hash of two
texts, one behind the other, can be told from the hashes of both. Texts with halves have no hash,
and a text that is taken for one with a half, as told where units are defined, counts as one.
-/
namespace Restyle

namespace Text

/-! ### Halves in a text that is cut in two -/

variable {a b s : List Char}

/-- Whether no half has its mark at the end of one text and the rest of it in the other one. It can
only be otherwise where the first text ends with such a mark. -/
def CutsNoHalf (a b : List Char) : Prop := ∀ x ∈ a.getLast?, ∀ y ∈ b.head?, halfOf? x y = none

instance (a b : List Char) : Decidable (CutsNoHalf a b) :=
  @Option.decidableForallMem _ _ (fun _ => Option.decidableForallMem _) a.getLast?

theorem hasHalf_eq_false_iff (s : List Char) :
    hasHalf s = false ↔ s.IsChain fun x y => halfOf? x y = none := by
  rw [hasHalf, codes_eq]
  fun_induction codesFrom s with
  | case1 x y rest n h ih =>
    obtain ⟨hn, -⟩ := ofHalf_of_halfOf? h
    simp [hn, h]
  | case2 x y rest h ih =>
    rw [List.any_cons, isHalf_toNat, Bool.false_or, ih, List.isChain_cons_cons]
    simp [h]
  | case3 c => simp [isHalf_toNat]
  | case4 => simp

theorem hasHalf_append_eq_false_iff :
    hasHalf (a ++ b) = false ↔ hasHalf a = false ∧ hasHalf b = false ∧ CutsNoHalf a b := by
  simp only [hasHalf_eq_false_iff, List.isChain_append, CutsNoHalf]

/-- Without halves each character is a code point by itself. -/
theorem codes_eq_map (h : hasHalf s = false) : codes s = s.map Char.toNat := by
  rw [hasHalf_eq_false_iff] at h
  rw [codes_eq]
  fun_induction codesFrom s with
  | case1 x y rest n hsome ih =>
    rw [List.isChain_cons_cons, hsome] at h
    cases h.1
  | case2 x y rest hnone ih => rw [ih (List.isChain_cons_cons.1 h).2, ← List.map_cons]
  | case3 c => rfl
  | case4 => rfl

theorem units_append (h : hasHalf (a ++ b) = false) : units (a ++ b) = units a ++ units b := by
  obtain ⟨ha, hb, -⟩ := hasHalf_append_eq_false_iff.1 h
  rw [units, codes_eq_map h, List.map_append, List.flatMap_append, ← codes_eq_map ha,
    ← codes_eq_map hb, units, units]

end Text

namespace Style

open Text

/-! ### The sum of the units -/

/-- The sum of the units, each times 31 to the number of units behind it. -/
def weightedSum (us : List Nat) : Nat := ∑ i : Fin us.length, us[i] * 31 ^ (us.length - 1 - i)

theorem weightedSum_cons (u : Nat) (us : List Nat) :
    weightedSum (u :: us) = u * 31 ^ us.length + weightedSum us := by
  have hplace (i : Fin us.length) : us.length - (i.val + 1) = us.length - 1 - i.val := by omega
  simp [weightedSum, Fin.sum_univ_succ, hplace]

theorem weightedSum_append (us vs : List Nat) :
    weightedSum (us ++ vs) = weightedSum us * 31 ^ vs.length + weightedSum vs := by
  induction us with
  | nil => simp [weightedSum]
  | cons u us ih =>
    rw [List.cons_append, weightedSum_cons, ih, weightedSum_cons, List.length_append]
    ring

/-- Whether a number is the hash of units: it fits into 32 bits, one of them for the sign, and there
it is their weighted sum. -/
structure IsHash (us : List Nat) (h : Int) : Prop where
  ge : -2 ^ 31 ≤ h
  lt : h < 2 ^ 31
  sum : h ≡ weightedSum us [ZMOD 2 ^ 32]

theorem IsHash.unique {us : List Nat} {h h' : Int} (hh : IsHash us h) (hh' : IsHash us h') :
    h = h' := by
  have hsame : h % 2 ^ 32 = h' % 2 ^ 32 := hh.sum.trans hh'.sum.symm
  have hge := hh.ge
  have hlt := hh.lt
  have hge' := hh'.ge
  have hlt' := hh'.lt
  omega

/-- What the steps make of `h` counts as one more unit in front of all the others. -/
theorem foldl_hashStep_modEq (us : List Nat) (h : Nat) :
    us.foldl hashStep h ≡ h * 31 ^ us.length + weightedSum us [MOD wordCount] := by
  induction us generalizing h with
  | nil => simp [weightedSum, Nat.ModEq.refl]
  | cons u us ih =>
    -- The first unit is taken in by `h`, so the induction leaves `h` open.
    have hstep : hashStep h u ≡ h * 31 + u [MOD wordCount] := Nat.mod_modEq _ _
    calc (u :: us).foldl hashStep h
        ≡ hashStep h u * 31 ^ us.length + weightedSum us [MOD wordCount] := ih (hashStep h u)
      _ ≡ (h * 31 + u) * 31 ^ us.length + weightedSum us [MOD wordCount] :=
        (hstep.mul_right _).add_right _
      _ = h * 31 ^ (u :: us).length + weightedSum (u :: us) := by
        rw [weightedSum_cons, List.length_cons]
        ring

theorem foldl_hashStep_sum (us : List Nat) :
    ((us.foldl hashStep 0 : Nat) : Int) ≡ weightedSum us [ZMOD 2 ^ 32] := by
  have hwhole := foldl_hashStep_modEq us 0
  rw [Nat.zero_mul, Nat.zero_add] at hwhole
  exact Int.natCast_modEq_iff.2 hwhole

theorem wordCount_pos : 0 < wordCount := by decide

theorem foldl_hashStep_lt (us : List Nat) {h : Nat} (hh : h < wordCount) :
    us.foldl hashStep h < wordCount := by
  induction us generalizing h with
  | nil => exact hh
  | cons u us ih => exact ih (Nat.mod_lt _ wordCount_pos)

theorem signedHash_isHash (s : List Char) : IsHash (units s) (signedHash s) where
  ge := Int.le_bmod wordCount_pos
  lt := Int.bmod_lt wordCount_pos
  sum := Int.bmod_emod.trans (foldl_hashStep_sum (units s))

/-! ### Shifts and masks over bytes -/

/-- The two bytes of a unit, the lower one first. -/
def unitBytes (unit : Nat) : List Nat := [unit % 256, unit / 256]

/-- The hash so far, taken on over bytes: each pair of them is one unit, 31 times is one shift less
once, and a mask keeps 32 bits. -/
def bytesHash (h : Nat) : List Nat → Nat
  | low :: high :: rest =>
    bytesHash (((h <<< 5) - h + (low ||| high <<< 8)) &&& 0xFFFFFFFF) rest
  | _ => h

/-- A word of 32 bits as a number with a sign, which is the highest bit. -/
def signedWord (word : Nat) : Int :=
  if word &&& 0x80000000 = 0 then word else (word : Int) - 0x100000000

theorem or_unitBytes (unit : Nat) : unit % 256 ||| (unit / 256) <<< 8 = unit := by
  have hlow : unit % 256 < 2 ^ 8 := Nat.mod_lt unit (by decide)
  rw [Nat.or_comm, ← Nat.shiftLeft_add_eq_or_of_lt hlow, Nat.shiftLeft_eq]
  omega

theorem hashStep_eq_mask (h unit : Nat) :
    hashStep h unit = ((h <<< 5) - h + unit) &&& 0xFFFFFFFF := by
  have hshift : (h <<< 5) - h = h * 31 := by
    rw [Nat.shiftLeft_eq]
    omega
  rw [hshift, hashStep]
  exact (Nat.and_two_pow_sub_one_eq_mod _ 32).symm

theorem bytesHash_unitBytes (us : List Nat) (h : Nat) :
    bytesHash h (us.flatMap unitBytes) = us.foldl hashStep h := by
  induction us generalizing h with
  | nil => rfl
  | cons u us ih =>
    rw [List.flatMap_cons, unitBytes, List.cons_append, List.cons_append, List.nil_append,
      bytesHash, or_unitBytes, ← hashStep_eq_mask, ih, List.foldl_cons]

/-- The upper half of the words has the sign bit. -/
theorem and_signBit_eq_zero_iff {word : Nat} (h : word < wordCount) :
    word &&& 0x80000000 = 0 ↔ word < 2 ^ 31 := by
  have hmask : word &&& 0x80000000 = (word.testBit 31).toNat * 2 ^ 31 := Nat.and_two_pow word 31
  rw [wordCount] at h
  rw [hmask, Nat.testBit_eq_decide_div_mod_eq, Nat.mul_eq_zero]
  by_cases hlow : word < 2 ^ 31
  · have hbit : word / 2 ^ 31 % 2 = 0 := by omega
    rw [hbit]
    exact iff_of_true (.inl rfl) hlow
  · have hbit : word / 2 ^ 31 % 2 = 1 := by omega
    rw [hbit]
    exact iff_of_false (by decide) hlow

theorem signedWord_spec {word : Nat} (h : word < wordCount) :
    -2 ^ 31 ≤ signedWord word ∧ signedWord word < 2 ^ 31 ∧
      signedWord word ≡ word [ZMOD 2 ^ 32] := by
  have hbit := and_signBit_eq_zero_iff h
  rw [wordCount] at h
  unfold signedWord Int.ModEq
  split
  · next hlow =>
    have hlow := hbit.1 hlow
    omega
  · next hhigh =>
    have hhigh := mt hbit.2 hhigh
    omega

theorem signedWord_bytesHash (s : List Char) :
    signedWord (bytesHash 0 ((units s).flatMap unitBytes)) = signedHash s := by
  rw [bytesHash_unitBytes]
  obtain ⟨hge, hlt, hsame⟩ := signedWord_spec (foldl_hashStep_lt (units s) wordCount_pos)
  exact IsHash.unique ⟨hge, hlt, hsame.trans (foldl_hashStep_sum (units s))⟩ (signedHash_isHash s)

/-! ### The hash of a text -/

theorem hashOf_eq_ok_iff {s : List Char} {h : Int} :
    hashOf s = .ok h ↔ hasHalf s = false ∧ signedHash s = h := by
  rw [← unitsFault?_eq_none_iff, hashOf]
  cases unitsFault? s with
  | none => simp
  | some f => simp

theorem hashOf_eq_ok {s : List Char} (h : hasHalf s = false) : hashOf s = .ok (signedHash s) :=
  hashOf_eq_ok_iff.2 ⟨h, rfl⟩

theorem signedHash_append {a b : List Char} (h : hasHalf (a ++ b) = false) :
    signedHash (a ++ b) ≡ signedHash a * 31 ^ (units b).length + signedHash b [ZMOD 2 ^ 32] := by
  have hsum := (signedHash_isHash (a ++ b)).sum
  rw [units_append h, weightedSum_append] at hsum
  push_cast at hsum
  refine hsum.trans ?_
  exact (((signedHash_isHash a).sum.mul_right _).add (signedHash_isHash b).sum).symm

/-- A text has a hash unless there are halves in it. The hash is the only number of 32 bits with a
sign that is the weighted sum of the units there, and shifts and masks over their bytes come to it.
Put behind the text, another one moves its hash on by 31 for each unit and adds its own. -/
theorem hashOf_sums_units (s : List Char) :
    ((∃ h, hashOf s = .ok h) ↔ hasHalf s = false) ∧
    (∀ h, hashOf s = .ok h → (∀ h', IsHash (units s) h' ↔ h' = h) ∧
      signedWord (bytesHash 0 ((units s).flatMap unitBytes)) = h) ∧
    ∀ t, hasHalf s = false → hasHalf t = false → CutsNoHalf s t →
      ∃ hs ht h, hashOf s = .ok hs ∧ hashOf t = .ok ht ∧ hashOf (s ++ t) = .ok h ∧
        h ≡ hs * 31 ^ (units t).length + ht [ZMOD 2 ^ 32] := by
  refine ⟨?_, fun h hok => ⟨fun h' => ?_, ?_⟩, fun t hs ht hcut => ?_⟩
  · constructor
    · intro h
      obtain ⟨h, hok⟩ := h
      exact (hashOf_eq_ok_iff.1 hok).1
    · intro hhalf
      exact ⟨_, hashOf_eq_ok hhalf⟩
  · rw [← (hashOf_eq_ok_iff.1 hok).2]
    constructor
    · intro hh
      exact hh.unique (signedHash_isHash s)
    · intro heq
      rw [heq]
      exact signedHash_isHash s
  · rw [signedWord_bytesHash]
    exact (hashOf_eq_ok_iff.1 hok).2
  · have hwhole := hasHalf_append_eq_false_iff.2 ⟨hs, ht, hcut⟩
    exact ⟨_, _, _, hashOf_eq_ok hs, hashOf_eq_ok ht, hashOf_eq_ok hwhole, signedHash_append hwhole⟩

/-- Two words that make the least of all hashes together. -/
theorem hashOf_sums_units_least :
    hasHalf "polygene".toList = false ∧ hasHalf "lubricants".toList = false ∧
    CutsNoHalf "polygene".toList "lubricants".toList ∧
    hashOf "polygenelubricants".toList = .ok (-2 ^ 31) ∧
    ∃ hs ht, hashOf "polygene".toList = .ok hs ∧ hashOf "lubricants".toList = .ok ht ∧
      -2 ^ 31 ≡ hs * 31 ^ 10 + ht [ZMOD 2 ^ 32] := by
  have hfirst : hasHalf "polygene".toList = false := by decide
  have hlast : hasHalf "lubricants".toList = false := by decide
  have hcut : CutsNoHalf "polygene".toList "lubricants".toList := by decide
  have hleast : hashOf "polygenelubricants".toList = .ok (-2 ^ 31) := by decide +kernel
  obtain ⟨-, -, happend⟩ := hashOf_sums_units "polygene".toList
  obtain ⟨hs, ht, h, hokFirst, hokLast, hok, hsum⟩ := happend _ hfirst hlast hcut
  obtain rfl : -2 ^ 31 = h := Except.ok.inj (hleast.symm.trans hok)
  exact ⟨hfirst, hlast, hcut, hleast, hs, ht, hokFirst, hokLast, hsum⟩

/-- One half is a unit and its own hash by that sum, but a text of it has none. -/
theorem hashOf_lone_half_fails :
    units (ofHalf 0xD800) = [0xD800] ∧ IsHash [0xD800] 0xD800 ∧
    ¬ ∃ h, hashOf (ofHalf 0xD800) = .ok h := by
  refine ⟨by decide, ⟨by decide, by decide, ?_⟩, fun h => ?_⟩
  · rw [weightedSum_cons]
    rfl
  · obtain ⟨h, hok⟩ := h
    exact absurd (hashOf_eq_ok_iff.1 hok).1 (by decide)

end Style

end Restyle
