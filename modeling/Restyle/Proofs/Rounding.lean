import Mathlib.Algebra.Order.Field.Power
import Mathlib.Data.Rat.Floor
import Mathlib.Tactic.Linarith
import Mathlib.Tactic.NormNum
import Restyle.Proofs.Retention

/-!
Rounding to 53 significant bits keeps the order of the numbers that are not negative. Two numbers
with the same last place are rounded on one grid; otherwise a power of two lies between them, and
both grids have it.
-/
namespace Restyle.Number

/-- Rounding goes down or up, and at a half to the even neighbour. -/
theorem roundHalfEven_cases (q : Rat) :
    (roundHalfEven q = q.floor ∧ q - q.floor ≤ 1 / 2 ∧
      (q - q.floor = 1 / 2 → q.floor % 2 = 0)) ∨
    (roundHalfEven q = q.floor + 1 ∧ 1 / 2 ≤ q - q.floor ∧
      (q - q.floor = 1 / 2 → q.floor % 2 ≠ 0)) := by
  unfold roundHalfEven
  simp only
  split
  · next h => exact .inl ⟨rfl, h.le, fun e => absurd e h.ne⟩
  · next hlow =>
    split
    · next h => exact .inr ⟨rfl, h.le, fun e => absurd e h.ne'⟩
    · next hhigh =>
      have half : q - q.floor = 1 / 2 := le_antisymm (not_lt.1 hhigh) (not_lt.1 hlow)
      split
      · next h => exact .inl ⟨rfl, half.le, fun _ => h⟩
      · next h => exact .inr ⟨rfl, half.ge, fun _ => h⟩

@[simp] theorem roundHalfEven_intCast (n : Int) : roundHalfEven n = n := by
  simp [roundHalfEven, Rat.floor_intCast]

theorem roundHalfEven_mono {x y : Rat} (h : x ≤ y) : roundHalfEven x ≤ roundHalfEven y := by
  have hfloor : x.floor ≤ y.floor := Rat.le_floor_iff.2 (le_trans (Rat.floor_le x) h)
  obtain ⟨ex, -, -⟩ | ⟨ex, lowx, oddx⟩ := roundHalfEven_cases x
  · obtain ⟨ey, -, -⟩ | ⟨ey, -, -⟩ := roundHalfEven_cases y <;> omega
  · obtain ⟨ey, highy, eveny⟩ | ⟨ey, -, -⟩ := roundHalfEven_cases y
    · -- up and then down on one step of the grid would be two halves of different parity
      by_contra hlt
      have heq : x.floor = y.floor := by omega
      rw [heq] at lowx oddx
      have halfx : x - y.floor = 1 / 2 := by linarith
      have halfy : y - y.floor = 1 / 2 := by linarith
      exact oddx halfx (eveny halfy)
    · omega

@[simp] theorem roundHalfEven_two_pow (n : Nat) : roundHalfEven (2 ^ n) = 2 ^ n := by
  have e : (2 : Rat) ^ n = ((2 ^ n : Int) : Rat) := by push_cast; rfl
  rw [e, roundHalfEven_intCast]

theorem zpow_pos_two (k : Int) : (0 : Rat) < 2 ^ k := zpow_pos (by norm_num) k

theorem natCast_log2_bounds {n : Nat} (h : n ≠ 0) :
    (2 : Rat) ^ (Nat.log2 n : Int) ≤ n ∧ (n : Rat) < 2 ^ (Nat.log2 n + 1 : Int) := by
  have hlow : (2 : Nat) ^ Nat.log2 n ≤ n := Nat.log2_self_le h
  have hhigh : n < 2 ^ (Nat.log2 n + 1) := Nat.lt_log2_self
  constructor
  · rw [zpow_natCast]
    exact_mod_cast hlow
  · have e : ((Nat.log2 n : Int) + 1) = ((Nat.log2 n + 1 : Nat) : Int) := by push_cast; rfl
    rw [e, zpow_natCast]
    exact_mod_cast hhigh

/-- What the exponent of a number says of its size. -/
theorem floorLog2_bounds {q : Rat} (h : 0 < q) :
    (2 : Rat) ^ floorLog2 q ≤ q ∧ q < 2 ^ (floorLog2 q + 1) := by
  have hnum : 0 < q.num := Rat.num_pos.2 h
  have hcast : ((q.num.natAbs : Nat) : Rat) = q.num := by
    rw [← Int.cast_natCast, Int.natAbs_of_nonneg hnum.le]
  have hden : (0 : Rat) < q.den := by exact_mod_cast q.den_pos
  have hq : q = q.num.natAbs / q.den := by rw [hcast, Rat.num_div_den]
  obtain ⟨nlow, nhigh⟩ := natCast_log2_bounds (n := q.num.natAbs) (by omega)
  obtain ⟨dlow, dhigh⟩ := natCast_log2_bounds (n := q.den) q.den_nz
  set a : Int := (Nat.log2 q.num.natAbs : Int) with ha
  set b : Int := (Nat.log2 q.den : Int) with hb
  have hlow : (2 : Rat) ^ (a - b - 1) ≤ q := by
    have e : (2 : Rat) ^ (a - b - 1) * 2 ^ (b + 1) = 2 ^ a := by
      rw [← zpow_add₀ (by norm_num)]
      congr 1
      omega
    rw [hq, le_div_iff₀ hden]
    calc (2 : Rat) ^ (a - b - 1) * q.den ≤ 2 ^ (a - b - 1) * 2 ^ (b + 1) :=
          mul_le_mul_of_nonneg_left dhigh.le (zpow_pos_two _).le
      _ = 2 ^ a := e
      _ ≤ q.num.natAbs := nlow
  have hhigh : q < 2 ^ (a - b + 1) := by
    have e : (2 : Rat) ^ (a - b + 1) * 2 ^ b = 2 ^ (a + 1) := by
      rw [← zpow_add₀ (by norm_num)]
      congr 1
      omega
    rw [hq, div_lt_iff₀ hden]
    calc (q.num.natAbs : Rat) < 2 ^ (a + 1) := nhigh
      _ = 2 ^ (a - b + 1) * 2 ^ b := e.symm
      _ ≤ 2 ^ (a - b + 1) * q.den := mul_le_mul_of_nonneg_left dlow (zpow_pos_two _).le
  unfold floorLog2
  simp only [← ha, ← hb]
  split
  · next hlt => exact ⟨hlow, by simpa using hlt⟩
  · next hle => exact ⟨not_lt.1 hle, hhigh⟩

theorem lt_of_zpow_lt {m n : Int} (h : (2 : Rat) ^ m < 2 ^ n) : m < n :=
  (zpow_lt_zpow_iff_right₀ (by norm_num)).1 h

theorem floorLog2_mono {x y : Rat} (hx : 0 < x) (h : x ≤ y) : floorLog2 x ≤ floorLog2 y := by
  have hlow := (floorLog2_bounds hx).1
  have hhigh := (floorLog2_bounds (lt_of_lt_of_le hx h)).2
  have hlt := lt_of_zpow_lt (lt_of_le_of_lt (hlow.trans h) hhigh)
  omega

theorem nearest_of_pos {q : Rat} (h : 0 < q) :
    nearest q = roundHalfEven (q / 2 ^ lastPlace q) * 2 ^ lastPlace q := by
  unfold nearest
  rw [if_neg h.ne']

theorem lastPlace_of_pos {q : Rat} (h : 0 < q) :
    lastPlace q = max (floorLog2 q - 52) (-1074) := by
  unfold lastPlace
  rw [Rat.abs_of_nonneg h.le]

theorem roundOn_mono (e : Int) {x y : Rat} (h : x ≤ y) :
    (roundHalfEven (x / 2 ^ e) : Rat) * 2 ^ e ≤ roundHalfEven (y / 2 ^ e) * 2 ^ e := by
  refine mul_le_mul_of_nonneg_right ?_ (zpow_pos_two e).le
  exact_mod_cast roundHalfEven_mono (div_le_div_of_nonneg_right h (zpow_pos_two e).le)

/-- A power of two lies on every grid that is not wider. -/
theorem roundOn_two_zpow {e k : Int} (h : e ≤ k) :
    (roundHalfEven (2 ^ k / 2 ^ e) : Rat) * 2 ^ e = 2 ^ k := by
  obtain ⟨n, rfl⟩ : ∃ n : Nat, k = e + n := ⟨(k - e).toNat, by omega⟩
  have hsplit : (2 : Rat) ^ (e + n) = 2 ^ n * 2 ^ e := by
    rw [Int.add_comm, zpow_add₀ (by norm_num), zpow_natCast]
  rw [hsplit, mul_div_cancel_right₀ _ (zpow_pos_two e).ne', roundHalfEven_two_pow]
  push_cast
  rfl

theorem nearest_mono {x y : Rat} (hx : 0 ≤ x) (h : x ≤ y) : nearest x ≤ nearest y := by
  rcases eq_or_lt_of_le hx with rfl | hx
  · exact nearest_nonneg h
  have hy := lt_of_lt_of_le hx h
  have hlog := floorLog2_mono hx h
  rw [nearest_of_pos hx, nearest_of_pos hy]
  by_cases hplace : lastPlace x = lastPlace y
  · rw [hplace]
    exact roundOn_mono _ h
  · -- the power of two that begins the numbers of the size of `y` is between them
    rw [lastPlace_of_pos hx, lastPlace_of_pos hy] at hplace ⊢
    have hsmall : x ≤ 2 ^ floorLog2 y := by
      have hbelow : (2 : Rat) ^ (floorLog2 x + 1) ≤ 2 ^ floorLog2 y :=
        zpow_le_zpow_right₀ (by norm_num) (by omega)
      exact (floorLog2_bounds hx).2.le.trans hbelow
    have hx' := roundOn_mono (max (floorLog2 x - 52) (-1074)) hsmall
    have hy' := roundOn_mono (max (floorLog2 y - 52) (-1074)) (floorLog2_bounds hy).1
    rw [roundOn_two_zpow (by omega)] at hx' hy'
    exact hx'.trans hy'

end Restyle.Number

namespace Restyle.Clock

/-- What was early is the longer ago the later it is. -/
theorem since_mono {early now later : Clock} (h : early.seconds ≤ now.seconds)
    (h' : now.seconds ≤ later.seconds) : now.since early ≤ later.since early :=
  Number.nearest_mono (by linarith) (by linarith)

end Restyle.Clock
