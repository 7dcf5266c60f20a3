import Restyle.Number.Binary64
import Restyle.Number.Shortest

/-!
How sure a finding is, in ten-thousandths.
-/
namespace Restyle

open Number

structure Confidence where
  tenThousandths : Nat
  deriving DecidableEq, Repr

namespace Confidence

instance : LT Confidence := ⟨fun a b => a.tenThousandths < b.tenThousandths⟩
instance : LE Confidence := ⟨fun a b => a.tenThousandths ≤ b.tenThousandths⟩
instance (a b : Confidence) : Decidable (a < b) :=
  inferInstanceAs (Decidable (a.tenThousandths < b.tenThousandths))
instance (a b : Confidence) : Decidable (a ≤ b) :=
  inferInstanceAs (Decidable (a.tenThousandths ≤ b.tenThousandths))

/-- A sum of weights in tenths, which counts for no more than certainty. -/
def ofTenths (n : Nat) : Confidence := ⟨1000 * min n 10⟩

/-- Rounded to ten-thousandths, a half to the even one. -/
def ofRat (q : Rat) : Confidence := ⟨(roundHalfEven (q * 10000)).toNat⟩

/-- The binary number that stands for the confidence in output. -/
def toBinary (c : Confidence) : Binary64 := Binary64.ofRat ((c.tenThousandths : Rat) / 10000)

/-- A non-negative number with a fixed count of decimal places, a half going to the even digit. -/
def fixed (places : Nat) (q : Rat) : String :=
  let n := (roundHalfEven (q * (10 : Rat) ^ places)).toNat
  let ds := decimalDigits n
  let ds := List.replicate (places + 1 - ds.length) '0' ++ ds
  let whole := ds.take (ds.length - places)
  String.ofList (if places = 0 then whole else whole ++ '.' :: ds.drop (ds.length - places))

def fourPlaces (c : Confidence) : String := fixed 4 ((c.tenThousandths : Rat) / 10000)

def twoPlaces (c : Confidence) : String := fixed 2 (c.toBinary.toRat?.getD 0)

def percent (c : Confidence) : String :=
  fixed 0 (((c.toBinary.mul (.finite 100)).toRat?).getD 0) ++ "%"

theorem ofTenths_le_one (n : Nat) : ofTenths n ≤ ⟨10000⟩ := by
  show 1000 * min n 10 ≤ 10000
  omega

end Confidence

end Restyle
