/-!
Numbers with 53 significant bits. A finite one is kept as its exact rational value; `nearest` is the
rounding that every operation ends with.
-/
namespace Restyle.Number

/-- The integer nearest to `q`; a half goes to the even neighbour. -/
def roundHalfEven (q : Rat) : Int :=
  let f := q.floor
  let r := q - f
  if r < 1 / 2 then f else if 1 / 2 < r then f + 1 else if f % 2 = 0 then f else f + 1

/-- The largest `k` with `2 ^ k ≤ q`, for a positive `q`. -/
def floorLog2 (q : Rat) : Int :=
  let k : Int := Nat.log2 q.num.natAbs - Nat.log2 q.den
  if q < 2 ^ k then k - 1 else k

/-- The exponent of the last binary place that a number of the size of `q` can have. -/
def lastPlace (q : Rat) : Int := max (floorLog2 q.abs - 52) (-1074)

/-- The number with 53 significant bits that is nearest to `q`, with no bound above. -/
def nearest (q : Rat) : Rat :=
  if q = 0 then 0 else
    let unit : Rat := 2 ^ lastPlace q
    roundHalfEven (q / unit) * unit

inductive Binary64 where
  | finite (value : Rat)
  | negativeZero
  | infinite (negative : Bool)
  | nan
  deriving DecidableEq

namespace Binary64

/-- Rounds to the format; what is 2 ^ 1024 or more after rounding is infinite. -/
def ofRat (q : Rat) : Binary64 :=
  let r := nearest q
  if r.abs < 2 ^ (1024 : Int) then .finite r else .infinite (decide (r < 0))

/-- The exact value of a finite number. -/
def toRat? : Binary64 → Option Rat
  | finite q => some q
  | negativeZero => some 0
  | _ => none

def neg : Binary64 → Binary64
  | finite q => if q = 0 then negativeZero else finite (-q)
  | negativeZero => finite 0
  | infinite n => infinite (!n)
  | nan => nan

/-- The number written with the decimal digits of `digits` and a power of ten. Exponents beyond
all finite numbers are cut before the power is taken. -/
def ofDecimal (digits : Nat) (exponent : Int) : Binary64 :=
  if digits = 0 then finite 0
  else
    let size : Int := (Nat.toDigits 10 digits).length + exponent
    if 400 < size then infinite false
    else if size < -400 then finite 0
    else ofRat (digits * (10 : Rat) ^ exponent)

def isZero (x : Binary64) : Bool := x.toRat? == some 0

def isNegative : Binary64 → Bool
  | finite q => decide (q < 0)
  | negativeZero => true
  | infinite n => n
  | nan => false

def mul (x y : Binary64) : Binary64 :=
  match x.toRat?, y.toRat? with
  | some a, some b => ofRat (a * b)
  | _, _ =>
    if x == nan || y == nan || x.isZero || y.isZero then nan
    else infinite (x.isNegative != y.isNegative)

/-- `none` where one of the two is not a number. -/
def lt? (x y : Binary64) : Option Bool :=
  match x, y with
  | nan, _ => none
  | _, nan => none
  | infinite true, y => some (y != infinite true)
  | infinite false, _ => some false
  | _, infinite n => some (!n)
  | x, y => some (decide (x.toRat?.getD 0 < y.toRat?.getD 0))

end Binary64

end Restyle.Number
