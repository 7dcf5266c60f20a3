import Restyle.Number.Binary64

/-!
The fewest decimal digits that still name a number of 53 significant bits, and its text with them.
-/
namespace Restyle.Number

/-- The largest `k` with `10 ^ k ≤ q`, for a positive `q`. -/
def floorLog10 (q : Rat) : Int :=
  let k : Int := (Nat.toDigits 10 q.num.natAbs).length - (Nat.toDigits 10 q.den).length
  if q < 10 ^ k then k - 1 else k

/-- The least significand of 53 bits. Below a number with it the numbers lie twice as close. -/
def leastFull : Int := 4503599627370496

/-- Whether `x` rounds to the positive number `q`: it lies between the middles to both neighbours,
which count when the last bit of `q` is zero. -/
def roundsTo (q x : Rat) : Bool :=
  let e := lastPlace q
  let m := (q / 2 ^ e).num
  let up : Rat := 2 ^ (e - 1)
  let down : Rat := if m = leastFull ∧ -1074 < e then 2 ^ (e - 2) else up
  if m % 2 = 0 then q - down ≤ x && x ≤ q + up else q - down < x && x < q + up

/-- The better neighbour of `q` on the grid of multiples of `10 ^ p`, if one of the two names `q`. -/
def onGrid (q : Rat) (p : Int) : Option Nat :=
  let s := q / 10 ^ p
  let lo := s.floor
  let hit (n : Int) : Bool := roundsTo q (n * 10 ^ p)
  match hit lo, hit (lo + 1) with
  | true, true => some (roundHalfEven s).toNat
  | true, false => some lo.toNat
  | false, true => some (lo + 1).toNat
  | false, false => none

/-- Digits and power of ten of the shortest name of the positive number `q`, trying `n` more grids;
the last grid of seventeen digits always has a name. -/
def shortestFrom (q : Rat) (p : Int) : Nat → Nat × Int
  | 0 => ((roundHalfEven (q / 10 ^ p)).toNat, p)
  | n + 1 =>
    match onGrid q p with
    | some d => (d, p)
    | none => shortestFrom q (p - 1) n

def shortest (q : Rat) : Nat × Int := shortestFrom q (floorLog10 q) 16

/-- Moves the zeros at the end of the digits into the power of ten. -/
def stripZeros : Nat → Nat → Int → Nat × Int
  | 0, d, p => (d, p)
  | fuel + 1, d, p => if d ≠ 0 ∧ d % 10 = 0 then stripZeros fuel (d / 10) (p + 1) else (d, p)

def decimalDigits (n : Nat) : List Char := Nat.toDigits 10 n

/-- The text of a positive number: positional from a ten-thousandth up to sixteen digits before the
point, with an exponent of at least two digits elsewhere. -/
def positiveText (q : Rat) : List Char :=
  let (d, p) := shortest q
  let (d, p) := stripZeros 20 d p
  let ds := decimalDigits d
  let point : Int := ds.length + p
  if -4 < point ∧ point ≤ 16 then
    if point ≤ 0 then "0.".toList ++ List.replicate (-point).toNat '0' ++ ds
    else if ds.length ≤ point then
      ds ++ List.replicate (point.toNat - ds.length) '0' ++ ".0".toList
    else ds.take point.toNat ++ '.' :: ds.drop point.toNat
  else
    let e := point - 1
    let es := decimalDigits e.natAbs
    let fraction := match ds with
      | d :: rest@(_ :: _) => d :: '.' :: rest
      | _ => ds
    fraction ++ 'e' :: (if e < 0 then '-' else '+') :: (if es.length < 2 then '0' :: es else es)

namespace Binary64

/-- The shortest text that reads back as the number. -/
def text : Binary64 → String
  | finite q =>
    if q = 0 then "0.0"
    else String.ofList (if q < 0 then '-' :: positiveText (-q) else positiveText q)
  | negativeZero => "-0.0"
  | infinite n => if n then "-inf" else "inf"
  | nan => "nan"

end Binary64

end Restyle.Number
