/-!
Numerals with the digits 0 to 9 and a to z, without zeros in front.
-/
namespace Restyle.Number

def digit36 (n : Nat) : Char := "0123456789abcdefghijklmnopqrstuvwxyz".toList.getD n '0'

/-- Puts the digits of a positive `n` in front of `acc`; zero has none. -/
def digits36 (n : Nat) (acc : List Char) : List Char :=
  if h : n = 0 then acc else digits36 (n / 36) (digit36 (n % 36) :: acc)
termination_by n
decreasing_by omega

def base36 (n : Nat) : List Char := if n = 0 then ['0'] else digits36 n []

end Restyle.Number
