import Restyle.Value.Basic
import Restyle.Number.Reading
import Restyle.Text.Search

/-!
Numbers in settings files.
-/
namespace Restyle.Toml

open Number Text

/-- Whether zeros and underscores stand where they may: no zero in front of other digits, and no
underscore at an end, at a point or next to another. -/
def isTidyNumber (s : List Char) : Bool :=
  let n := trim s
  let has (part : String) : Bool := occursIn part.toList n
  match n with
  | [] => false
  | [c] => c != '_'
  | c :: d :: rest =>
    c != '_' && n.getLast? != some '_' && !has "_." && !has "._" && !has "__" &&
      !(c == '0' && !(d == '.' || d == 'o' || d == 'b' || d == 'x')) &&
      !((c == '+' || c == '-') && d == '0' && !rest.isEmpty && rest.head? != some '.')

/-- Zero less the number, so that no zero gets a sign. -/
def negated : Value → Value
  | .int n => .int (-n)
  | .real x => .real (if x.isZero then .finite 0 else x.neg)
  | v => v

/-- A number without its sign and its underscores. One with a point has digits on both sides. -/
def readUnsigned? (s : List Char) : Option Value :=
  let word := s.map Char.toLower
  let behindPoint := (s.dropWhile (· != '.')).drop 1
  if s.contains '.' || (!s.contains 'x' && word.contains 'e') then
    if (s.contains '.' && behindPoint.isEmpty) || !(s.head?.any Char.isDigit) then none
    else (readReal? s).map .real
  else if word = "inf".toList ∨ word = "nan".toList then (readReal? s).map .real
  else (readBased? s).map .int

def readNumber? (s : List Char) : Option Value :=
  let (negative, body) := readSign s
  (readUnsigned? (body.filter (· != '_'))).map fun v => if negative then negated v else v

end Restyle.Toml
