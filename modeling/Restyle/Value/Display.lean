import Restyle.Value.Basic
import Restyle.Text.PrintableTable
import Restyle.Text.Units
import Restyle.Text.Word

/-!
Values as a reader sees them in tables, names and messages: a text as it is, a list or a table with
its texts in quotes.
-/
namespace Restyle.Value

open Restyle.Number Restyle.Text

def isPrintable (c : Char) : Bool :=
  if c.toNat < 0x80 then 32 ≤ c.toNat && c.toNat < 127
  else !inRanges unprintableRanges c.toNat

def hexPadded (width n : Nat) : List Char :=
  let ds := Nat.toDigits 16 n
  List.replicate (width - ds.length) '0' ++ ds

/-- A code point between the quotes `q`. -/
def quotedCode (q : Char) (n : Nat) : List Char :=
  let c := Char.ofNat n
  if isHalf n then '\\' :: 'u' :: hexPadded 4 n
  else if c == q || c == '\\' then ['\\', c]
  else if c == '\n' then ['\\', 'n']
  else if c == '\r' then ['\\', 'r']
  else if c == '\t' then ['\\', 't']
  else if isPrintable c then [c]
  else if n < 0x100 then '\\' :: 'x' :: hexPadded 2 n
  else if n < 0x10000 then '\\' :: 'u' :: hexPadded 4 n
  else '\\' :: 'U' :: hexPadded 8 n

/-- A text in single quotes, or in double quotes if it has single quotes and no double ones. -/
def quoted (s : String) : List Char :=
  let cs := s.toList
  let q := if cs.contains '\'' && !cs.contains '"' then '"' else '\''
  q :: (codes cs).flatMap (quotedCode q) ++ [q]

mutual

/-- The value inside a list or a table. -/
def nested : Value → List Char
  | null => "None".toList
  | bool b => if b then "True".toList else "False".toList
  | int n => if n < 0 then '-' :: decimalDigits n.natAbs else decimalDigits n.natAbs
  | real x => x.text.toList
  | str s => quoted s
  | moment m => m.nestedText
  | list [] => "[]".toList
  | list (v :: vs) => '[' :: nested v ++ nestedItems vs ++ [']']
  | tableOf _ [] => ['{', '}']
  | tableOf _ ((k, v) :: fs) =>
    '{' :: quoted k ++ ':' :: ' ' :: nested v ++ nestedFields fs ++ ['}']

def nestedItems : List Value → List Char
  | [] => []
  | v :: vs => ',' :: ' ' :: nested v ++ nestedItems vs

def nestedFields : List (String × Value) → List Char
  | [] => []
  | (k, v) :: fs => ',' :: ' ' :: quoted k ++ ':' :: ' ' :: nested v ++ nestedFields fs

end

/-- The text of a value on its own. -/
def display : Value → String
  | str s => s
  | moment m => String.ofList (m.textWith ' ')
  | v => String.ofList (nested v)

end Restyle.Value

/-- The text of a key on its own. -/
def Restyle.Key.display (k : Key) : String := k.toValue.display
