import Restyle.Number.Binary64
import Restyle.Text.Blank
import Restyle.Text.Case
import Restyle.Text.DigitTable

/-!
Numbers typed by people. Blanks around a number do not count, digits of every script do, and a
single underscore may stand between two digits.
-/
namespace Restyle.Number

open Restyle.Text

/-- The value of a decimal digit of any script. -/
def digit? (c : Char) : Option Nat :=
  if c.toNat < 0x80 then (if c.isDigit then some (c.toNat - '0'.toNat) else none)
  else (digitRanges.find? fun r => r.1 ≤ c.toNat && c.toNat ≤ r.2).map
    fun r => (c.toNat - r.1) % 10

/-- A run of digits with single underscores inside: value, count and rest. `after` tells whether a
digit comes right before. -/
def readDigits (value count : Nat) (after : Bool) : List Char → Nat × Nat × List Char
  | [] => (value, count, [])
  | c :: rest =>
    match digit? c with
    | some d => readDigits (value * 10 + d) (count + 1) true rest
    | none =>
      match c, after, rest with
      | '_', true, c' :: _ =>
        if (digit? c').isSome then readDigits value count false rest else (value, count, c :: rest)
      | _, _, _ => (value, count, c :: rest)

/-- Splits a sign off; `true` is minus. -/
def readSign : List Char → Bool × List Char
  | '-' :: rest => (true, rest)
  | '+' :: rest => (false, rest)
  | s => (false, s)

/-- Blanks that may stand around a number. The four separators are none of them. -/
def isPadding (c : Char) : Bool := isBlank c && !('\x1c' ≤ c && c ≤ '\x1f')

def unpadded (s : List Char) : List Char :=
  ((s.dropWhile isPadding).reverse.dropWhile isPadding).reverse

/-- How many digits a whole number may have. -/
def maxDigits : Nat := 4300

/-- Why a text is no whole number. -/
inductive NotWhole where
  | malformed
  | tooLong (digits : Nat)
  deriving DecidableEq, Repr

/-- Reads a whole number. Digits that are too many are refused before what follows them is looked
at, an underscore in the wrong place apart. -/
def readWhole (s : List Char) : Except NotWhole Int :=
  let (negative, rest) := readSign (unpadded s)
  match readDigits 0 0 false rest with
  | (_, 0, _) => .error .malformed
  | (_, _, '_' :: _) => .error .malformed
  | (n, count, rest) =>
    if maxDigits < count then .error (.tooLong count)
    else if rest.isEmpty then .ok (if negative then -n else n)
    else .error .malformed

def readInt? (s : List Char) : Option Int := (readWhole s).toOption

/-- The value of a digit of base sixteen. -/
def hexValue? (c : Char) : Option Nat :=
  if '0' ≤ c ∧ c ≤ '9' then some (c.toNat - '0'.toNat)
  else if 'a' ≤ c ∧ c ≤ 'f' then some (c.toNat - 'a'.toNat + 10)
  else if 'A' ≤ c ∧ c ≤ 'F' then some (c.toNat - 'A'.toNat + 10)
  else none

/-- The number that the digits `digit` of a base give, if there is one at least. -/
def inBase? (base : Nat) (digit : Char → Option Nat) (ds : List Char) : Option Nat :=
  if ds.isEmpty then none
  else ds.foldl (fun n c => n.bind fun n => (digit c).bind fun d =>
    if d < base then some (n * base + d) else none) (some 0)

/-- The base that a letter behind a zero stands for. -/
def base? (c : Char) : Option Nat :=
  match c.toLower with
  | 'x' => some 16
  | 'o' => some 8
  | 'b' => some 2
  | _ => none

/-- Reads a whole number without underscores. It may name its base; if it does not, it has no zeros
in front, except that zero may be any number of them. -/
def readBased? (s : List Char) : Option Int :=
  let (negative, ds) := readSign (unpadded s)
  let decimal? : Option Nat := if maxDigits < ds.length then none else inBase? 10 digit? ds
  let n? : Option Nat :=
    match ds with
    | z :: b :: more =>
      if digit? z = some 0 then
        match base? b with
        | some base => inBase? base (fun c => digit? c <|> hexValue? c) more
        | none => decimal?.filter (· = 0)
      else decimal?
    | _ => decimal?
  n?.map fun n => if negative then -(n : Int) else n

/-- What may follow the digits of a number: nothing, or an exponent. -/
def readPower? : List Char → Option Int
  | [] => some 0
  | e :: rest =>
    if e == 'e' || e == 'E' then
      let (negative, rest) := readSign rest
      match readDigits 0 0 false rest with
      | (n, count, []) => if count = 0 then none else some (if negative then -n else n)
      | _ => none
    else none

/-- A decimal number without its sign. -/
def readUnsignedReal? (s : List Char) : Option Binary64 :=
  let (whole, count, rest) := readDigits 0 0 false s
  match rest with
  | '.' :: rest =>
    let (digits, places, rest) := readDigits whole 0 false rest
    if count + places = 0 then none
    else (readPower? rest).map fun e => Binary64.ofDecimal digits (e - places)
  | _ => if count = 0 then none else (readPower? rest).map fun e => Binary64.ofDecimal whole e

def readReal? (s : List Char) : Option Binary64 :=
  let (negative, rest) := readSign (unpadded s)
  let word := String.ofList (rest.map Char.toLower)
  let x? :=
    if word = "inf" ∨ word = "infinity" then some (.infinite false)
    else if word = "nan" then some .nan
    else readUnsignedReal? rest
  x?.map fun x => if negative then x.neg else x

end Restyle.Number
