import Restyle.Value.Display
import Restyle.Text.Search
import Restyle.Number.Reading

/-!
Values as JSON text. Output is ASCII; input may hold the numbers `NaN`, `Infinity` and `-Infinity`.
Halves of pairs of units are read and written as they are held in texts.
-/
namespace Restyle.Value

open Restyle.Number Restyle.Text

def hexDigit (n : Nat) : Char := "0123456789abcdef".toList.getD n '0'

def hex4 (n : Nat) : List Char :=
  [hexDigit (n / 4096 % 16), hexDigit (n / 256 % 16), hexDigit (n / 16 % 16), hexDigit (n % 16)]

/-- What stands for a code point between quotes: visible ASCII as itself, all else escaped, and one
beyond the first plane as two escapes. -/
def escapeCode (n : Nat) : List Char :=
  match Char.ofNat n with
  | '"' => ['\\', '"']
  | '\\' => ['\\', '\\']
  | '\n' => ['\\', 'n']
  | '\r' => ['\\', 'r']
  | '\t' => ['\\', 't']
  | '\x0c' => ['\\', 'f']
  | '\x08' => ['\\', 'b']
  | c => if 32 ≤ n ∧ n < 127 then [c] else (unitsOf n).flatMap fun n => '\\' :: 'u' :: hex4 n

def quote (s : String) : List Char := '"' :: (codes s.toList).flatMap escapeCode ++ ['"']

def intText (n : Int) : List Char :=
  if n < 0 then '-' :: decimalDigits n.natAbs else decimalDigits n.natAbs

def realText : Binary64 → List Char
  | .infinite n => if n then "-Infinity".toList else "Infinity".toList
  | .nan => "NaN".toList
  | x => x.text.toList

/-- What stands before the first part of a list or a table, between two of them and after the last,
given how deep the list or table lies. -/
structure Layout where
  before : Nat → List Char
  between : Nat → List Char
  after : Nat → List Char

/-- All in one line. -/
def Layout.flat : Layout := ⟨fun _ => [], fun _ => ", ".toList, fun _ => []⟩

/-- Each part on its own line, two spaces further in than what holds it. -/
def Layout.indented : Layout :=
  let line (n : Nat) : List Char := '\n' :: List.replicate (2 * n) ' '
  ⟨fun n => line (n + 1), fun n => ',' :: line (n + 1), line⟩

mutual

def write (l : Layout) (depth : Nat) : Value → List Char
  | null => "null".toList
  | bool b => if b then "true".toList else "false".toList
  | int n => intText n
  | real x => realText x
  | str s => quote s
  | moment m => quote (moment m).display
  | list [] => "[]".toList
  | list (v :: vs) =>
    '[' :: l.before depth ++ write l (depth + 1) v ++ writeItems l depth vs ++
      l.after depth ++ [']']
  | tableOf _ [] => ['{', '}']
  | tableOf _ ((k, v) :: fs) =>
    '{' :: l.before depth ++ quote k ++ ':' :: ' ' :: write l (depth + 1) v ++
      writeFields l depth fs ++ l.after depth ++ ['}']

def writeItems (l : Layout) (depth : Nat) : List Value → List Char
  | [] => []
  | v :: vs => l.between depth ++ write l (depth + 1) v ++ writeItems l depth vs

def writeFields (l : Layout) (depth : Nat) : List (String × Value) → List Char
  | [] => []
  | (k, v) :: fs =>
    l.between depth ++ quote k ++ ':' :: ' ' :: write l (depth + 1) v ++ writeFields l depth fs

end

/-- The value on one line. -/
def toLine (v : Value) : String := String.ofList (write .flat 0 v)

/-- The value with one part on a line. -/
def toLines (v : Value) : String := String.ofList (write .indented 0 v)

/-! ### Order -/

/-- Whether the one sequence comes before the other or is the same. -/
def codesLe : List Nat → List Nat → Bool
  | [], _ => true
  | _ :: _, [] => false
  | a :: s, b :: t => decide (a < b) || (a == b && codesLe s t)

/-- The order of names by their code points. -/
def nameLe (a b : String) : Bool := codesLe (codes a.toList) (codes b.toList)

mutual

/-- The value with the fields of every table in the order of their names. -/
def sorted : Value → Value
  | list items => list (sortedItems items)
  | tableOf form fields =>
    tableOf form ((sortedFields fields).mergeSort fun a b => nameLe a.1 b.1)
  | v => v

def sortedItems : List Value → List Value
  | [] => []
  | v :: rest => sorted v :: sortedItems rest

def sortedFields : List (String × Value) → List (String × Value)
  | [] => []
  | (k, v) :: rest => (k, sorted v) :: sortedFields rest

end

/-! ### Reading -/

def skipJsonBlanks (s : List Char) : List Char :=
  s.dropWhile fun c => c == ' ' || c == '\t' || c == '\n' || c == '\r'

def readHex4 : List Char → Option (Nat × List Char)
  | a :: b :: c :: d :: rest => do
    let a ← hexValue? a
    let b ← hexValue? b
    let c ← hexValue? c
    let d ← hexValue? d
    some (((a * 16 + b) * 16 + c) * 16 + d, rest)
  | _ => none

/-- The code point of an escape after `\u`; two escapes that form a pair are one. A half of a pair
may stand alone. -/
def readUnicode (s : List Char) : Option (Nat × List Char) :=
  match readHex4 s with
  | none => none
  | some (n, rest) =>
    if 0xD800 ≤ n ∧ n < 0xDC00 then
      match rest with
      | '\\' :: 'u' :: more =>
        match readHex4 more with
        | some (m, rest') =>
          if 0xDC00 ≤ m ∧ m < 0xE000 then
            some (0x10000 + (n - 0xD800) * 1024 + (m - 0xDC00), rest')
          else some (n, rest)
        | none => some (n, rest)
      | _ => some (n, rest)
    else some (n, rest)

def unescape? : Char → Option Char
  | '"' => some '"'
  | '\\' => some '\\'
  | '/' => some '/'
  | 'b' => some '\x08'
  | 'f' => some '\x0c'
  | 'n' => some '\n'
  | 'r' => some '\r'
  | 't' => some '\t'
  | _ => none

/-- The text up to the closing quote, its characters collected in reverse. -/
def readString (fuel : Nat) (acc : List Char) (s : List Char) : Option (String × List Char) :=
  match fuel with
  | 0 => none
  | fuel + 1 =>
    match s with
    | [] => none
    | '"' :: rest => some (String.ofList acc.reverse, rest)
    | '\\' :: 'u' :: rest =>
      match readUnicode rest with
      | some (n, rest') => readString fuel ((ofCode n).reverse ++ acc) rest'
      | none => none
    | '\\' :: e :: rest =>
      match unescape? e with
      | some c => readString fuel (c :: acc) rest
      | none => none
    | c :: rest => if c.toNat < 32 ∨ c = '\\' then none else readString fuel (c :: acc) rest

def digitsValue (ds : List Char) : Nat :=
  ds.foldl (fun n c => n * 10 + (c.toNat - '0'.toNat)) 0

/-- The longest run of digits at the start, and the rest. -/
def takeDigits (s : List Char) : List Char × List Char := s.span Char.isDigit

/-- A fraction: a point and at least one digit. -/
def readFraction (s : List Char) : List Char × List Char :=
  match s with
  | '.' :: rest =>
    match takeDigits rest with
    | ([], _) => ([], s)
    | (ds, rest') => (ds, rest')
  | _ => ([], s)

/-- A power of ten: `e`, a sign or none, and at least one digit. -/
def readExponent (s : List Char) : Option Int × List Char :=
  match s with
  | e :: rest =>
    if e = 'e' ∨ e = 'E' then
      let (negative, rest') := match rest with
        | '-' :: r => (true, r)
        | '+' :: r => (false, r)
        | r => (false, r)
      match takeDigits rest' with
      | ([], _) => (none, s)
      | (ds, rest'') =>
        (some (if negative then -(digitsValue ds : Int) else digitsValue ds), rest'')
    else (none, s)
  | [] => (none, s)

/-- A number without its sign. A whole number with too many digits is refused. -/
def readUnsigned (negative : Bool) (s : List Char) : Option (Value × List Char) :=
  let (whole, rest) := match s with
    | '0' :: rest => (['0'], rest)
    | _ => takeDigits s
  if whole.isEmpty then none
  else
    let (fraction, rest) := readFraction rest
    let (exponent, rest) := readExponent rest
    if fraction.isEmpty ∧ exponent = none then
      if maxDigits < whole.length then none
      else
        let n : Int := digitsValue whole
        some (int (if negative then -n else n), rest)
    else
      let x := Binary64.ofDecimal (digitsValue (whole ++ fraction))
        (exponent.getD 0 - fraction.length)
      some (real (if negative then x.neg else x), rest)

def readNumber : List Char → Option (Value × List Char)
  | '-' :: rest =>
    match after? "Infinity".toList rest with
    | some r => some (real (.infinite true), r)
    | none => readUnsigned true rest
  | s => readUnsigned false s

def readWord (s : List Char) : Option (Value × List Char) :=
  let word (w : String) (v : Value) : Option (Value × List Char) :=
    (after? w.toList s).map fun rest => (v, rest)
  word "null" null <|> word "true" (bool true) <|> word "false" (bool false) <|>
    word "NaN" (real .nan) <|> word "Infinity" (real (.infinite false))

/-- Why a text is no value. -/
inductive NotJson where
  | malformed
  /-- Lists and tables lie too deep in each other; the last of them is a table or a list. -/
  | tooDeep (table : Bool)
  deriving DecidableEq, Repr

/-- How many lists and tables may lie in each other. The runtime stops at a thousand calls in each
other; this is the room that it leaves below the callers. -/
def maxNesting : Nat := 980

mutual

/-- A value at the start of the text, which no blank precedes. `room` counts the lists and tables
that may still lie in each other. -/
def read (fuel room : Nat) (s : List Char) : Except NotJson (Value × List Char) :=
  match fuel with
  | 0 => .error .malformed
  | fuel + 1 =>
    match s with
    | '"' :: rest =>
      match readString (fuel + 1) [] rest with
      | some (t, r) => .ok (str t, r)
      | none => .error .malformed
    | '[' :: rest =>
      match room with
      | 0 => .error (.tooDeep false)
      | room + 1 =>
        match skipJsonBlanks rest with
        | ']' :: r => .ok (list [], r)
        | r => readItems fuel room [] r
    | '\x7b' :: rest =>
      match room with
      | 0 => .error (.tooDeep true)
      | room + 1 =>
        match skipJsonBlanks rest with
        | '\x7d' :: r => .ok (table [], r)
        | r => readFields fuel room [] r
    | _ =>
      match readWord s <|> readNumber s with
      | some found => .ok found
      | none => .error .malformed

/-- The items of a list from one of them on, the earlier ones collected in reverse. -/
def readItems (fuel room : Nat) (acc : List Value) (s : List Char) :
    Except NotJson (Value × List Char) :=
  match fuel with
  | 0 => .error .malformed
  | fuel + 1 => do
    let (v, rest) ← read fuel room s
    match skipJsonBlanks rest with
    | ']' :: r => return (list (v :: acc).reverse, r)
    | ',' :: r => readItems fuel room (v :: acc) (skipJsonBlanks r)
    | _ => throw .malformed

/-- The fields of a table from one of them on, the earlier ones collected in reverse. -/
def readFields (fuel room : Nat) (acc : List (String × Value)) (s : List Char) :
    Except NotJson (Value × List Char) :=
  match fuel with
  | 0 => .error .malformed
  | fuel + 1 =>
    match s with
    | '"' :: rest =>
      match readString (fuel + 1) [] rest with
      | none => .error .malformed
      | some (k, rest) =>
        match skipJsonBlanks rest with
        | ':' :: rest => do
          let (v, rest) ← read fuel room (skipJsonBlanks rest)
          match skipJsonBlanks rest with
          | '\x7d' :: r => return (table (ofPairs ((k, v) :: acc).reverse), r)
          | ',' :: r => readFields fuel room ((k, v) :: acc) (skipJsonBlanks r)
          | _ => throw .malformed
        | _ => .error .malformed
    | _ => .error .malformed

end

/-- The value that the whole text is, blanks around it apart. -/
def ofJson (s : List Char) : Except NotJson Value := do
  let (v, rest) ← read (2 * s.length + 2) maxNesting (skipJsonBlanks s)
  if (skipJsonBlanks rest).isEmpty then return v else throw .malformed

end Restyle.Value

/-- The text of a key where only texts can be keys. -/
def Restyle.Key.name : Key → String
  | .text s => s
  | .null => "null"
  | .bool b => if b then "true" else "false"
  | .int n => String.ofList (Value.intText n)
  | .real x => String.ofList (Value.realText x)
