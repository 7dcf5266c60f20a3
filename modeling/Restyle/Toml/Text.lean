import Restyle.Text.Search
import Restyle.Text.Units
import Restyle.Number.Reading
import Restyle.Toml.Layout

/-!
Texts in quotes. Between double quotes a backslash begins an escape; single quotes take all as it
stands.
-/
namespace Restyle.Toml

open Number Text

/-- The character that an escape of one letter stands for. -/
def escaped? : Char → Option Char
  | '0' => some '\x00'
  | 'b' => some '\x08'
  | 'f' => some '\x0c'
  | 'n' => some '\n'
  | 'r' => some '\r'
  | 't' => some '\t'
  | '"' => some '"'
  | _ => none

def isHexLetter (c : Char) : Bool := c == 'u' || c == 'U'

/-- Whether each backslash begins an escape or is one half of a pair. -/
def escapesExist : List Char → Bool
  | '\\' :: c :: rest =>
    (c == '\\' || isHexLetter c || (escaped? c).isSome) && escapesExist rest
  | _ :: rest => escapesExist rest
  | [] => true

/-- The text without its escapes. Those by number stay. -/
def unescape : List Char → Except Defect (List Char)
  | '\\' :: c :: rest => do
    let more ← unescape rest
    if c == '\\' then return '\\' :: more
    if isHexLetter c then return '\\' :: c :: more
    match escaped? c with
    | some c => return c :: more
    | none => throw .malformed
  | c :: rest => (unescape rest).map (c :: ·)
  | [] => .ok []

/-- The largest number that can be asked for as a character at all. -/
def maxAsked : Nat := 0x7fffffff

/-- The code point with a number of up to `width` digits of base sixteen at the start of the text. -/
def readByNumber (width : Nat) (s : List Char) : Except Defect (List Char) := do
  let ds := s.take width
  match ds with
  | [] => throw .cutOff
  | d :: rest =>
    let some n := inBase? 16 hexValue? ds | throw .malformed
    if d == 'd' || d == 'D' then
      match rest with
      | [] => throw .cutOff
      | e :: _ => if (hexValue? e).any (8 ≤ ·) then throw .malformed
    if maxAsked < n then throw .tooLarge
    if 0x110000 ≤ n then throw .malformed
    return ofCode n ++ s.drop width

/-- Joins the pieces between escapes by number. An escape with an odd number of backslashes before
it stays, but no backslash counts for the escape that follows one that was read. -/
def joinByNumber (letter : Char) (width : Nat) (stays : Bool) :
    List (List Char) → Except Defect (List Char)
  | [] => .ok []
  | piece :: rest =>
    if stays then
      return '\\' :: letter :: piece ++
        (← joinByNumber letter width (oddSlashes piece.reverse) rest)
    else return (← readByNumber width piece) ++ (← joinByNumber letter width false rest)

def unescapeByNumber (letter : Char) (width : Nat) (s : List Char) : Except Defect (List Char) :=
  match pieces ['\\', letter] s with
  | first :: rest => do
    return first ++ (← joinByNumber letter width (oddSlashes first.reverse) rest)
  | [] => .ok []

/-- Whether nothing stands behind the quotes that close a text, given its pieces between quotes. A
piece that ends in an odd number of backslashes does not count. In a long text only what stands
behind two quotes or more that have nothing between them closes it. -/
def endsClosed (long : Bool) (gaps : Nat) (closed : Bool) : List (List Char) → Bool
  | [] => true
  | [] :: rest => endsClosed long (gaps + 1) (closed || !long) rest
  | piece :: rest =>
    if oddSlashes piece.reverse then endsClosed long gaps closed rest
    else if closed then false
    else if !long || 1 < gaps then endsClosed long gaps true rest
    else endsClosed long 0 false rest

def isClosedText (q : Char) (inside : List Char) : Bool :=
  match inside.splitOn q with
  | [] :: [] :: rest => endsClosed true 0 false rest
  | ps => endsClosed false 0 false ps

/-- The inside of a text with its quotes, one or three on each side. -/
def inside (q : Char) (s : List Char) : List Char :=
  let long := match s.drop 1 with
    | [c] => c == q
    | c :: c' :: _ => c == q && c' == q
    | [] => false
  ((if long then ((s.drop 2).dropLast).dropLast else s).drop 1).dropLast

/-- A text, given with its quotes. -/
def readText (q : Char) (s : List Char) : Except Defect (List Char) := do
  if !isClosedText q (s.drop 1) then throw .malformed
  if q == '"' then
    if !escapesExist s then throw .malformed
    let s ← unescapeByNumber 'u' 4 s
    let s ← unescapeByNumber 'U' 8 s
    return inside q (← unescape s)
  return inside q s

end Restyle.Toml
