import Restyle.Console.ColorTable
import Restyle.Number.Reading
import Restyle.Text.Case

/-!
Names of styles, such as `b red on blue`, and their normal forms, as the package for the console has
them. Styles of the same effect have the same normal form.
-/
namespace Restyle.Console

open Text Number

/-- What a style can set on or off, in the order of normal forms, with its short name. -/
def attributeNames : List (String × String) :=
  [("bold", "b"), ("dim", "d"), ("italic", "i"), ("underline", "u"), ("blink", ""), ("blink2", ""),
    ("reverse", "r"), ("conceal", "c"), ("strike", "s"), ("underline2", "uu"), ("frame", ""),
    ("encircle", ""), ("overline", "o")]

/-- The full name of an attribute. -/
def attribute? (word : List Char) : Option String :=
  (attributeNames.find? fun (name, short) =>
    word = name.toList ∨ (word ≠ [] ∧ word = short.toList)).map (·.1)

/-- Why a text names no style. -/
inductive NotStyle where
  | unknown
  /-- One of the three parts of a colour is empty. -/
  | emptyPart
  deriving DecidableEq, Repr

/-- A part of a colour is a number below 256. -/
def isPart (s : List Char) : Bool := (readInt? s).any (· ≤ 255)

/-- What stands between `front` and a bracket that closes at the end. -/
def between? (front s : List Char) : Option (List Char) :=
  if front.isPrefixOf s && s.getLast? == some ')' then some ((s.drop front.length).dropLast)
  else none

/-- A colour in small letters: a name, six digits of base sixteen, a number, or three parts. -/
def readColor (word : List Char) : Except NotStyle (List Char) :=
  let word := lower word
  let orUnknown (is : Bool) : Except NotStyle (List Char) := if is then .ok word else .error .unknown
  if colorNames.contains word then .ok word
  else if word.head? = some '#' then
    orUnknown (word.length == 7 && (word.drop 1).all fun c => (hexValue? c).isSome)
  else
    match between? "color(".toList word, between? "rgb(".toList word with
    | some n, _ => orUnknown (!n.isEmpty && n.length ≤ 3 && n.all Char.isDigit && isPart n)
    | none, some parts =>
      let ps := parts.splitOn ','
      if parts.isEmpty || !(parts.all fun c => c == ',' || (digit? c).isSome) || ps.length != 3 then
        .error .unknown
      else if ps.any (·.isEmpty) then .error .emptyPart
      else orUnknown (ps.all isPart)
    | none, none => .error .unknown

structure Style where
  /-- What is set on or off; what was set last counts. -/
  attributes : List (String × Bool)
  color : Option (List Char)
  ground : Option (List Char)
  link : Option (List Char)
  deriving DecidableEq, Repr

namespace Style

def plain : Style := ⟨[], none, none, none⟩

def set (s : Style) (name : String) (on : Bool) : Style :=
  { s with attributes := (name, on) :: s.attributes }

/-- Reads the words of a style. -/
def read (s : Style) : List (List Char) → Except NotStyle Style
  | [] => .ok s
  | [word] =>
    match attribute? (lower word) with
    | some name => .ok (s.set name true)
    | none => (readColor word).map fun c => { s with color := some c }
  | word :: next :: rest =>
    if lower word = "on".toList then do
      read { s with ground := some (← readColor next) } rest
    else if lower word = "not".toList then
      match attribute? next with
      | some name => read (s.set name false) rest
      | none => .error .unknown
    else if lower word = "link".toList then read { s with link := some next } rest
    else
      match attribute? (lower word) with
      | some name => read (s.set name true) (next :: rest)
      | none => do read { s with color := some (← readColor word) } (next :: rest)

/-- The words of the normal form. -/
def normalWords (s : Style) : List (List Char) :=
  (attributeNames.flatMap fun (name, _) =>
    match s.attributes.lookup name with
    | none => []
    | some true => [name.toList]
    | some false => ["not".toList, name.toList]) ++
  s.color.toList ++ (s.ground.toList.flatMap fun c => ["on".toList, c]) ++
  (s.link.toList.flatMap fun l => ["link".toList, l])

end Style

/-- The normal form of a style's name. A name of no style is only trimmed and in small letters. -/
def normalForm (name : List Char) : Except NotStyle (List Char) :=
  let none := "none".toList
  if trim name = none then .ok none
  else
    match Style.plain.read (words name) with
    | .ok s => .ok (if s.normalWords.isEmpty then none else [' '].intercalate s.normalWords)
    | .error .unknown => .ok (lower (trim name))
    | .error .emptyPart => .error .emptyPart

end Restyle.Console
