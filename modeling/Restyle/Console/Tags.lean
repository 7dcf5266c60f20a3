import Restyle.Console.Literal
import Restyle.Console.Marked
import Restyle.Console.SignTable
import Restyle.Console.Style

/-!
Text for the console with style tags in brackets, as in `[red]…[/red]`. Here is what such a text
shows: the tags are gone, a tag behind a backslash stands for itself, and names between colons stand
for signs. A style is set only when the text is shown, so a tag may name one that cannot be set.
The modules for the console stand for a package by others, as far as commands use it.
-/
namespace Restyle.Console

open Text

/-- A stretch of text, or a tag that opens or closes a style. -/
inductive Piece where
  | text (s : List Char)
  /-- What stands behind the equals sign of the tag, if it has one. -/
  | opening (name : List Char) (parameters : Option (List Char))
  | closing (name : List Char)
  deriving DecidableEq, Repr

def startsTag (c : Char) : Bool := ('a' ≤ c && c ≤ 'z') || c == '#' || c == '/' || c == '@'

/-- A tag at this place: what stands between its brackets, and what follows it. -/
def tagAt : List Char → Option (List Char × List Char)
  | '[' :: c :: rest =>
    if startsTag c then
      match rest.span fun c => c != ']' && c != '[' with
      | (body, ']' :: r) => some (c :: body, r)
      | _ => none
    else none
  | _ => none

/-- A tag with the backslashes before it: their number, the tag, and what follows. -/
def escapedTagAt (s : List Char) : Option (Nat × List Char × List Char) :=
  let slashes := (s.takeWhile (· == '\\')).length
  (tagAt (s.drop slashes)).map fun (tag, rest) => (slashes, tag, rest)

/-- The name of a tag is what stands before an equals sign. -/
def ofTag (tag : List Char) : Piece :=
  match tag.span (· != '=') with
  | ('/' :: name, _) => .closing (trim name)
  | (name, []) => .opening name none
  | (name, _ :: parameters) => .opening name (some parameters)

/-- Two backslashes stand for one, and one that is left over keeps the tag from being one. -/
def ofEscapedTag (slashes : Nat) (tag : List Char) : List Piece :=
  let shown := if slashes < 2 then [] else [Piece.text (List.replicate (slashes / 2) '\\')]
  shown ++ [if slashes % 2 = 1 then .text ('[' :: tag ++ [']']) else ofTag tag]

/-- The pieces of a text. The first argument bounds their number. -/
def piecesFrom : Nat → List Char → List Piece
  | 0, s => [.text s]
  | fuel + 1, s =>
    match firstHit (fun _ s => escapedTagAt s) none 0 s with
    | none => [.text s]
    | some (n, slashes, tag, rest) =>
      .text (s.take n) :: ofEscapedTag slashes tag ++ piecesFrom fuel rest

def pieces (s : List Char) : List Piece := piecesFrom s.length s

/-- Bracket and backslash, where they are no tag. -/
def unescape : List Char → List Char
  | '\\' :: '[' :: rest => '[' :: unescape rest
  | c :: rest => c :: unescape rest
  | [] => []

/-- Splits the form of a sign off its name: as text or as a picture. -/
def splitForm (name : List Char) : List Char × List Char :=
  let without (ending : String) (mark : Char) : Option (List Char × List Char) :=
    (after? ending.toList.reverse name.reverse).map fun front => (front.reverse, [mark])
  (without "-emoji" '\uFE0F' <|> without "-text" '\uFE0E').getD (name, [])

/-- The sign that a name between colons stands for. -/
def sign? (name : List Char) : Option (List Char) :=
  let (name, form) := splitForm name
  (signs.lookup (lower name)).map (· ++ form)

/-- Replaces names between two colons by their signs. A colon ends one name only. -/
def withSignsFrom : Nat → List Char → List Char
  | 0, s => s
  | _, [] => []
  | fuel + 1, c :: rest =>
    if c == ':' then
      match rest.span fun c => c != ':' && !isBlank c with
      | (name, ':' :: more) =>
        (sign? name).getD (':' :: name ++ [':']) ++ withSignsFrom fuel more
      | _ => ':' :: withSignsFrom fuel rest
    else c :: withSignsFrom fuel rest

def withSigns (s : List Char) : List Char := withSignsFrom s.length s

/-- Characters that move the cursor and show nothing. -/
def isControl (c : Char) : Bool := ['\x07', '\x08', '\x0b', '\x0c', '\x0d'].contains c

def shownText (s : List Char) : List Char :=
  (withSigns (unescape s)).filter fun c => !isControl c

/-- Why a text shows nothing. -/
inductive TagFault where
  /-- A tag closes what is not open, or what stands behind the name of a handler is no literal. -/
  | badTag
  /-- A part of a colour is empty. -/
  | badColor
  deriving DecidableEq, Repr

/-- The normal form of the name of a tag. -/
def styleOf (name : List Char) : Except TagFault (List Char) :=
  match normalForm name with
  | .ok name => .ok name
  | .error _ => .error .badColor

/-- A tag that is open: where it stands, its name in normal form, and what it has behind it. -/
structure OpenTag where
  start : Nat
  name : List Char
  parameters : Option (List Char)
  deriving DecidableEq, Repr

/-- Takes the tag that was opened last out of those for which `test` holds. -/
def takeOpen (test : OpenTag → Bool) (tags : List OpenTag) : Option (OpenTag × List OpenTag) :=
  (tags.findIdx? test).bind fun n => tags[n]?.map fun tag => (tag, tags.eraseIdx n)

/-- What is given to a handler: what stands in brackets behind its name, or else all of it. -/
def givenTo (parameters : List Char) : List Char :=
  let s := trim parameters
  match s.dropWhile fun c => isWord c || c == '.' with
  | [] => "()".toList
  | '(' :: rest =>
    if rest.getLast? = some ')' ∧ !rest.contains '\n' then '(' :: rest else s
  | _ => s

namespace OpenTag

/-- Whether the tag may be closed. The name of a handler begins with an at sign. -/
def isInOrder (tag : OpenTag) : Bool :=
  tag.name.head? != some '@' ||
    tag.parameters.all fun p => p.isEmpty || isLiteral (givenTo p)

/-- The style that the tag asks for. -/
def style (tag : OpenTag) : List Char :=
  match tag.parameters with
  | none => tag.name
  | some p => tag.name ++ ' ' :: p

/-- Where the style of the tag lies if it cannot be set. A text that is no style sets nothing. -/
def fault? (tag : OpenTag) (stop : Nat) : Option Stretch :=
  match Style.plain.read (words tag.style) with
  | .error .emptyPart => some ⟨tag.start, stop⟩
  | _ => none

end OpenTag

/-- Closes the style that was opened last under a name, or the last one of all. -/
def close (name : List Char) (tags : List OpenTag) :
    Except TagFault (OpenTag × List OpenTag) := do
  let name ← if name.isEmpty then pure none else (styleOf name).map some
  match takeOpen (fun tag => name.all (tag.name = ·)) tags with
  | some (tag, tags) => if tag.isInOrder then return (tag, tags) else throw .badTag
  | none => throw .badTag

/-- What the pieces from a place on show, given the tags that are open there, the last one first. A
tag that is never closed holds up to the end. -/
def markPieces (place : Nat) (tags : List OpenTag) : List Piece → Except TagFault Marked
  | [] => .ok ⟨[], tags.filterMap (·.fault? place)⟩
  | .text s :: rest => do
    let s := shownText s
    let m ← markPieces (place + s.length) tags rest
    return { m with text := s ++ m.text }
  | .opening name parameters :: rest => do
    markPieces place (⟨place, ← styleOf name, parameters⟩ :: tags) rest
  | .closing name :: rest => do
    let (tag, tags) ← close name tags
    let m ← markPieces place tags rest
    return { m with faults := (tag.fault? place).toList ++ m.faults }

/-- Reads the tags of a text. -/
def mark (s : String) : Except TagFault Marked := markPieces 0 [] (pieces s.toList)

theorem markPieces_texts (place : Nat) (ss : List (List Char)) :
    markPieces place [] (ss.map .text) = .ok (.plain (ss.flatMap shownText)) := by
  induction ss generalizing place with
  | nil => rfl
  | cons s rest ih =>
    simp only [List.map_cons, markPieces, ih, List.flatMap_cons]
    rfl

/-- The texts of lines that are shown, if all their styles can be set. -/
def settle (ls : List Marked) : Except TagFault (List (List Char)) :=
  if ls.all (·.faults.isEmpty) then .ok (ls.map (·.text)) else .error .badColor

theorem settle_plain (ss : List (List Char)) : settle (ss.map .plain) = .ok ss := by
  simp [settle, Marked.plain, Function.comp_def]

end Restyle.Console
