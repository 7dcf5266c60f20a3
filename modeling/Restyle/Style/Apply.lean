import Restyle.Markup.Selector
import Restyle.Style.Attribute
import Restyle.Style.ClassName

/-!
Changing source so that an element has the requested style: its `style` attribute gets the
declarations, or its class attribute gets the class that a stylesheet declares.
-/
namespace Restyle.Style

open Text Markup

/-- The two ways to change the style of an element. -/
inductive Method where
  | inline | byClass
  deriving DecidableEq, Repr

def Method.name : Method → String
  | inline => "inline-style"
  | byClass => "css-class"

def maxInlineDeclarations : Nat := 3

/-- Signs that a project styles its elements in another way. -/
def stylingMarkers : List String :=
  ["styled-components", "@emotion", ".module.css", ".module.scss"]

/-- Few declarations go inline, unless the file shows one of the signs. -/
def chooseMethod (content : List Char) (ds : Declarations) : Method :=
  if ds.length ≤ maxInlineDeclarations &&
      !stylingMarkers.any fun m => occursIn m.toList content then .inline
  else .byClass

/-- The element of a change in a file: the lines, and where on which of them it opens. -/
structure Place where
  lines : List (List Char)
  row : Nat
  start : Nat
  tag : List Char
  deriving DecidableEq, Repr

/-- The index of a line counted from one. -/
def rowOf (line : Int) (count : Nat) : Except Problem Nat :=
  if 1 ≤ line ∧ line ≤ count then .ok (line - 1).toNat else .error (.lineOutOfRange line count)

def faulty {α : Type} : Except Fault α → Except Problem α
  | .ok a => .ok a
  | .error f => .error (.fault f)

def locate (content : List Char) (c : Change) (line : Int) : Except Problem Place := do
  let ls := lines content
  let row ← rowOf line ls.length
  let target ← faulty c.target
  match target.find (ls.getD row []) with
  | some start => return { lines := ls, row, start, tag := target.tag }
  | none => throw (.elementNotFound (String.ofList target.tag) line)

/-- The line with the text from `first` up to `stop` replaced. -/
def splice (line : List Char) (first stop : Nat) (new : List Char) : List Char :=
  line.take first ++ new ++ line.drop stop

def styleAttribute (entries : Entries) : List Char := "style=".toList ++ writeObject entries

/-- What a stretch of the tag says about the attribute that is to change. -/
inductive Finding where
  /-- The attribute is elsewhere. -/
  | absent
  /-- The new text of the line. -/
  | changed (line : List Char)
  | refused (problem : Problem)
  deriving DecidableEq, Repr

/-- The first finding in the stretches, with the row it is on. -/
def firstFinding (find : Span → Finding) : List Span → Option (Nat × Finding)
  | [] => none
  | s :: rest =>
    match find s with
    | .absent => firstFinding find rest
    | f => some (s.row, f)

/-- The style attribute in a stretch, with the new entries put over its own. -/
def mergeStyle (ls : List (List Char)) (new : Entries) (s : Span) : Finding :=
  let line := ls.getD s.row []
  match firstIn styleObjectAt line s.first s.stop with
  | some (n, body, length) =>
    .changed (splice line n (n + length) (styleAttribute (merge (readEntries body) new)))
  | none =>
    if (firstIn styleNameAt line s.first s.stop).isSome then
      .refused (.styleNotChangeable (s.row + 1))
    else .absent

/-- The text of a class attribute with one more class, unless it has the class. -/
def addClassWord (value name : List Char) : List Char :=
  if (words value).contains name then value
  else if (trim value).isEmpty then name
  else value ++ ' ' :: name

/-- An expression for classes with one more class behind it. -/
def addClassToExpression (expr name : List Char) : List Char :=
  "className=\x7b\x60$\x7b".toList ++ expr ++ "\x7d ".toList ++ name ++ "\x60\x7d".toList

/-- The class attribute in a stretch, with the class added. -/
def attachClass (ls : List (List Char)) (name : List Char) (s : Span) : Finding :=
  let line := ls.getD s.row []
  match firstIn classTextAt line s.first s.stop with
  | some (n, value, offset) =>
    .changed
      (splice line (n + offset) (n + offset + value.length) (addClassWord value name))
  | none =>
    match firstIn classExpressionAt line s.first s.stop with
    | some (n, offset) =>
      match closingAt '\x7d' line (n + offset) with
      | none => .refused (.classNotChangeable (s.row + 1))
      | some close =>
        let expr := trim ((line.take close).drop (n + offset + 1))
        if occursIn name expr then .changed line
        else .changed (splice line n (close + 1) (addClassToExpression expr name))
    | none => .absent

/-- Applies a finding to the lines, or inserts the attribute where nothing was found. -/
def edit (p : Place) (find : Span → Finding) (text : List Char) : Except Problem (List Char) :=
  match firstFinding find (tagSpans p.lines p.row p.start) with
  | some (_, .refused problem) => .error problem
  | some (row, .changed line) => .ok (unlines (p.lines.set row line))
  | _ =>
    let line := p.lines.getD p.row []
    .ok (unlines (p.lines.set p.row (insertAttribute line p.start p.tag.length text)))

/-- The content with the declarations in the style attribute of the element. -/
def applyInline (content : List Char) (c : Change) (line : Int) : Except Problem (List Char) := do
  let place ← locate content c line
  let new ← faulty (entriesOf c.styles)
  edit place (mergeStyle place.lines new) (styleAttribute new)

/-- The content with the class attached to the element. -/
def applyClass (content : List Char) (c : Change) (line : Int) (name : List Char) :
    Except Problem (List Char) := do
  let place ← locate content c line
  edit place (attachClass place.lines name) ("className=\"".toList ++ name ++ ['"'])

end Restyle.Style
