import Restyle.Markup.Scan
import Restyle.Style.Object

/-!
The style and class attributes of a tag, looked for in a stretch of a line. What stands before the
stretch is seen, what stands behind it is not.
-/
namespace Restyle.Style

open Text Markup

/-- Whether an attribute name may start behind this character. -/
def nameStarts (prev : Option Char) : Bool := nameMayFollow ['-'] prev

/-- The first place in the stretch, counted from the start of the line, where `test` holds. -/
def firstIn {α : Type} (test : Option Char → List Char → Option α) (line : List Char)
    (first stop : Nat) : Option (Nat × α) :=
  let before := (line.take first).getLast?
  firstHit test before first ((line.take stop).drop first)

/-- The text before the next pair of closing braces on the line, and what follows the pair. -/
def untilBraces : List Char → Option (List Char × List Char)
  | [] => none
  | c :: rest =>
    match c, rest with
    | '\x7d', '\x7d' :: r => some ([], r)
    | _, _ =>
      if c == '\n' then none else (untilBraces rest).map fun (v, r) => (c :: v, r)

/-- A `style` attribute with an object: the text between its braces and the attribute's length. -/
def styleObjectAt (prev : Option Char) (s : List Char) : Option (List Char × Nat) :=
  if nameStarts prev then
    match (after? "style".toList s).bind afterEquals? with
    | some ('\x7b' :: '\x7b' :: rest) =>
      (untilBraces rest).map fun (body, r) => (body, s.length - r.length)
    | _ => none
  else none

/-- The name `style` with an equals sign. -/
def styleNameAt (prev : Option Char) (s : List Char) : Option Unit :=
  if nameStarts prev && ((after? "style".toList s).bind afterEquals?).isSome then some () else none

/-- What follows the name of a class attribute at this place. -/
def afterClassName? (s : List Char) : Option (List Char) :=
  after? "className".toList s <|> after? "class".toList s

/-- A class attribute with a text in quotes: the text, and how far on it starts. -/
def classTextAt (prev : Option Char) (s : List Char) : Option (List Char × Nat) :=
  if nameStarts prev then
    match (afterClassName? s).bind openingQuote? with
    | some (q, rest) =>
      (untilQuote? q rest).map fun (value, _) => (value, s.length - rest.length)
    | none => none
  else none

/-- A `className` attribute with an expression: how far on its brace is. -/
def classExpressionAt (prev : Option Char) (s : List Char) : Option Nat :=
  if nameStarts prev then
    match (after? "className".toList s).bind afterEquals? with
    | some rest@('\x7b' :: _) => some (s.length - rest.length)
    | _ => none
  else none

/-- Puts an attribute into the tag that opens at `start`: before its end, or right behind its name
if it does not end on this line. -/
def insertAttribute (line : List Char) (start tagLength : Nat) (text : List Char) : List Char :=
  match tagEnd line start with
  | none =>
    let n := start + 1 + tagLength
    line.take n ++ ' ' :: text ++ line.drop n
  | some stop =>
    if (line.take stop).getLast? = some '/' then
      trimRight (line.take (stop - 1)) ++ ' ' :: text ++ " />".toList ++ line.drop (stop + 1)
    else trimRight (line.take stop) ++ ' ' :: text ++ line.drop stop

end Restyle.Style
