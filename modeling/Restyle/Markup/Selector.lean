import Restyle.Markup.Score
import Restyle.Style.Change

/-!
Finding the element of a change on its line: the opening of the tag, behind which an `id` attribute
and a class attribute stand where the change asks for them, in any order.
-/
namespace Restyle.Markup

open Text

/-- What the element must have. An absent id and an empty list of classes ask for nothing; of
several classes one is enough. -/
structure Selector where
  tag : List Char
  id : Option (List Char)
  classes : List (List Char)
  deriving DecidableEq, Repr

/-- Whether `test` holds at a place that attributes can reach from here: up to the first `>` that
does not belong to an arrow `=>` read from here on. -/
def reaches (test : Option Char → List Char → Bool) (prev : Option Char) (arrow : Bool) :
    List Char → Bool
  | [] => test prev []
  | c :: rest =>
    test prev (c :: rest) || ((c != '>' || arrow) && reaches test (some c) (c == '=') rest)

/-- What follows a quote behind an attribute's name. -/
def quotedValue? (s : List Char) : Option (List Char) := (openingQuote? s).map (·.2)

/-- Whether an `id` attribute with this value stands at this place. Any quote may close it. -/
def hasIdAt (id : List Char) (prev : Option Char) (s : List Char) : Bool :=
  nameMayFollow idSigns prev &&
    match afterFold? "id".toList s with
    | none => false
    | some rest =>
      match quotedValue? rest with
      | none => false
      | some value =>
        match afterFold? id value with
        | some (c :: _) => isQuote c
        | _ => false

/-- Whether a character may stand beside a class: it is not part of a class name. -/
def besideClass : Option Char → Bool
  | none => true
  | some c => !(isWord c || c == '-')

/-- Whether one of the classes stands in the text before the next quote. -/
def hasClassIn (classes : List (List Char)) (prev : Option Char) (s : List Char) : Bool :=
  let here := besideClass prev && classes.any fun c =>
    match afterFold? c s with
    | some rest => besideClass rest.head?
    | none => false
  here || match s with
    | [] => false
    | c :: rest => !isQuote c && hasClassIn classes (some c) rest

/-- Whether a class attribute with one of the classes stands at this place. -/
def hasClassAt (classes : List (List Char)) (prev : Option Char) (s : List Char) : Bool :=
  besideClass prev && ["className", "class"].any fun name =>
    match afterFold? name.toList s with
    | none => false
    | some rest =>
      match openingQuote? rest with
      | none => false
      | some (q, value) => hasClassIn classes (some q) value

/-- Whether the element opens at this place. -/
def Selector.opensAt (sel : Selector) (s : List Char) : Bool :=
  match tagAt sel.tag s with
  | none => false
  | some rest =>
    let prev := (s.take (s.length - rest.length)).getLast?
    (match sel.id with
      | none => true
      | some id => reaches (hasIdAt id) prev false rest) &&
    (sel.classes.isEmpty || reaches (hasClassAt sel.classes) prev false rest)

/-- Where the element first opens on the line. -/
def Selector.find (sel : Selector) (line : List Char) : Option Nat :=
  (firstHit (fun _ s => if sel.opensAt s then some () else none) none 0 line).map (·.1)

end Restyle.Markup

namespace Restyle.Change

/-- The tag that is meant when the change names none. -/
def defaultTag : String := "div"

/-- The tag, or the default one. -/
def tagText (c : Change) : Except Fault String :=
  if c.tag.isTruthy then
    match c.tag with
    | .str s => .ok s
    | v => .error (.notText v.kind)
  else .ok defaultTag

/-- The element that the change is about, if its fields are texts. -/
def target (c : Change) : Except Fault Markup.Selector := do
  let tag ← c.tagText
  let id ← Capture.textField c.id (.notText c.id.kind)
  let classes ← Capture.textField c.classes (.noMember c.classes.kind "split")
  return {
    tag := tag.toList
    id := (id.filter (!·.isEmpty)).map String.toList
    classes := Text.words (classes.getD "").toList }

end Restyle.Change
