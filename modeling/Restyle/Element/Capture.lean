import Restyle.Element.Descriptor
import Restyle.Value.Reading
import Restyle.Value.Json
import Restyle.Markup.Score

/-!
Elements as a browser reports them: fields of any kind, under either of two spellings. A descriptor
is a capture whose fields are texts.
-/
namespace Restyle

/-- The element that holds the captured one. -/
structure CapturedParent where
  tag : Value
  classes : Value
  id : Value

structure Capture where
  tag : Value
  id : Value
  classes : Value
  text : Value
  attributes : List (Key × Value)
  parent : Option CapturedParent

namespace Capture

/-- The value under the first key, or under the second if the first says nothing. -/
def either (v : Value) (camel snake : String) : Value := (v.get camel).orElse (v.get snake)

def parentOf (v : Value) : Except Fault (Option CapturedParent) :=
  if v.isTruthy then
    match v with
    | .table _ => .ok (some
        { tag := (either v "tagName" "tag_name").orElse (.str "")
          classes := either v "className" "class_name"
          id := v.get "id" })
    | _ => .error (.noMember v.kind "get")
  else .ok none

def ofPayload (v : Value) : Except Fault Capture :=
  match v with
  | .table _ => do
    let attributes ← ((v.get "attributes").orElse (.table [])).toMap
    let parent ← parentOf (either v "parentInfo" "parent_info")
    return {
      tag := (either v "tagName" "tag_name").orElse (.str "")
      id := v.get "id"
      classes := either v "className" "class_name"
      text := either v "textContent" "text_content"
      attributes
      parent }
  | _ => .error (.noMember v.kind "get")

/-- A capture with the fields of a descriptor. -/
def ofDescriptor (d : Descriptor) : Capture :=
  let field (s : Option String) : Value := match s with
    | some s => .str s
    | none => .null
  { tag := .str d.tag, id := field d.id, classes := field d.classes, text := field d.text
    attributes := [], parent := none }

/-- A field that holds a text or says nothing. -/
def textField (v : Value) (fault : Fault) : Except Fault (Option String) :=
  match v with
  | .str s => .ok (some s)
  | .null => .ok none
  | v => if v.isTruthy then .error fault else .ok none

/-- The descriptor, if the fields are texts. They are looked at in the order of the rules. -/
def descriptor (c : Capture) : Except Fault Descriptor := do
  let tag ← textField c.tag (.notText c.tag.kind)
  let id ← textField c.id (.notText c.id.kind)
  let classes ← textField c.classes (.noMember c.classes.kind "split")
  let text ← textField c.text (.noMember c.text.kind "strip")
  return { tag := tag.getD "", id, classes, text }

/-- Scores a line. Fields other than the tag are looked at only if the line opens the tag. -/
def scoreLine (c : Capture) (f : Framework) (line : List Char) :
    Except Fault (Option Markup.LineMatch) := do
  match ← textField c.tag (.notText c.tag.kind) with
  | none => return none
  | some tag =>
    if tag.isEmpty then return none
    else
      match Markup.findTag tag.toList line with
      | none => return none
      | some _ => return Markup.scoreLine (← c.descriptor) f line

/-- How much of the text counts when captures are told apart. -/
def keyTextLength : Nat := 50

/-- The start of the text; none at all counts as no text. -/
def keyText : Value → Except Fault Value
  | .null => .ok .null
  | .str s =>
    .ok (if s.isEmpty then .null
      else .str (String.ofList (Text.takePoints keyTextLength s.toList)))
  | .list items => .ok (if items.isEmpty then .null else .list (items.take keyTextLength))
  | v => if v.isTruthy then .error .badSlice else .ok .null

/-- Letters and digits stay, any other character becomes an underscore. -/
def keyChar (c : Char) : Char := if c.isAlphanum then c else '_'

/-- What tells captures apart in the cache. The order of fields in a payload does not. -/
def key (c : Capture) : Except Fault String := do
  let text ← keyText c.text
  let told : Value :=
    .table [("className", c.classes), ("id", c.id), ("tagName", c.tag), ("textContent", text)]
  return "element_" ++ String.ofList ((Value.write .flat 0 told.sorted).map keyChar)

/-- The classes one by one. -/
def classWords (c : Capture) : Except Fault (List (List Char)) := do
  let classes ← textField c.classes (.noMember c.classes.kind "split")
  return Text.words (classes.getD "").toList

end Capture

end Restyle
