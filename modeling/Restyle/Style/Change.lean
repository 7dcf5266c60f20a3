import Restyle.Element.Capture
import Restyle.Style.Object

/-!
Requests to change the style of an element. They come as payloads with fields of any kind; what a
field has to be is settled where it is used.
-/
namespace Restyle

/-- A place in a source file. -/
structure Location where
  file : Value
  line : Int
  column : Int
  component : Value

structure Change where
  selector : Value
  styles : Style.Declarations
  id : Value
  classes : Value
  tag : Value
  source : Option Location

namespace Change

open Capture

def locationOf (v : Value) : Except Fault (Option Location) :=
  if v.isTruthy then
    match v with
    | .table _ => do
      let file ←
        if (v.get "filePath").isTruthy then .ok (v.get "filePath")
        else if v.has "file_path" then .ok (v.get "file_path")
        else .error (.missingKey "file_path")
      let line ←
        (if v.has "lineNumber" then v.get "lineNumber"
          else if v.has "line_number" then v.get "line_number" else .int 0).toInt
      let column ← ((either v "columnNumber" "column_number").orElse (.int 1)).toInt
      return some
        { file, line, column
          component := (either v "componentName" "component_name").orElse (.str "Unknown") }
    | _ => .error (.noMember v.kind "get")
  else .ok none

def ofPayload (v : Value) : Except Fault Change :=
  match v with
  | .table _ => do
    let styles ← ((v.get "styles").orElse (.table [])).toMap
    let source ← locationOf (either v "sourceInfo" "source_info")
    return {
      selector := (either v "elementSelector" "element_selector").orElse (.str "")
      styles
      id := either v "elementId" "element_id"
      classes := either v "className" "class_name"
      tag := either v "tagName" "tag_name"
      source }
  | _ => .error (.noMember v.kind "get")

/-- The element to look for when the request names no place. -/
def capture (c : Change) : Capture :=
  { tag := c.tag.orElse (.str "div"), id := c.id, classes := c.classes, text := .null
    attributes := [], parent := none }

end Change

end Restyle
