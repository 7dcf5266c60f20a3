import Restyle.Toml.Header
import Restyle.Toml.Layout
import Restyle.Toml.Setting

/-!
Reading settings files: lines that set a key to a value, under headers that name a table. This and
the modules for the parts of a file stand for the reader of the package in use.
-/
namespace Restyle.Toml

open Text

/-- The line ends of a file, each as one line feed. -/
def plainLines : List Char → List Char
  | '\r' :: '\n' :: rest => '\n' :: plainLines rest
  | '\r' :: rest => '\n' :: plainLines rest
  | c :: rest => c :: plainLines rest
  | [] => []

/-- What has been read: the tables, the place of the header in force, names of tables that may still
get a header, and the text that goes on. -/
structure Reading where
  root : Value
  here : Place
  implied : List String
  long : Option LongText

namespace Reading

def start : Reading := ⟨.table [], [], [], none⟩

/-- Changes the table of the header in force. -/
def changeHere {α : Type} (r : Reading) (f : Value → Except Defect (Value × α)) :
    Except Defect (Reading × α) :=
  (change f r.here r.root).map fun (root, a) => ({ r with root }, a)

/-- A line that is no part of a longer text. One without an equals sign says nothing. -/
def takeLine (r : Reading) (line : List Char) : Except Defect Reading := do
  match line with
  | [] => return r
  | '[' :: _ =>
    let (names, many) ← readHeader line
    let o ← openTable many names r.implied r.root
    return { r with root := o.value, here := o.place, implied := o.implied }
  | '\x7b' :: _ =>
    if line.getLast? ≠ some '\x7d' then throw .malformed
    let (r, ()) ← r.changeHere fun v =>
      (readFields (readValue fullRoom) line v).map fun v => (v, ())
    return r
  | _ =>
    if !line.contains '=' then return r
    let (r, long) ← r.changeHere (readSetting (readValue fullRoom) line)
    return { r with long }

/-- Whether a long text ends with this line. -/
def closes (text line : List Char) : Except Defect Bool :=
  match text, line.reverse with
  | '[' :: _, [] => .error .cutOff
  | '[' :: _, c :: _ => .ok (c == ']')
  | q :: _, back => .ok ([q, q, q].isPrefixOf back)
  | [], _ => .ok false

/-- A line of a long text. The value takes the key's place in the table of the header, also if the
key has points, and also if there is a value already. -/
def takeLong (r : Reading) (long : LongText) (line : List Char) : Except Defect Reading := do
  let text := long.text ++ line
  if ← closes text line then
    let v ← readValue fullRoom true text
    let (r, ()) ← r.changeHere fun
      | .tableOf form t => .ok (.tableOf form (assign long.key v t), ())
      | _ => .error .notTable
    return { r with long := none }
  else return { r with long := some (LongText.endLine long.key text) }

/-- Takes the next line. Blanks at its ends do not count, unless it lies in a long text that has a
line end already. -/
def step (r : Reading) (line : List Char) : Except Defect Reading :=
  match r.long with
  | none => r.takeLine (trim line)
  | some long =>
    let line := if long.joined || !long.text.contains '\n' then trim line else line
    if line.isEmpty && long.joined then .ok r else r.takeLong long line

end Reading

/-- The tables of a settings file. -/
def read (content : String) : Except Defect Table := do
  let r ← (← layout (plainLines content.toList)).foldlM Reading.step .start
  match r.root with
  | .tableOf _ t => return t
  | _ => return []

end Restyle.Toml
