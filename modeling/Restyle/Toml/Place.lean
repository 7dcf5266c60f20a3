import Restyle.Value.Basic
import Restyle.Toml.Defect

/-!
Places in the tables of a settings file, and changes there.
-/
namespace Restyle.Toml

abbrev Table := List (String × Value)

inductive Step where
  | key (name : String)
  /-- To the last item of a list. -/
  | last
  deriving DecidableEq, Repr

abbrev Place := List Step

/-- Changes what stands at a place. -/
def change {α : Type} (f : Value → Except Defect (Value × α)) :
    Place → Value → Except Defect (Value × α)
  | [], v => f v
  | .key name :: rest, .tableOf form t => do
    let (w, a) ← change f rest ((t.lookup name).getD .null)
    return (.tableOf form (assign name w t), a)
  | .last :: rest, .list items => do
    let (w, a) ← change f rest (items.getLastD .null)
    return (.list (items.dropLast ++ [w]), a)
  | _ :: rest, v => do
    let (_, a) ← change f rest .null
    return (v, a)

/-- Changes what stands under names, one in the other. Tables on the way are made where they are
missing. -/
def changeUnder {α : Type} (f : Value → Except Defect (Value × α)) :
    List String → Value → Except Defect (Value × α)
  | [], v => f v
  | name :: rest, .tableOf form t => do
    let (w, a) ← changeUnder f rest ((t.lookup name).getD (.table []))
    return (.tableOf form (assign name w t), a)
  | _ :: _, _ => .error .notTable

/-- Sets a field that a table does not have yet. -/
def addField (name : String) (v : Value) : Value → Except Defect Value
  | .tableOf form t =>
    if (t.lookup name).isSome then .error .malformed else .ok (.tableOf form (assign name v t))
  | _ => .error .malformed

end Restyle.Toml
