import Restyle.Settings.Basic
import Restyle.Toml.Library
import Restyle.Component.Name

/-!
Settings come in layers: the defaults, the file of the user, the file of the project, and what the
caller gives. Each layer may set some fields and leaves the others.
-/
namespace Restyle.Settings

open Component

def projectFileName : String := ".sourcelens.toml"

/-- The tables of a settings file. One that is missing, that is no file or that breaks the rules has
none; one that is no text, that cannot be read to its end or whose name is too long is a fault. -/
def tablesOf (lib : Toml.Library) (t : Tree) (p : Path) : Except Fault Toml.Table :=
  match t.exists? p with
  | .error e => .error (.tree e)
  | .ok false => .ok []
  | .ok true =>
    match readText t p with
    | .error (.tree _) => .ok []
    | .error f => .error f
    | .ok s =>
      match lib.read s with
      | .ok tables => .ok tables
      | .error .malformed => .ok []
      | .error d => .error (.badSettings d)

/-- The settings of one group in a layer. -/
def inLayer (layer : List (String × Value)) (s : Section) :
    Except Fault (List (String × Value)) :=
  match layer.lookup s.name with
  | none => .ok []
  | some (.tableOf _ values) => .ok values
  | some v => .error (.noMember v.kind "items")

/-- Both groups of settings. -/
structure Both where
  resolution : Settings
  modification : Settings

def Both.defaults : Both := ⟨Section.resolution.defaults, Section.modification.defaults⟩

/-- Puts one layer over the settings. -/
def applyLayer (b : Both) (layer : List (String × Value)) : Except Fault Both := do
  let r ← inLayer layer .resolution
  let m ← inLayer layer .modification
  return ⟨apply b.resolution r, apply b.modification m⟩

def applyLayers (b : Both) : List (List (String × Value)) → Except Fault Both
  | [] => .ok b
  | layer :: rest => do applyLayers (← applyLayer b layer) rest

/-- What the caller gives, if it says anything. -/
def overrideLayer (v : Value) : Except Fault (List (List (String × Value))) :=
  if v.isTruthy then
    match v with
    | .table layer => .ok [layer]
    | v => .error (.noMember v.kind "get")
  else .ok []

/-- The settings in force for a project. -/
def load (lib : Toml.Library) (t : Tree) (userFile : Path) (project : Option Path)
    (overrides : Value) : Except Fault Both := do
  let user ← tablesOf lib t userFile
  let own ← match project with
    | none => pure []
    | some root => (tablesOf lib t (root ++ [projectFileName])).map fun l => [l]
  let given ← overrideLayer overrides
  applyLayers .defaults (user :: own ++ given)

/-- The tables of the user's file with values of one group set. -/
def updatedTables (lib : Toml.Library) (t : Tree) (userFile : Path) (s : Section)
    (values : List (String × Value)) : Except Fault Toml.Table := do
  let full ← tablesOf lib t userFile
  let current ← (inLayer full s).map (apply s.defaults)
  return assign s.name (.table (apply current values).toTable) full

/-- Sets values of one group in the user's file, and keeps all else that is there. Tells whether the
file could be opened. It is emptied before values are found that cannot be written. -/
def save (lib : Toml.Library) (t : Tree) (userFile : Path) (s : Section)
    (values : List (String × Value)) : Except Fault Bool × Tree :=
  match updatedTables lib t userFile s values with
  | .error f => (.error f, t)
  | .ok tables =>
    match t.ensureDirectory userFile.dropLast with
    | (.error e, t) => (.error (.tree e), t)
    | (.ok (), t) =>
      match t.write userFile ByteArray.empty with
      | .error _ => (.ok false, t)
      | .ok opened =>
        match lib.write tables with
        | .error d => (.error (.badSettings d), opened)
        | .ok text => (.ok true, (t.write userFile text.toUTF8).toOption.getD opened)

end Restyle.Settings
