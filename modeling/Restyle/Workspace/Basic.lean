import Restyle.Settings.Files
import Restyle.Workspace.Editor
import Restyle.Workspace.Resolver

/-!
A project that is open: its sources can be looked up, and the style of its elements can be changed.
Every change has an outcome; none of its failures goes beyond that.
-/
namespace Restyle

structure Workspace where
  resolver : Resolver
  editor : Editor

/-- How a change came out, and the conflicts that were met. -/
structure EditReport where
  outcome : Except Problem Edited
  conflicts : List Conflict

namespace EditReport

def failure (p : Problem) : EditReport := { outcome := .error p, conflicts := [] }

def text (r : EditReport) : String :=
  match r.outcome with
  | .ok e => e.text
  | .error p => "Failed: " ++ p.message

/-- What takes the change back, if there was one. -/
def undo? (r : EditReport) : Option Undo :=
  match r.outcome with
  | .ok e => some { modifications := e.modifications, allowed := true }
  | .error _ => none

end EditReport

namespace Workspace

/-- Opens a project with the settings given. -/
def ofSettings (t : Tree) (root : Path) (s : Settings.Both) : Except Fault (Workspace × Tree) := do
  let root ← root.checked
  let resolver ← Resolver.ofSettings (some root.resolve) s.resolution
  let (editor, t) ← Editor.load t root.resolve s.modification
  return ({ resolver, editor }, t)

/-- Opens a project with the settings in force for it. -/
def load (lib : Toml.Library) (t : Tree) (userFile root : Path) (overrides : Value) :
    Except Fault (Workspace × Tree) := do
  let s ← Settings.load lib t userFile (some root) overrides
  ofSettings t root s

/-- Where a change is to be made: the file and the line that it names, or those of the element. -/
def placeOf (w : Workspace) (t : Tree) (now : Clock) (c : Change) :
    Except Problem (Path × Int) × Workspace :=
  match c.source with
  | some l =>
    match w.editor.pathOf l.file with
    | .ok p => (.ok (p, l.line), w)
    | .error f => (.error (.fault f), w)
  | none =>
    match w.resolver.findCapture t now c.capture with
    | (some s, resolver) => (.ok (s.path.resolve, s.line), { w with resolver })
    | (none, resolver) => (.error .noSource, { w with resolver })

/-- The events of a change that was made. -/
def eventsOf (settings : Settings) (now : Clock) (file : Path) (e : Edited) : List ChangeEvent :=
  { kind := .stylesUpdated, path := file, styles := e.styles, timestamp := now.millis } ::
    if settings.isOn "enable_live_reload" then
      e.modifications.map fun m => Editor.fileChanged now m.path
    else []

/-- Remembers what was written. -/
def recordAll (e : Editor) (t : Tree) (ms : List Modification) : Editor × Tree :=
  ms.foldl (fun (e, t) m => e.record t m.path m.after.toUTF8) (e, t)

def cancels (settings : Settings) : Bool := settings.word "conflict_resolution" == "cancel"

/-- Changes the element at a place that is known to be in no conflict or may be changed anyway. -/
def editAt (w : Workspace) (t : Tree) (now : Readings) (c : Change) (file : Path) (line : Int)
    (f : Framework) : Except Problem Edited × Workspace × Tree :=
  let settings := w.editor.settings
  let method := Style.Method.ofWord? (settings.word "preferred_update_method")
  match c.edit f method (settings.value "class_stylesheet") file line w.editor.backups t now with
  | (.error p, backups, t) => (.error p, { w with editor.backups := backups }, t)
  | (.ok e, backups, t) =>
    let (editor, t) := recordAll { w.editor with backups } t e.modifications
    (.ok e, { w with editor := editor.notifyAll (eventsOf settings now.stamp file e) }, t)

/-- Makes a change, unless the file is in conflict and the settings forbid it then. -/
def applyChange (w : Workspace) (t : Tree) (now : Readings) (c : Change) :
    EditReport × Workspace × Tree :=
  match w.placeOf t now.stamp c with
  | (.error p, w) => (.failure p, w, t)
  | (.ok (file, line), w) =>
    let conflicts := Conflict.find w.editor.backups t file
    if !conflicts.isEmpty && cancels w.editor.settings then
      ({ outcome := .error .cancelled, conflicts }, w, t)
    else
      let w := { w with resolver := w.resolver.detect t }
      match w.resolver.framework? with
      | none => (.failure (.unsupported "unknown"), w, t)
      | some f =>
        if Change.isSupported f then
          let (outcome, w, t) := w.editAt t now c file line f
          match outcome with
          | .error p =>
            ({ outcome, conflicts := if p.isReported then conflicts else [] }, w, t)
          | .ok _ => ({ outcome, conflicts }, w, t)
        else (.failure (.unsupported f.name), w, t)

/-- Makes the change that a payload asks for. -/
def apply (w : Workspace) (t : Tree) (now : Readings) (payload : Value) :
    EditReport × Workspace × Tree :=
  match payload with
  | .table _ =>
    match Change.ofPayload payload with
    | .ok c => w.applyChange t now c
    | .error f => (.failure (.fault f), w, t)
  | v => (.failure (.fault (.noMember v.kind "source_info")), w, t)

/-- The conflicts that a change would meet. -/
def conflictsOf (w : Workspace) (t : Tree) (c : Change) : Except Fault (List Conflict) :=
  match c.source with
  | none => .ok []
  | some l => (w.editor.pathOf l.file).map (Conflict.find w.editor.backups t)

def conflicts (w : Workspace) (t : Tree) (payload : Value) : Except Fault (List Conflict) :=
  match payload with
  | .table _ => do w.conflictsOf t (← Change.ofPayload payload)
  | v => .error (.noMember v.kind "source_info")

end Workspace

end Restyle
