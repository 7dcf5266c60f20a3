import Restyle.Edit.Conflict
import Restyle.Edit.Outcome

/-!
The state of editing in a project: settings, backups, and those who are told of changes. Files are
given back their former text from a backup, or from what an edit remembers of it.
-/
namespace Restyle

inductive EventKind where
  | stylesUpdated | fileChanged
  deriving DecidableEq, Repr

def EventKind.word : EventKind → String
  | stylesUpdated => "styles-updated"
  | fileChanged => "file-changed"

/-- What is told of a change. -/
structure ChangeEvent where
  kind : EventKind
  path : Path
  styles : Style.Declarations
  timestamp : Int

/-- One who is told of changes. An event that a listener cannot take is lost to it alone. -/
structure Listener where
  id : Nat
  takes : ChangeEvent → Bool

/-- What takes back an edit. -/
structure Undo where
  modifications : List Modification
  allowed : Bool
  deriving DecidableEq, Repr

structure Editor where
  root : Path
  settings : Settings
  backups : Backups
  /-- In the order in which they are told. -/
  listeners : List Listener
  /-- What was taken by whom, from the first event on. -/
  delivered : List (Nat × ChangeEvent)

namespace Editor

/-- Opens the editor of a project, with the backups that are there. -/
def load (t : Tree) (root : Path) (settings : Settings) : Except Fault (Editor × Tree) :=
  (Backups.load t root settings).map fun (backups, t) =>
    ({ root, settings, backups, listeners := [], delivered := [] }, t)

/-- The path that a value names, seen from the project's directory. -/
def pathOf (e : Editor) (v : Value) : Except Fault Path :=
  match v with
  | .str s => (e.root.join s).checked.map Path.resolve
  | v => .error (.notPath v.kind)

/-! ### Listeners -/

def listen (e : Editor) (l : Listener) : Editor := { e with listeners := e.listeners ++ [l] }

/-- Removes the first listener with the id. -/
def unlisten (e : Editor) (id : Nat) : Editor :=
  { e with listeners := e.listeners.eraseP fun l => l.id == id }

/-- Tells every listener of an event. -/
def notify (e : Editor) (event : ChangeEvent) : Editor :=
  { e with delivered :=
      e.delivered ++ (e.listeners.filter fun l => l.takes event).map fun l => (l.id, event) }

def notifyAll (e : Editor) (events : List ChangeEvent) : Editor := events.foldl notify e

def fileChanged (now : Clock) (p : Path) : ChangeEvent :=
  { kind := .fileChanged, path := p, styles := [], timestamp := now.millis }

/-! ### Taking back -/

def record (e : Editor) (t : Tree) (file : Path) (bytes : ByteArray) : Editor × Tree :=
  let (backups, t) := e.backups.recordWrite t file bytes
  ({ e with backups }, t)

/-- Gives a file the bytes of its latest backup or of the one with the timestamp. -/
def rollback (e : Editor) (t : Tree) (now : Clock) (file : Value) (timestamp : Option Value) :
    Except Fault (Bool × Editor × Tree) := do
  let path ← e.pathOf file
  let (restored, t) ← e.backups.restore t path timestamp
  if restored then
    match t.read path with
    | .error _ => return (false, e, t)
    | .ok bytes =>
      let (e, t) := e.record t path bytes
      return (true, e.notify (fileChanged now path), t)
  else return (false, e, t)

/-- Writes the former texts back, and gives the paths written. The first failure ends it. -/
def writeBack (e : Editor) (t : Tree) :
    List Modification → Option (List Path) × Editor × Tree
  | [] => (some [], e, t)
  | m :: rest =>
    let path := m.path.resolve
    match t.write path m.before.toUTF8 with
    | .error _ => (none, e, t)
    | .ok t =>
      let (e, t) := e.record t path m.before.toUTF8
      let (paths, e, t) := writeBack e t rest
      (paths.map (path :: ·), e, t)

/-- Takes back an edit, what was written last first. -/
def undo (e : Editor) (t : Tree) (now : Clock) (u : Undo) : Bool × Editor × Tree :=
  if u.allowed then
    match e.writeBack t u.modifications.reverse with
    | (none, e, t) => (false, e, t)
    | (some paths, e, t) => (true, e.notifyAll (paths.map (fileChanged now)), t)
  else (false, e, t)

/-! ### Queries and settings -/

def history (e : Editor) (file : Value) : Except Fault (List BackupEntry) :=
  (e.pathOf file).map e.backups.history

/-- Changes settings. Another directory for backups comes with the backups that are there. The
third part is the fault of a directory that is none; the backups then stay as they are. -/
def updateSettings (e : Editor) (t : Tree) (values : List (String × Value)) :
    Editor × Tree × Option Fault :=
  let e := { e with settings := e.settings.apply values }
  if values.any fun (k, _) => Settings.snakeCase k == "backup_directory" then
    match Backups.load t e.root e.settings with
    | .error f => (e, t, some f)
    | .ok (backups, t) => ({ e with backups }, t, none)
  else ({ e with backups.settings := e.settings }, t, none)

end Editor

namespace Backups

def timestamps (b : Backups) : List Int := b.index.flatMap fun (_, es) => es.map (·.timestamp)

def oldest? (b : Backups) : Option Int := b.timestamps.min?

def newest? (b : Backups) : Option Int := b.timestamps.max?

end Backups

end Restyle
