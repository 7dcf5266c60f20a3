import Restyle.Backup.Entry
import Restyle.Settings.Basic
import Restyle.Component.Name
import Restyle.Clock

/-!
The store of backups of a project: copies of files below one directory, and their records. A file's
copies have timestamps that only grow, also when the clock does not.
-/
namespace Restyle

open Number

structure Backups where
  /-- The project's directory. -/
  root : Path
  settings : Settings
  /-- Where copies and manifest are. -/
  directory : Path
  /-- Whether that directory is there. -/
  available : Bool
  index : BackupIndex

namespace Backups

def manifestName : String := "manifest.json"

def manifestPath (b : Backups) : Path := b.directory ++ [manifestName]

def history (b : Backups) (file : Path) : List BackupEntry :=
  (b.index.lookup file.resolve.text).getD []

def latest? (b : Backups) (file : Path) : Option BackupEntry := (b.history file).getLast?

/-- The directory for copies of files outside of the project. -/
def outside : String := "_external"

/-- Where the copy of a file with a timestamp goes. -/
def copyPath (b : Backups) (file : Path) (timestamp : Int) : Path :=
  let below := match b.root.below? file with
    | some p => p
    | none => outside :: file
  b.directory ++ below.dropLast ++ [file.name ++ "." ++ toString timestamp ++ ".backup"]

/-- The records in the manifest; none if there is no manifest or it cannot be read as one. That its
name is too long is a fault. -/
def loadIndex (t : Tree) (manifest : Path) : Except Fault BackupIndex :=
  match t.exists? manifest with
  | .error e => .error (.tree e)
  | .ok _ =>
    match Component.readText t manifest with
    | .error _ => .ok []
    | .ok s =>
      match Value.ofJson s.toList with
      | .error .malformed => .ok []
      | .error (.tooDeep table) => .error (.nestedTooDeep table)
      | .ok v =>
        match BackupIndex.ofManifest v with
        | .ok index => .ok index
        | .error f => if BackupIndex.isUnreadable f then .ok [] else .error f

/-- Opens the store of a project, and makes its directory if it is not there. -/
def load (t : Tree) (root : Path) (settings : Settings) : Except Fault (Backups × Tree) :=
  match settings.value "backup_directory" with
  | .str name => do
    let directory ← (root.join name).checked
    let (made, t) := t.ensureDirectory directory
    let index ← loadIndex t (directory ++ [manifestName])
    return ({ root, settings, directory, available := made.isOk, index }, t)
  | v => .error (.notJoinable v.kind)

/-- Writes the manifest. Where that fails nothing else does. -/
def saveIndex (b : Backups) (t : Tree) : Tree :=
  match t.write b.manifestPath (b.index.toManifest).toLines.toUTF8 with
  | .ok t => t
  | .error _ => t

/-! ### Retention -/

def millisPerDay : Int := 24 * 60 * 60 * 1000

/-- How many of a file's copies are too many. -/
def excess (settings : Settings) (count : Nat) : Except Fault Nat :=
  match settings.value "max_backups" with
  | .int n => .ok (count - max n 1).toNat
  | .bool _ => .ok (count - 1)
  | .real x =>
    match x.toRat? with
    | some q =>
      if q < 1 then .ok (count - 1) else if (count : Rat) ≤ q then .ok 0 else .error .badSlice
    | none => .ok (if x = .infinite true then count - 1 else 0)
  | v => .error (.notOrdered ">" "int" v.kind)

/-- What a text comes to that is repeated `count` times and then read as a whole number. Its start
is enough to tell that it is none. -/
def repeatedNumber (count : Nat) (s : String) : Fault :=
  let cs := s.toList
  match readDigits 0 0 false cs, readWhole (cs ++ cs) with
  | (_, n + 1, []), _ => .tooManyDigits (count * (n + 1))
  | _, .error (.tooLong n) => .tooManyDigits n
  | _, _ => .notInteger (String.join (List.replicate (200 / max cs.length 1 + 2) s))

/-- How long copies are kept, in milliseconds. -/
def keepMillis (settings : Settings) : Except Fault Int :=
  match settings.value "auto_cleanup_days" with
  | .int n => .ok (n * millisPerDay)
  | .bool b => .ok (if b then millisPerDay else 0)
  | .real x => Value.binaryToInt (x.mul (.finite millisPerDay))
  | .str s => .error (repeatedNumber millisPerDay.toNat s)
  | .list _ => .error (.notNumeric "list")
  | v => .error (.notCombinable "*" v.kind "int")

/-- Where the copy of a record is. A relative path has nothing here that it could start from. -/
def copyOf (e : BackupEntry) : Except Fault (Option Path) :=
  match e.copy with
  | .str s => (Path.names s).checked.map fun p => if Path.isAbsolute s then some p else none
  | v => .error (.notPath v.kind)

/-- Removes a copy. One that is not there is no matter. -/
def removeCopy (t : Tree) (e : BackupEntry) : Except Fault Tree :=
  (copyOf e).map fun copy => (copy.bind fun p => (t.remove p).toOption).getD t

/-- Removes copies one after the other, up to the first that is no path. -/
def removeCopies (t : Tree) : List BackupEntry → Except Fault Unit × Tree
  | [] => (.ok (), t)
  | e :: rest =>
    match removeCopy t e with
    | .ok t => removeCopies t rest
    | .error f => (.error f, t)

/-- What is kept of a file's records, and the tree without the copies of the others: those beyond
the count from the oldest on, and those that are too old. -/
def prune (settings : Settings) (now : Clock) (t : Tree) (entries : List BackupEntry) :
    Except Fault (List BackupEntry) × Tree :=
  match excess settings entries.length with
  | .error f => (.error f, t)
  | .ok n =>
    match removeCopies t (entries.take n) with
    | (.error f, t) => (.error f, t)
    | (.ok (), t) =>
      match keepMillis settings with
      | .error f => (.error f, t)
      | .ok keep =>
        let cutoff := now.millis - keep
        let rest := entries.drop n
        match removeCopies t (rest.filter fun e => decide (e.timestamp < cutoff)) with
        | (.error f, t) => (.error f, t)
        | (.ok (), t) => (.ok (rest.filter fun e => !decide (e.timestamp < cutoff)), t)

/-! ### Backup and restore -/

/-- The next timestamp for a file: the time, or one more than the last timestamp. -/
def nextTimestamp (history : List BackupEntry) (now : Clock) : Int :=
  match history.getLast? with
  | some e => if now.millis ≤ e.timestamp then e.timestamp + 1 else now.millis
  | none => now.millis

/-- Copies bytes to a path, making the directories above it. The tree that is left is given also
if the copy fails. -/
def writeCopy (t : Tree) (copy : Path) (bytes : ByteArray) : Except TreeError Unit × Tree :=
  match t.ensureDirectory copy.dropLast with
  | (.error e, t) => (.error e, t)
  | (.ok (), t) =>
    match t.write copy bytes with
    | .error e => (.error e, t)
    | .ok t => (.ok (), t)

/-- A file that has no records any more is not listed. -/
def withoutEmpty (b : Backups) (key : String) : Backups :=
  { b with index := b.index.filter fun e => !(e.1 == key && e.2.isEmpty) }

/-- Copies a file as it is now into the store. The clock is read once for the timestamp and once
more for the copies that are too old. -/
def create (b : Backups) (t : Tree) (now : Readings) (file : Path) (reason : String) :
    Except Problem BackupEntry × Backups × Tree :=
  if !b.settings.isOn "enable_backups" then (.error .backupsDisabled, b, t)
  else if !b.available then (.error (.backupsUnavailable b.directory), b, t)
  else
    match file.checked with
    | .error f => (.error (.fault f), b, t)
    | .ok file =>
      let path := file.resolve
      let key := path.text
      let history := b.history file
      let timestamp := nextTimestamp history now.stamp
      match t.read path with
      | .error e => (.error (.backupFailed path e), b.withoutEmpty key, t)
      | .ok bytes =>
        let copy := b.copyPath path timestamp
        match writeCopy t copy bytes with
        | (.error e, t) => (.error (.backupFailed path e), b.withoutEmpty key, t)
        | (.ok (), t) =>
          let entry : BackupEntry :=
            { file := .str key, copy := .str copy.text, timestamp
              hash := .str (Digest.short bytes), reason := .str reason, written := .null }
          let grown := history ++ [entry]
          match prune b.settings now.sweep t grown with
          | (.error f, t) => (.error (.fault f), { b with index := assign key grown b.index }, t)
          | (.ok kept, t) =>
            let b := { b with index := assign key kept b.index }
            (.ok entry, b, b.saveIndex t)

/-- The record with the timestamp, or the newest one. -/
def find (b : Backups) (file : Path) (timestamp : Option Value) : Except Problem BackupEntry := do
  let file ← file.checked.mapError .fault
  let history := b.history file
  match history.getLast?, timestamp with
  | none, _ => .error (.noBackups file.text)
  | some e, none => .ok e
  | some _, some v =>
    match v.toInt with
    | .error f => .error (.fault f)
    | .ok n =>
      match history.find? (·.timestamp == n) with
      | some e => .ok e
      | none => .error (.noSuchBackup v.display)

/-- Writes a copy back over the file. `false` if there is no copy or the file cannot be written. -/
def restore (b : Backups) (t : Tree) (file : Path) (timestamp : Option Value) :
    Except Fault (Bool × Tree) :=
  match b.find file timestamp with
  | .error (.fault f) => .error f
  | .error _ => .ok (false, t)
  | .ok e =>
    (copyOf e).map fun copy =>
      match copy.bind fun p => (t.read p).toOption with
      | none => (false, t)
      | some bytes =>
        match t.write file bytes with
        | .error _ => (false, t)
        | .ok t => (true, t)

def setLast (f : BackupEntry → BackupEntry) (es : List BackupEntry) : List BackupEntry :=
  match es.getLast? with
  | some e => es.dropLast ++ [f e]
  | none => es

/-- Remembers what was written over a file after its latest backup. -/
def recordWrite (b : Backups) (t : Tree) (file : Path) (bytes : ByteArray) : Backups × Tree :=
  let key := file.resolve.text
  match b.history file with
  | [] => (b, t)
  | history =>
    let history := setLast (fun e => { e with written := .str (Digest.short bytes) }) history
    let b := { b with index := assign key history b.index }
    (b, b.saveIndex t)

/-- Remembers a text as what was written. A file without backups remembers nothing. -/
def recordText (b : Backups) (t : Tree) (file : Path) (s : String) :
    Except Fault (Backups × Tree) :=
  match b.latest? file, Text.encode s with
  | none, _ => .ok (b, t)
  | some _, .error f => .error (.unencodable f)
  | some _, .ok bytes => .ok (b.recordWrite t file bytes)

/-- Forgets all records. The copies stay. -/
def clear (b : Backups) (t : Tree) : Backups × Tree :=
  let b := { b with index := [] }
  (b, b.saveIndex t)

end Backups

end Restyle
