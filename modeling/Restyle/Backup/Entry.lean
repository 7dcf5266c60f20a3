import Restyle.Value.Reading
import Restyle.Value.Json
import Restyle.Digest

/-!
Records of backups, and the manifest that keeps them between runs.
-/
namespace Restyle

/-- One copy of a file. The hash of what was written over the file after the copy was made is kept
beside the hash of the copy. -/
structure BackupEntry where
  file : Value
  copy : Value
  timestamp : Int
  hash : Value
  reason : Value
  written : Value

/-- The copies of each file from the oldest to the newest, by the path of the file. -/
abbrev BackupIndex := List (String × List BackupEntry)

namespace BackupEntry

def toValue (e : BackupEntry) : Value :=
  .table [("original_path", e.file), ("backup_path", e.copy), ("timestamp", .int e.timestamp),
    ("hash", e.hash), ("reason", e.reason), ("written_hash", e.written)]

/-- A field that must be there. -/
def required (v : Value) (key : String) : Except Fault Value :=
  match v with
  | .table fields =>
    match fields.lookup key with
    | some x => .ok x
    | none => .error (.missingKey key)
  | _ => .error (.notIndexable v.kind)

def ofValue (v : Value) : Except Fault BackupEntry := do
  let file ← required v "original_path"
  let copy ← required v "backup_path"
  let timestamp ← (← required v "timestamp").toInt
  let hash ← required v "hash"
  return {
    file, copy, timestamp, hash
    reason := if v.has "reason" then v.get "reason" else .str ""
    written := v.get "written_hash" }

/-- The hash that the file should have: of what was written last, else of the copy. -/
def expected (e : BackupEntry) : Value := e.written.orElse e.hash

theorem ofValue_toValue (e : BackupEntry) : ofValue e.toValue = .ok e := by
  cases e
  rfl

end BackupEntry

namespace BackupIndex

def toManifest (index : BackupIndex) : Value :=
  .table [("version", .int 1), ("files", .table (index.map fun (k, es) =>
    (k, .list (es.map BackupEntry.toValue))))]

/-- The records of one file. -/
def entriesOf (v : Value) : Except Fault (List BackupEntry) := do
  (← v.items).mapM BackupEntry.ofValue

def filesOf : List (String × Value) → Except Fault BackupIndex
  | [] => .ok []
  | (k, v) :: rest => do
    let es ← entriesOf v
    return (k, es) :: (← filesOf rest)

/-- The index that a manifest describes. -/
def ofManifest (v : Value) : Except Fault BackupIndex :=
  match v with
  | .table _ =>
    match (if v.has "files" then v.get "files" else .table []) with
    | .table files => filesOf files
    | files => .error (.noMember files.kind "items")
  | v => .error (.noMember v.kind "get")

/-- Faults for which a manifest is taken for unreadable. Any other fault stops the work. -/
def isUnreadable : Fault → Bool
  | .noMember _ _ => false
  | .infiniteInteger => false
  | _ => true

end BackupIndex

end Restyle
