import Restyle.Backup.Store

/-!
Files that were changed by others since they were last written or copied here. A file without
backups is in no conflict.
-/
namespace Restyle

structure Conflict where
  path : Path
  description : String
  suggestions : List String
  deriving DecidableEq, Repr

namespace Conflict

def unreadable (p : Path) : Conflict :=
  { path := p, description := "Could not read file to check for changes", suggestions := [] }

def changed (p : Path) : Conflict :=
  { path := p
    description := "File has been modified since last backup"
    suggestions :=
      ["Review the changes made outside the editor",
        "Reload the file before applying new styles",
        "Roll back to the last backup if the edit was unintended"] }

/-- Compares the file with what its latest record says it should be. -/
def find (b : Backups) (t : Tree) (file : Path) : List Conflict :=
  match b.latest? file with
  | none => []
  | some e =>
    match t.read file with
    | .error _ => [unreadable file]
    | .ok bytes => if e.expected == .str (Digest.short bytes) then [] else [changed file]

end Conflict

end Restyle
