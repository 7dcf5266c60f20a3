import Restyle.Fault
import Restyle.Glob

/-!
Finding files below a directory. Directories are gone through in the order of their names, so files
come in the order of their lists of names. Each directory takes a call within that for the one above
it, and only so many calls nest.
-/
namespace Restyle

/-- How many directories below the root are still entered. -/
inductive DepthLimit where
  | atMost (n : Int)
  | unlimited
  deriving DecidableEq, Repr

def DepthLimit.admits (limit : DepthLimit) (depth : Nat) : Bool :=
  match limit with
  | atMost n => (depth : Int) ≤ n
  | unlimited => true

/-- What a search leaves out, and how deep it goes. -/
structure Scan where
  excludes : List String
  limit : DepthLimit
  deriving DecidableEq, Repr

namespace Scan

def selectedBy (patterns : List String) (path name : String) : Bool :=
  patterns.any (Glob.selects path name)

/-- The files that an entry of `root ++ below` comes to, where `inside` finds those of a directory. An
entry that is left out hides all that lies below it. -/
def filesAt (s : Scan) (includes : List String) (root below : Path)
    (inside : Path → Except Fault (List Path)) (entry : String × Node) :
    Except Fault (List Path) :=
  let path := below ++ [entry.1]
  if selectedBy s.excludes (Path.slashed path) entry.1 then .ok []
  else
    match entry.2 with
    | .directory => inside path
    | .file _ =>
      .ok (if selectedBy includes (Path.slashed path) entry.1 then [root ++ path] else [])

/-- The files below `root ++ below` that the search takes, with room for so many calls. A directory
that is too far down to be gone through takes a call still. -/
def filesFrom (s : Scan) (includes : List String) (t : Tree) (root : Path) :
    Nat → Nat → Path → Except Fault (List Path)
  | 0, _, _ => .error .callsTooDeep
  | room + 1, depth, below =>
    if s.limit.admits depth then
      (((t.list? (root ++ below)).getD []).mapM (s.filesAt includes root below
        (filesFrom s includes t root room (depth + 1)))).map List.flatten
    else .ok []

def files (s : Scan) (includes : List String) (t : Tree) (root : Path) :
    Except Fault (List Path) :=
  s.filesFrom includes t root maxCalls 0 []

/-- The files that a scan finds when a caller leaves out more. -/
def filesBut (s : Scan) (more includes : List String) (t : Tree) (root : Path) :
    Except Fault (List Path) :=
  { s with excludes := s.excludes ++ more }.files includes t root

end Scan

namespace Tree

/-- Entries that a look for file endings passes over. -/
def isHidden (name : String) : Bool := name.toList.head? == some '.' || name == "node_modules"

def hasEndingFrom (endings : List String) (limit : Int) (t : Tree) : Nat → Nat → Path → Bool
  | 0, _, _ => false
  | fuel + 1, depth, dir =>
    (depth : Int) ≤ limit && ((t.list? dir).getD []).any fun (name, node) =>
      !isHidden name &&
        match node with
        | .file _ => endings.any fun e => e.toList.isSuffixOf name.toList
        | .directory => hasEndingFrom endings limit t fuel (depth + 1) (dir ++ [name])

/-- Whether a file with one of the endings lies below `dir`, at most `limit` directories down. -/
def hasEnding (t : Tree) (dir : Path) (endings : List String) (limit : Int) : Bool :=
  t.hasEndingFrom endings limit (t.depth + 1) 0 dir

/-- How far down files are looked for when the framework is told from their endings. -/
def endingDepth : Int := 3

end Tree

end Restyle
