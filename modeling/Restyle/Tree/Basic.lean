import Restyle.Tree.Path
import Restyle.Value.Display

/-!
A tree of files as a value. Every operation names a path; it first walks through the directories
on the way, then looks at what the last name stands for.
-/
namespace Restyle

/-- What lies at a path: a file with its bytes, or a directory. -/
inductive Node where
  | file (bytes : ByteArray)
  | directory

/-- Entries in the order in which they were made. The root needs no entry. -/
structure Tree where
  entries : List (Path × Node)

/-- Why the file system refuses an operation. -/
inductive Refusal where
  | missing | notDirectory | isDirectory | alreadyThere | nameTooLong
  /-- There is a null character in the path, which no path has. -/
  | nul
  /-- The path has no bytes, since it has a half in it. -/
  | half
  deriving DecidableEq, Repr

/-- Whether the text of a path is refused before the file system is asked. -/
def Refusal.isOfText : Refusal → Bool
  | nul | half => true
  | _ => false

/-- Why nothing can be asked of a path. -/
def Path.refusal? (p : Path) : Option Refusal :=
  if p.hasHalf then some .half else if p.hasNul then some .nul else none

/-- A refused operation and the path that it was asked for. -/
structure TreeError where
  refusal : Refusal
  path : Path
  deriving DecidableEq, Repr

namespace TreeError

def message (e : TreeError) : String :=
  let about := String.ofList (Value.quoted e.path.text)
  match e.refusal with
  | .missing => "[Errno 2] No such file or directory: " ++ about
  | .alreadyThere => "[Errno 17] File exists: " ++ about
  | .notDirectory => "[Errno 20] Not a directory: " ++ about
  | .isDirectory => "[Errno 21] Is a directory: " ++ about
  | .nameTooLong => "[Errno 36] File name too long: " ++ about
  | .nul => "embedded null byte"
  | .half => ((Text.nameFault? e.path.text).map (·.message)).getD ""

end TreeError

namespace Tree

def empty : Tree := ⟨[]⟩

def node? (t : Tree) (p : Path) : Option Node :=
  if p = [] then some .directory else t.entries.lookup p

def put (t : Tree) (p : Path) (n : Node) : Tree := ⟨assign p n t.entries⟩

def drop (t : Tree) (p : Path) : Tree := ⟨t.entries.filter fun e => e.1 ≠ p⟩

/-- The longest name, in bytes, that a directory takes. -/
def maxNameBytes : Nat := 255

/-- The longest path, in bytes, that can be asked for. -/
def maxPathBytes : Nat := 4095

/-- Follows names from the directory `here`. Where the last name leads need not exist. -/
def walk (t : Tree) (here : Path) : Path → Except Refusal Path
  | [] => .ok here
  | n :: rest =>
    match t.node? here with
    | none => .error .missing
    | some (.file _) => .error .notDirectory
    | some .directory =>
      if n = ".." then t.walk here.dropLast rest
      else if n = "" then t.walk here rest
      else if maxNameBytes < n.utf8ByteSize then .error .nameTooLong
      else t.walk (here ++ [n]) rest

/-- Follows a path from the root. The path as a whole is looked at before any name of it. -/
def follow (t : Tree) (p : Path) : Except Refusal Path :=
  match p.refusal? with
  | some r => .error r
  | none => if maxPathBytes < p.text.utf8ByteSize then .error .nameTooLong else t.walk [] p

/-- Where a path leads, and what lies there. -/
def find (t : Tree) (p : Path) : Except TreeError (Path × Option Node) :=
  match t.follow p with
  | .ok q => .ok (q, t.node? q)
  | .error r => .error ⟨r, p⟩

def read (t : Tree) (p : Path) : Except TreeError ByteArray :=
  match t.find p with
  | .error e => .error e
  | .ok (_, none) => .error ⟨.missing, p⟩
  | .ok (_, some .directory) => .error ⟨.isDirectory, p⟩
  | .ok (_, some (.file bytes)) => .ok bytes

/-- Makes a file or replaces its bytes. -/
def write (t : Tree) (p : Path) (bytes : ByteArray) : Except TreeError Tree :=
  match t.find p with
  | .error e => .error e
  | .ok (_, some .directory) => .error ⟨.isDirectory, p⟩
  | .ok (q, _) => .ok (t.put q (.file bytes))

def remove (t : Tree) (p : Path) : Except TreeError Tree :=
  match t.find p with
  | .error e => .error e
  | .ok (_, none) => .error ⟨.missing, p⟩
  | .ok (_, some .directory) => .error ⟨.isDirectory, p⟩
  | .ok (q, some (.file _)) => .ok (t.drop q)

def isDirectory (t : Tree) (p : Path) : Bool :=
  match t.find p with
  | .ok (_, some .directory) => true
  | _ => false

def isFile (t : Tree) (p : Path) : Bool :=
  match t.find p with
  | .ok (_, some (.file _)) => true
  | _ => false

/-- Whether something lies at the path. A name or a path that is too long is an error, not an
absence. -/
def exists? (t : Tree) (p : Path) : Except TreeError Bool :=
  match t.find p with
  | .ok (_, n) => .ok n.isSome
  | .error e => if e.refusal = .nameTooLong then .error e else .ok false

/-- Makes one directory whose parent exists. -/
def makeDirectory (t : Tree) (p : Path) : Except TreeError Tree :=
  match t.find p with
  | .error e => .error e
  | .ok (_, some _) => .error ⟨.alreadyThere, p⟩
  | .ok (q, none) => .ok (t.put q .directory)

/-- Makes a directory together with the directories above it that are missing. One that is there
already stays; anything else in its place is an error, and the directories made by then stay. The
first argument bounds the way up. -/
def ensureDirectoryFrom : Nat → Tree → Path → Except TreeError Unit × Tree
  | fuel, t, p =>
    match t.makeDirectory p with
    | .ok t' => (.ok (), t')
    | .error e =>
      if e.refusal = .missing then
        match fuel with
        | 0 => (.error e, t)
        | fuel + 1 =>
          if p = [] then (.error e, t)
          else
            match ensureDirectoryFrom fuel t p.dropLast with
            | (.error e', t') => (.error e', t')
            | (.ok (), t') =>
              match t'.makeDirectory p with
              | .ok t'' => (.ok (), t'')
              | .error e' =>
                if e'.refusal = .missing ∨ !t'.isDirectory p then (.error e', t') else (.ok (), t')
      else if t.isDirectory p then (.ok (), t) else (.error e, t)

def ensureDirectory (t : Tree) (p : Path) : Except TreeError Unit × Tree :=
  ensureDirectoryFrom (p.length + 1) t p

/-- The names in a directory, in the order of their code points. -/
def namesIn (t : Tree) (p : Path) : List String :=
  (t.entries.filterMap fun (q, _) => if q.dropLast = p then q.getLast? else none).mergeSort
    (fun a b => !Path.namePrecedes b a)

/-- The names in the directory that a path leads to, with what each stands for. -/
def list? (t : Tree) (p : Path) : Option (List (String × Node)) :=
  match t.find p with
  | .ok (q, some .directory) =>
    some ((t.namesIn q).filterMap fun n => (t.node? (q ++ [n])).map fun node => (n, node))
  | _ => none

/-- The length of the longest path, a bound for every walk downwards. -/
def depth (t : Tree) : Nat := (t.entries.map fun (p, _) => p.length).foldl max 0

theorem node?_put {t : Tree} {p : Path} (hp : p ≠ []) (n : Node) (q : Path) :
    (t.put p n).node? q = if q = p then some n else t.node? q := by
  unfold node? put
  by_cases hq : q = []
  · subst hq
    simp [Ne.symm hp]
  · simp only [hq, if_false, lookup_assign, beq_iff_eq]

theorem node?_drop {t : Tree} {p : Path} (hp : p ≠ []) (q : Path) :
    (t.drop p).node? q = if q = p then none else t.node? q := by
  unfold node? drop
  by_cases hq : q = []
  · subst hq
    simp [Ne.symm hp]
  · simp only [hq, if_false]
    induction t.entries with
    | nil => simp
    | cons e rest ih =>
      obtain ⟨k, v⟩ := e
      simp only [ne_eq, decide_not] at ih ⊢
      by_cases hk : k = p
      · subst hk
        by_cases h : q = k
        · simp only [h, if_true] at ih ⊢
          simpa using ih
        · have h' : (q == k) = false := by simpa using h
          simp only [h, if_false] at ih ⊢
          simp [List.lookup_cons, h', ih]
      · by_cases h : q = k
        · subst h
          simp [hk]
        · have h' : (q == k) = false := by simpa using h
          simp [hk, List.lookup_cons, h', ih]

end Tree

end Restyle
