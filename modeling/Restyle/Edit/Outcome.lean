import Restyle.Backup.Store
import Restyle.Edit.Plan

/-!
Carrying out a plan. Every file that is there is copied into the store of backups before the first
one is written. If the file system does not take the stylesheet the source gets its old text back.
A text that has no bytes is found when its file is open already, and leaves that file empty.
-/
namespace Restyle

/-- A file that an edit wrote, with its text before and after. -/
structure Modification where
  path : Path
  before : String
  after : String
  method : Style.Method
  timestamp : Int
  /-- The copy of the file as it was before, if it was there. -/
  backup : Option String
  deriving DecidableEq, Repr

/-- What an edit did. -/
structure Edited where
  modifications : List Modification
  styles : Style.Declarations

namespace Edited

def backups (e : Edited) : List String := e.modifications.filterMap (·.backup)

def text (e : Edited) : String :=
  "Applied " ++ toString e.styles.length ++ " style(s) to " ++ toString e.modifications.length ++
    " file(s)"

end Edited

namespace Plan

/-- The reasons that are recorded with backups. -/
def sourceReason (f : Framework) : String := f.name ++ " style modification"

def sheetReason : String := "Dynamic class stylesheet"

def sourceModification (p : Plan) (now : Clock) (backup : BackupEntry) : Modification :=
  { path := p.source, before := p.before, after := p.after, method := p.method
    timestamp := now.millis, backup := backup.copy.toStr? }

def sheetModification (s : SheetPlan) (now : Clock) (backup : Option BackupEntry) :
    Modification :=
  { path := s.path, before := s.current.getD "", after := s.content, method := .byClass
    timestamp := now.millis, backup := backup.bind (·.copy.toStr?) }

/-- The stylesheet that the plan changes, if it is there now. -/
def sheetToCopy (p : Plan) : Option Path := (p.sheet.filter (·.current.isSome)).map (·.path)

/-- Copies the stylesheet if it is there. -/
def backupSheet (p : Plan) (b : Backups) (t : Tree) (now : Readings) :
    Except Problem (Option BackupEntry) × Backups × Tree :=
  match p.sheetToCopy with
  | none => (.ok none, b, t)
  | some path =>
    match b.create t now path sheetReason with
    | (.error e, b, t) => (.error e, b, t)
    | (.ok e, b, t) => (.ok (some e), b, t)

/-- Opens a file for a text and writes that. -/
def writeText (t : Tree) (p : Path) (s : String) : Except Fault Unit × Tree :=
  match t.write p ByteArray.empty with
  | .error e => (.error (.tree e), t)
  | .ok opened =>
    match Text.encode s with
    | .error f => (.error (.unencodable f), opened)
    | .ok bytes => (.ok (), opened.write p bytes |>.toOption.getD opened)

/-- Writes the stylesheet, making the directories above it. -/
def writeSheet (t : Tree) (s : SheetPlan) : Except Fault Unit × Tree :=
  match t.ensureDirectory s.path.dropLast with
  | (.error e, t) => (.error (.tree e), t)
  | (.ok (), t) => writeText t s.path s.content

/-- Writes the files of the plan. If the file system refuses the stylesheet the source is as it was
before. -/
def write (t : Tree) (p : Plan) : Except Fault Unit × Tree :=
  match writeText t p.source p.after with
  | (.error f, t) => (.error f, t)
  | (.ok (), written) =>
    match p.sheet with
    | none => (.ok (), written)
    | some s =>
      match writeSheet written s with
      | (.ok (), t) => (.ok (), t)
      | (.error f, t) =>
        if f.liesInFile then
          match writeText t p.source p.before with
          | (.ok (), t) => (.error f, t)
          | (.error f', t) => (.error f', t)
        else (.error f, t)

/-- Makes the backups and writes the files. -/
def carryOut (p : Plan) (f : Framework) (b : Backups) (t : Tree) (now : Readings)
    (styles : Style.Declarations) : Except Problem Edited × Backups × Tree :=
  match b.create t now p.source (sourceReason f) with
  | (.error e, b, t) => (.error e, b, t)
  | (.ok copy, b, t) =>
    match p.backupSheet b t now with
    | (.error e, b, t) => (.error e, b, t)
    | (.ok sheetCopy, b, t) =>
      match p.write t with
      | (.error f, t) => (.error (.fault f), b, t)
      | (.ok (), t) =>
        let sheets := p.sheet.toList.map fun s => sheetModification s now.stamp sheetCopy
        (.ok { modifications := p.sourceModification now.stamp copy :: sheets, styles }, b, t)

end Plan

namespace Change

/-- Whether styles can be changed in projects of this kind. -/
def isSupported (f : Framework) : Bool := f = .react

/-- Plans the change of an element in a file and carries it out. -/
def edit (c : Change) (f : Framework) (method : Option Style.Method) (sheet : Value) (file : Path)
    (line : Int) (b : Backups) (t : Tree) (now : Readings) :
    Except Problem Edited × Backups × Tree :=
  match Plan.make t b.root sheet method c file line with
  | .error p => (.error p, b, t)
  | .ok plan => plan.carryOut f b t now c.styles

/-- Changes the element at the place that the request names, seen from the project's directory. -/
def editThere (c : Change) (f : Framework) (method : Option Style.Method) (sheet : Value)
    (b : Backups) (t : Tree) (now : Readings) : Except Problem Edited × Backups × Tree :=
  match c.source with
  | none => (.error (.sourceRequired f.name), b, t)
  | some l =>
    match l.file with
    | .str file => c.edit f method sheet (b.root.join file) l.line b t now
    | v => (.error (.fault (.notJoinable v.kind)), b, t)

end Change

end Restyle
