import Restyle.Tree.Basic
import Restyle.Text.Encoding
import Restyle.Value.Json
import Restyle.Toml.Defect

/-!
What can go wrong. A fault lies in the data that was handed in or in the file system; a problem is
what an edit reports, one of its own reasons or a fault that it met.
-/
namespace Restyle

open Text

/-- How many calls may nest where work calls itself for what lies below: as many as where nested
values are read. -/
def maxCalls : Nat := Value.maxNesting

inductive Fault where
  /-- A required key is absent. -/
  | missingKey (key : String)
  | unknownSection (name : String)
  /-- A value has no such member. -/
  | noMember (kind member : String)
  /-- A text is needed to look for. -/
  | notText (kind : String)
  | notNumeric (kind : String)
  | notInteger (text : String)
  /-- A whole number is too long to be read. -/
  | tooManyDigits (count : Nat)
  | infiniteInteger
  | nanInteger
  | notIterable (kind : String)
  /-- A value of this kind contains nothing. -/
  | notContainer (kind : String)
  /-- An item that should be a pair has another length. -/
  | notPair (index length : Nat)
  | notSequence (index : Nat)
  /-- A value of this kind cannot be a key. -/
  | noKey (kind : String)
  | notOrdered (sign left right : String)
  | notPath (kind : String)
  /-- Paths are joined from texts only. -/
  | notJoinable (kind : String)
  /-- A value of this kind has no fields. -/
  | notIndexable (kind : String)
  /-- Numbers and other values do not go together under an operation. -/
  | notCombinable (sign left right : String)
  | badSlice
  | undecodable (fault : DecodingFault)
  | unencodable (fault : EncodingFault)
  /-- Lists and tables lie too deep in each other; the last of them is a table or a list. -/
  | nestedTooDeep (table : Bool)
  /-- Directories or components lie too deep in each other for calls that go down step by step. -/
  | callsTooDeep
  /-- A settings file cannot be read to its end, or values cannot be written to one. -/
  | badSettings (defect : Toml.Defect)
  | tree (error : TreeError)
  deriving DecidableEq, Repr

namespace Fault

def message : Fault → String
  | missingKey key => String.ofList (Value.quoted key)
  | unknownSection name => "Unknown config section: " ++ name
  | noMember kind member => "'" ++ kind ++ "' object has no attribute '" ++ member ++ "'"
  | notText kind => "decoding to str: need a bytes-like object, " ++ kind ++ " found"
  | notNumeric kind =>
    "int() argument must be a string, a bytes-like object or a real number, not '" ++ kind ++ "'"
  | notInteger text =>
    "invalid literal for int() with base 10: " ++ String.ofList ((Value.quoted text).take 200)
  | tooManyDigits count =>
    "Exceeds the limit (4300 digits) for integer string conversion: value has " ++
      toString count ++ " digits; use sys.set_int_max_str_digits() to increase the limit"
  | infiniteInteger => "cannot convert float infinity to integer"
  | nanInteger => "cannot convert float NaN to integer"
  | notIterable kind => "'" ++ kind ++ "' object is not iterable"
  | notContainer kind => "argument of type '" ++ kind ++ "' is not iterable"
  | notPair index length => "dictionary update sequence element #" ++ toString index ++
      " has length " ++ toString length ++ "; 2 is required"
  | notSequence index =>
    "cannot convert dictionary update sequence element #" ++ toString index ++ " to a sequence"
  | noKey kind => "unhashable type: '" ++ kind ++ "'"
  | notOrdered sign left right => "'" ++ sign ++ "' not supported between instances of '" ++ left ++
      "' and '" ++ right ++ "'"
  | notPath kind => "expected str, bytes or os.PathLike object, not " ++ kind
  | notJoinable kind =>
    "unsupported operand type(s) for /: 'PosixPath' and '" ++ kind ++ "'"
  | notIndexable kind => "'" ++ kind ++ "' object is not subscriptable"
  | notCombinable sign left right => "unsupported operand type(s) for " ++ sign ++ ": '" ++ left ++
      "' and '" ++ right ++ "'"
  | badSlice => "slice indices must be integers or None or have an __index__ method"
  | undecodable fault => fault.message
  | unencodable fault => fault.message
  | nestedTooDeep table => "maximum recursion depth exceeded while decoding a JSON " ++
      (if table then "object" else "array") ++ " from a unicode string"
  | callsTooDeep => "maximum recursion depth exceeded"
  | badSettings defect => defect.message
  | tree error => error.message

/-- Whether the fault lies in a file and not in what was handed in. -/
def liesInFile : Fault → Bool
  | tree e => !e.refusal.isOfText
  | undecodable _ => true
  | _ => false

end Fault

/-- The path itself, unless nothing can be asked of it. -/
def Path.checked (p : Path) : Except Fault Path :=
  match p.refusal? with
  | some r => .error (.tree ⟨r, p⟩)
  | none => .ok p

/-- Why an edit, a backup or a rollback was not done. -/
inductive Problem where
  | noSource
  | sourceRequired (framework : String)
  | lineOutOfRange (line : Int) (count : Nat)
  | elementNotFound (tag : String) (line : Int)
  | styleNotChangeable (line : Nat)
  | classNotChangeable (line : Nat)
  | unsupported (framework : String)
  | cancelled
  | backupsDisabled
  | backupsUnavailable (directory : Path)
  | backupFailed (file : Path) (cause : TreeError)
  | noBackups (file : String)
  | noSuchBackup (timestamp : String)
  | fault (fault : Fault)
  deriving DecidableEq, Repr

namespace Problem

/-- A stable word for the kind of problem. -/
def code : Problem → String
  | noSource => "no-source-match"
  | sourceRequired _ => "no-source-match"
  | lineOutOfRange _ _ => "out-of-range-line"
  | elementNotFound _ _ => "element-not-found"
  | styleNotChangeable _ => "element-not-found"
  | classNotChangeable _ => "element-not-found"
  | unsupported _ => "unsupported-framework"
  | cancelled => "conflict-detected"
  | backupsDisabled => "backup-disabled"
  | backupsUnavailable _ => "backup-write-failure"
  | backupFailed _ _ => "backup-write-failure"
  | noBackups _ => "rollback-not-found"
  | noSuchBackup _ => "rollback-not-found"
  | fault _ => "unknown-error"

def message : Problem → String
  | noSource => "Could not find source location for element"
  | sourceRequired framework =>
    "Source information is required for " ++ framework ++ " modifications"
  | lineOutOfRange line count => "Target line " ++ toString line ++ " is out of range (file has " ++
      toString count ++ " lines)"
  | elementNotFound tag line =>
    "Could not find <" ++ tag ++ "> element on line " ++ toString line
  | styleNotChangeable line => "Could not rewrite the style attribute on line " ++ toString line
  | classNotChangeable line => "Could not rewrite className expression on line " ++ toString line
  | unsupported framework =>
    "Style modification is not supported for " ++ framework ++ " projects"
  | cancelled => "Conflicts detected and resolution policy is 'cancel'"
  | backupsDisabled => "Backups are disabled"
  | backupsUnavailable directory =>
    "Backup directory " ++ directory.text ++ " is not writable; mutation unavailable"
  | backupFailed file cause =>
    "Failed to create backup for " ++ file.text ++ ": " ++ cause.message
  | noBackups file => "No backups found for " ++ file
  | noSuchBackup timestamp => "Backup not found for timestamp " ++ timestamp
  | fault f => f.message

/-- Whether an edit reports the problem. Of faults it reports those that lie in files; others stop
the work. -/
def isReported : Problem → Bool
  | fault f => f.liesInFile
  | _ => true

end Problem

end Restyle
