import Restyle.Value.Reading
import Restyle.Value.Display
import Restyle.Text.Case
import Restyle.Tree.Discovery

/-!
The settings of the two services. A setting keeps the value it was given, of whatever kind; what
the value means is settled where it is used.
-/
namespace Restyle

open Number Text

/-- The two groups of settings. -/
inductive Section where
  | resolution | modification
  deriving DecidableEq, Repr

/-- Settings by name, in a fixed order. -/
abbrev Settings := List (String × Value)

namespace Section

def name : Section → String
  | resolution => "resolution"
  | modification => "modification"

def ofName? : String → Option Section
  | "resolution" => some resolution
  | "modification" => some modification
  | _ => none

def ofName (name : String) : Except Fault Section :=
  match ofName? name with
  | some s => .ok s
  | none => .error (.unknownSection name)

def defaults : Section → Settings
  | resolution =>
    [("cache_results", .bool true), ("cache_ttl", .real (.finite 300)),
      ("max_cache_size", .int 100), ("search_mode", .str "first-match"),
      ("exclude_patterns", .list [.str "node_modules", .str ".git", .str "dist", .str "build"]),
      ("max_depth", .int 10), ("debug_mode", .bool false)]
  | modification =>
    [("enable_backups", .bool true), ("backup_directory", .str ".sourcelens-backups"),
      ("max_backups", .int 10), ("auto_cleanup_days", .real (.finite 7)),
      ("preferred_update_method", .str "auto"), ("enable_live_reload", .bool true),
      ("conflict_resolution", .str "ask-user"), ("class_stylesheet", .null)]

def fields (s : Section) : List String := s.defaults.map (·.1)

end Section

namespace Settings

/-- The value of a setting. -/
def value (s : Settings) (name : String) : Value := (s.lookup name).getD .null

/-- The words that a setting may be, where only some are allowed. -/
def choices : String → Option (List String)
  | "search_mode" => some ["first-match", "best-match"]
  | "preferred_update_method" => some ["inline-style", "css-class", "auto"]
  | "conflict_resolution" => some ["ask-user", "auto-merge", "cancel"]
  | _ => none

def allowed (name : String) (v : Value) : Bool :=
  match choices name with
  | none => true
  | some words =>
    match v with
    | .str s => words.contains s
    | _ => false

def isBoundary (c : Char) : Bool := c.isLower || c.isDigit

/-- An underscore before each capital that follows a small letter or a digit. -/
def splitHumps (prev : Option Char) : List Char → List Char
  | [] => []
  | c :: rest =>
    if c.isUpper && (prev.map isBoundary).getD false then '_' :: c :: splitHumps (some c) rest
    else c :: splitHumps (some c) rest

/-- The name of a setting in small letters with underscores. -/
def snakeCase (key : String) : String := String.ofList (lower (splitHumps none key.toList))

/-- The entries that name one of the fields, by their names. -/
def known (fields : List String) (values : List (String × Value)) : List (String × Value) :=
  ofPairs ((values.map fun (k, v) => (snakeCase k, v)).filter fun (k, _) => fields.contains k)

/-- The entries that may be taken over. -/
def accepted (fields : List String) (values : List (String × Value)) : List (String × Value) :=
  (known fields values).filter fun (k, v) => allowed k v

/-- Puts the accepted values over the settings. -/
def apply (s : Settings) (values : List (String × Value)) : Settings :=
  (accepted (s.map (·.1)) values).foldl (fun s (k, v) => assign k v s) s

/-- The settings that have a value, for a settings file. -/
def toTable (s : Settings) : List (String × Value) := s.filter fun (_, v) =>
  match v with
  | .null => false
  | _ => true

/-! ### What the settings mean -/

def isOn (s : Settings) (name : String) : Bool := (s.value name).isTruthy

/-- The word of a setting, or the empty word. -/
def word (s : Settings) (name : String) : String :=
  match s.value name with
  | .str w => w
  | _ => ""

/-- The depth limit, compared with by `left > right`. -/
def depthLimit (v : Value) : Except Fault DepthLimit :=
  match v.toBinary? with
  | some (.finite q) => .ok (.atMost q.floor)
  | some .negativeZero => .ok (.atMost 0)
  | some (.infinite true) => .ok (.atMost (-1))
  | some _ => .ok .unlimited
  | none => .error (.notOrdered ">" "int" v.kind)

end Settings

end Restyle
