import Restyle.Number.Reading
import Restyle.Settings.Basic

/-!
Arguments that make a command but ask for what cannot be done, and the reading of settings from
arguments.
-/
namespace Restyle.CommandLine

open Text Number

inductive Misuse where
  | noElement
  | unreadableDescriptor
  | badStyle (text : String)
  | fileOrLineAlone
  | badStrategy
  | unknownSection (name : String)
  | unknownSetting (key : String) (group : Section)
  | notAChoice (key : String) (words : List String)
  | notTruth (text : String)
  | notWhole (text : String)
  | notNumber (text : String)
  deriving DecidableEq, Repr

namespace Misuse

def message : Misuse → String
  | noElement => "Provide --tag or --descriptor."
  | unreadableDescriptor => "Could not read descriptor file"
  | badStyle text => "Style '" ++ text ++ "' must look like property=value."
  | fileOrLineAlone => "--file and --line must be given together."
  | badStrategy => "--strategy must be inline-style, css-class or auto."
  | unknownSection name =>
    "Unknown section '" ++ name ++ "'. Use: " ++
      ", ".intercalate [Section.resolution.name, Section.modification.name] ++ "."
  | unknownSetting key group => "Unknown setting '" ++ key ++ "' in [" ++ group.name ++ "]."
  | notAChoice key words => "'" ++ key ++ "' must be one of: " ++ ", ".intercalate words ++ "."
  | notTruth text => "Expected a boolean, got '" ++ text ++ "'."
  | notWhole text => "Expected an integer, got '" ++ text ++ "'."
  | notNumber text => "Expected a number, got '" ++ text ++ "'."

end Misuse

def wordsForTrue : List String := ["1", "true", "yes", "on"]

def wordsForFalse : List String := ["0", "false", "no", "off"]

/-- The parts between commas that say something. -/
def listOfText (s : String) : List String :=
  (((s.toList.splitOn ',').map trim).filter (!·.isEmpty)).map String.ofList

/-- A text as a value of the kind that a setting has. -/
def valueOfText (current : Value) (raw : String) : Except Misuse Value :=
  match current with
  | .bool _ =>
    let word := String.ofList (lower (trim raw.toList))
    if wordsForTrue.contains word then .ok (.bool true)
    else if wordsForFalse.contains word then .ok (.bool false)
    else .error (.notTruth raw)
  | .int _ =>
    match readInt? raw.toList with
    | some n => .ok (.int n)
    | none => .error (.notWhole raw)
  | .real _ =>
    match readReal? raw.toList with
    | some x => .ok (.real x)
    | none => .error (.notNumber raw)
  | .list _ => .ok (.list ((listOfText raw).map .str))
  | _ => .ok (.str raw)

/-- Names that a group of settings answers to although they are no settings. They can be set, and
nothing comes of it. -/
def inertNames : List String :=
  ["annotations", "class", "dataclass_fields", "dataclass_params", "delattr", "dict", "dir", "doc",
    "eq", "format", "ge", "getattribute", "getstate", "gt", "hash", "init", "init_subclass", "le",
    "lt", "match_args", "module", "ne", "new", "reduce", "reduce_ex", "repr", "setattr", "sizeof",
    "str", "subclasshook", "weakref"].map fun n => "__" ++ n ++ "__"

/-- The value that arguments give a setting of a group. -/
def settingOfText (group : Section) (key raw : String) : Except Misuse Value :=
  if (group.fields ++ inertNames).contains key then
    match Settings.choices key with
    | some words => if words.contains raw then .ok (.str raw) else .error (.notAChoice key words)
    | none => valueOfText (group.defaults.value key) raw
  else .error (.unknownSetting key group)

/-- A declaration as it is given: a property, an equals sign, a value. -/
def styleOfText (s : String) : Except Misuse (String × Value) :=
  match s.toList.span (· != '=') with
  | (property, _ :: value) =>
    if (trim property).isEmpty then .error (.badStyle s)
    else .ok (String.ofList (trim property), .str (String.ofList (trim value)))
  | _ => .error (.badStyle s)

end Restyle.CommandLine
