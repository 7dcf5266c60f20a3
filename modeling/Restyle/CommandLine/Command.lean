import Restyle.CommandLine.Options
import Restyle.CommandLine.Stop

/-!
The commands and their arguments. Directories and files that a command works on have to be there,
and numbers have to be in range; arguments for which that fails are no command. Of several values
that do not fit, the one that was given first tells why.
-/
namespace Restyle.CommandLine

/-- An element as it is described in arguments. -/
structure ElementWords where
  tag : Option String
  id : Option String
  classes : Option String
  text : Option String
  deriving DecidableEq, Repr

inductive Command where
  | help
  | version
  | detect (workspace : Path) (json : Bool)
  | resolve (element : ElementWords) (descriptor : Option Path) (workspace : Path) (json : Bool)
  | hierarchy (workspace : Path) (json : Bool)
  | search (query : String) (frameworks : List String) (limit : Nat) (workspace : Path)
      (json : Bool)
  | apply (styles : List String) (element : ElementWords) (file : Option String)
      (line : Option Int) (strategy : Option String) (workspace : Path) (json : Bool)
  | rollback (file : String) (timestamp : Option Int) (workspace : Path) (json : Bool)
  | history (file : String) (workspace : Path) (json : Bool)
  | showSettings (workspace : Path)
  | setSetting (group key value : String)
  deriving DecidableEq, Repr

namespace Command

/-! ### Options -/

def helpOption : OptionSpec := flag "help" ["--help"]

def jsonOption : OptionSpec := flag "json" ["--json"]

def workspaceOption : OptionSpec := valued "workspace" ["--workspace", "-w"]

def elementOptions : List OptionSpec :=
  [valued "tag" ["--tag", "-t"], valued "id" ["--id"], valued "class" ["--class", "-c"]]

/-- The options before the command. -/
def generalOptions : List OptionSpec :=
  [helpOption, flag "version" ["--version", "-V"], flag "verbose" ["--verbose", "-v"]]

/-- The options of a command beside those that every one has. -/
def ownOptions : String → List OptionSpec
  | "detect" => [flag "refresh" ["--refresh"]]
  | "resolve" => elementOptions ++
      [valued "text" ["--text"], valued "descriptor" ["--descriptor", "-d"]]
  | "search" => [valued "framework" ["--framework", "-f"], valued "limit" ["--limit", "-n"]]
  | "apply" => elementOptions ++
      [valued "style" ["--style", "-s"], valued "file" ["--file"], valued "line" ["--line", "-l"],
        valued "strategy" ["--strategy"]]
  | "rollback" => [valued "timestamp" ["--timestamp"]]
  | _ => []

def optionsOf (name : String) : List OptionSpec :=
  helpOption :: jsonOption :: workspaceOption :: ownOptions name

/-! ### Values -/

/-- A path as text, without what does not count in it. -/
def pathText (s : String) : String :=
  let p := Path.names s
  if Path.isAbsolute s then p.text else if p.isEmpty then "." else p.slashed

/-- What lies at a path. A slash at the end asks for a directory. -/
def nodeAt (t : Tree) (here : Path) (s : String) : Option (Path × Node) :=
  if s.isEmpty then none
  else
    let p := here.join s
    match t.find p with
    | .ok (_, some (.file bytes)) =>
      if s.toList.getLast? = some '/' then none else some (p, .file bytes)
    | .ok (_, some .directory) => some (p, .directory)
    | _ => none

def directoryAt (t : Tree) (here : Path) (s : String) : Option Path :=
  match nodeAt t here s with
  | some (p, .directory) => some p
  | _ => none

def fileAt (t : Tree) (here : Path) (s : String) : Option Path :=
  match nodeAt t here s with
  | some (p, .file _) => some p
  | _ => none

def integer (s : String) : Option Int := Number.readInt? s.toList

/-- A whole number from one on. -/
def counting (s : String) : Option Int := (integer s).filter (1 ≤ ·)

def elementOf (g : Given) : ElementWords :=
  { tag := g.last? "tag", id := g.last? "id", classes := g.last? "class", text := g.last? "text" }

/-- A path that is looked for as soon as it is read. -/
def checkPath (here : Path) (s : String) : Except Stop Unit :=
  match (here.join s).checked with
  | .ok _ => .ok ()
  | .error f => .error (.fault f)

def require (fits : Bool) : Except Stop Unit := if fits then .ok () else .error (.usage none)

/-- Whether the value of an option fits. -/
def checkValue (t : Tree) (here : Path) (key value : String) : Except Stop Unit :=
  match key with
  | "workspace" => do
    checkPath here value
    require (directoryAt t here value).isSome
  | "descriptor" => do
    checkPath here value
    require (fileAt t here value).isSome
  | "file" => checkPath here value
  | "line" => require (counting value).isSome
  | "limit" => require (counting value).isSome
  | "timestamp" => require (integer value).isSome
  | _ => .ok ()

/-- Goes through the options as they were given. What counts is the last value of each. -/
def checkOptions (t : Tree) (here : Path) (g : Given) : Except Stop Unit :=
  g.options.forM fun (key, value) => checkValue t here key ((g.last? key).getD value)

/-- How many components a search shows unless told otherwise. -/
def defaultLimit : Nat := 20

/-- The file that a command takes as its first argument. -/
def fileArgument (here : Path) (g : Given) : Except Stop String :=
  match g.arguments with
  | [] => .error (.usage none)
  | file :: others => do
    checkPath here file
    require others.isEmpty
    return pathText file

/-- The command with a name. -/
def ofGiven (t : Tree) (here : Path) (name : String) (g : Given) : Except Stop Command := do
  checkOptions t here g
  let some workspace := directoryAt t here ((g.last? "workspace").getD ".")
    | throw (.usage none)
  let json := g.has "json"
  match name, g.arguments with
  | "detect", [] => return .detect workspace json
  | "resolve", [] =>
    let descriptor := (g.last? "descriptor").bind (fileAt t here)
    return .resolve (elementOf g) descriptor workspace json
  | "hierarchy", [] => return .hierarchy workspace json
  | "search", [query] =>
    let limit := (((g.last? "limit").bind counting).map Int.toNat).getD defaultLimit
    return .search query (g.all "framework") limit workspace json
  | "apply", [] =>
    let line := (g.last? "line").bind counting
    let file := (g.last? "file").map pathText
    let styles := g.all "style"
    require (!styles.isEmpty)
    return .apply styles (elementOf g) file line (g.last? "strategy") workspace json
  | "rollback", _ =>
    let timestamp := (g.last? "timestamp").bind integer
    return .rollback (← fileArgument here g) timestamp workspace json
  | "history", _ => return .history (← fileArgument here g) workspace json
  | _, _ => throw (.usage none)

def names : List String :=
  ["detect", "resolve", "hierarchy", "search", "apply", "rollback", "history"]

def reading (specs : List OptionSpec) (mixed : Bool) (args : List String) : Except Stop Given :=
  match read specs mixed args with
  | some g => .ok g
  | none => .error (.usage none)

/-- The commands on settings. -/
def ofSettingsArguments (t : Tree) (here : Path) : List String → Except Stop Command
  | "show" :: rest => do
    let g ← reading [helpOption, workspaceOption] true rest
    if g.has "help" then return .help
    checkOptions t here g
    match directoryAt t here ((g.last? "workspace").getD "."), g.arguments with
    | some workspace, [] => return .showSettings workspace
    | _, _ => throw (.usage none)
  | "set" :: rest => do
    let g ← reading [helpOption] true rest
    if g.has "help" then return .help
    match g.arguments with
    | [group, key, value] => return .setSetting group key value
    | _ => throw (.usage none)
  | _ => throw (.usage none)

def ofName (t : Tree) (here : Path) (name : String) (rest : List String) :
    Except Stop Command := do
  if name = "config" then
    let g ← reading [helpOption] false rest
    if g.has "help" || rest.isEmpty then return .help
    else ofSettingsArguments t here g.arguments
  else if names.contains name then
    let g ← reading (optionsOf name) true rest
    if g.has "help" then return .help else ofGiven t here name g
  else throw (.usage none)

/-- The command that arguments ask for, seen from the directory `here`. -/
def ofArguments (t : Tree) (here : Path) (args : List String) : Except Stop Command := do
  if args.isEmpty then return .help
  let g ← reading generalOptions false args
  match g.options.find? fun o => o.1 == "help" || o.1 == "version" with
  | some (key, _) => return if key == "help" then .help else .version
  | none =>
    match g.arguments with
    | [] => throw (.usage none)
    | name :: rest => ofName t here name rest

end Command

end Restyle.CommandLine
