import Restyle.CommandLine.Command
import Restyle.Console.Table
import Restyle.Workspace.Results

/-!
Carrying out a command: what it prints, its exit code, and the tree that it leaves. Printed and
written things stay also when the command stops in the middle.
-/
namespace Restyle.CommandLine

open Console

/-- Where and when a command runs. -/
structure Site where
  /-- The directory that relative paths start from. -/
  here : Path
  /-- The settings file of the user. -/
  userFile : Path
  /-- What reads and writes settings files. -/
  toml : Toml.Library
  now : Clock
  /-- How many cells a line of the console has. -/
  width : Nat

/-- What a command works on: the files, and the lines printed until now. -/
structure Desk where
  tree : Tree
  out : List String

abbrev Run := ExceptT Stop (StateM Desk)

namespace Run

def tree : Run Tree := do return (← get).tree

def setTree (t : Tree) : Run Unit := modify fun d => { d with tree := t }

def printLines (ls : List String) : Run Unit := modify fun d => { d with out := d.out ++ ls }

def orStop : Except TagFault (List String) → Run Unit
  | .ok ls => printLines ls
  | .error .badTag => throw .badTag
  | .error .badColor => throw (.fault (.notInteger ""))

/-- Prints a text with tags. -/
def say (site : Site) (s : String) : Run Unit := orStop (textLines site.width s)

def sayTable (site : Site) (t : Table) : Run Unit := orStop (t.lines site.width)

def sayValue (v : Value) : Run Unit := printLines [v.toLines]

def ofFault {α : Type} : Except Fault α → Run α
  | .ok a => pure a
  | .error f => throw (.fault f)

def ofMisuse {α : Type} : Except Misuse α → Run α
  | .ok a => pure a
  | .error m => throw (.usage (some m))

/-- Opens a project. -/
def openAt (site : Site) (root : Path) (overrides : Value) : Run Workspace := do
  let (w, t) ← ofFault (Workspace.load site.toml (← tree) site.userFile root.resolve overrides)
  setTree t
  return w

end Run

open Run

/-! ### Looking up -/

def detect (site : Site) (root : Path) (json : Bool) : Run Nat := do
  let w ← openAt site root .null
  match (w.resolver.detect (← tree)).detected with
  | none =>
    say site "[red]✗ Workspace is not a directory.[/red]"
    return 1
  | some d =>
    if json then sayValue d.toValue
    else
      say site ("[bold]Framework:[/bold] [cyan]" ++ d.framework.name ++ "[/cyan] (" ++
        d.confidence.percent ++ " confidence)")
      if d.version.isTruthy then say site ("[bold]Version:[/bold] " ++ d.version.display)
      match d.buildTool with
      | some tool => say site ("[bold]Build tool:[/bold] " ++ tool)
      | none => pure ()
      d.evidence.forM fun e => say site ("  [dim]•[/dim] " ++ e)
    return 0

def ofWord : Option String → Value
  | some s => .str s
  | none => .null

/-- The element that arguments describe: by a file, or else by words. -/
def captureOf (e : ElementWords) (descriptor : Option Path) : Run Capture := do
  match descriptor with
  | some p =>
    match Component.readText (← tree) p with
    | .error _ => throw (.usage (some .unreadableDescriptor))
    | .ok s =>
      match Value.ofJson s.toList with
      | .error .malformed => throw (.usage (some .unreadableDescriptor))
      | .error (.tooDeep table) => throw (.fault (.nestedTooDeep table))
      | .ok v => ofFault (Capture.ofPayload v)
  | none =>
    match e.tag with
    | none => throw (.usage (some .noElement))
    | some "" => throw (.usage (some .noElement))
    | some tag =>
      return {
        tag := .str tag, id := ofWord e.id, classes := ofWord e.classes, text := ofWord e.text
        attributes := [], parent := none }

def sourceTable (s : SourceInfo) : Table :=
  let matched := if s.details.rules.isEmpty then []
    else [["Matched", ", ".intercalate (s.details.rules.map (·.name))]]
  { title := "Element Source"
    header := none
    onRight := []
    rows :=
      [["Location", s.text], ["Component", s.component], ["Framework", s.framework.name],
        ["Type", s.kind.name], ["Confidence", s.confidence.twoPlaces]] ++ matched }

def resolve (site : Site) (e : ElementWords) (descriptor : Option Path) (root : Path)
    (json : Bool) : Run Nat := do
  let c ← captureOf e descriptor
  let w ← openAt site root .null
  match (w.resolver.findCapture (← tree) site.now c).1 with
  | none =>
    if json then sayValue .null
    else say site "[yellow]Could not locate source for this element.[/yellow]"
    return 1
  | some s =>
    if json then sayValue s.toValue else sayTable site (sourceTable s)
    return 0

mutual

def branchOf (h : Component.Hierarchy) : Component.Outline → Branch
  | .node name children =>
    .node ("[cyan]" ++ name ++ "[/cyan] [dim]" ++ (h.pathOf name).text ++ "[/dim]")
      (branchesOf h children)

def branchesOf (h : Component.Hierarchy) : List Component.Outline → List Branch
  | [] => []
  | o :: rest => branchOf h o :: branchesOf h rest

end

/-- The branches hang on each other by calls of which one nests for each component. -/
def branchesBelow (h : Component.Hierarchy) : Except Fault Branch :=
  let o := h.graph.outline h.root
  if o.height ≤ maxCalls then .ok (branchOf h o) else .error .callsTooDeep

def hierarchy (site : Site) (root : Path) (json : Bool) : Run Nat := do
  let w ← openAt site root .null
  match (w.resolver.hierarchy (← tree) site.now).1 with
  | none =>
    say site "[yellow]No component hierarchy found.[/yellow]"
    return 1
  | some h =>
    if json then sayValue (← ofFault h.toValue)
    else
      let b ← ofFault (branchesBelow h)
      orStop (b.lines site.width)
    return 0

def searchTable (query : String) (found : List Component.Found) : Table :=
  { title := "Components matching '" ++ query ++ "'"
    header := some ["Component", "Match", "Confidence", "Location"]
    onRight := [2]
    rows := found.map fun m =>
      [m.name, m.fit.word, m.confidence.twoPlaces, m.path.text ++ ":" ++ toString m.line] }

def search (site : Site) (query : String) (frameworks : List String) (limit : Nat) (root : Path)
    (json : Bool) : Run Nat := do
  let w ← openAt site root .null
  let options : Value := if frameworks.isEmpty then .null
    else .table [("frameworks", .ofTexts frameworks)]
  let found := (w.resolver.search (← tree) (.str query) options).1.take limit
  if json then sayValue (.list (found.map (·.toValue)))
  else if found.isEmpty then say site ("[yellow]No components matching '" ++ query ++ "'.[/yellow]")
  else sayTable site (searchTable query found)
  return 0

/-! ### Editing -/

def strategies : List String := ["inline-style", "css-class", "auto"]

def changeOf (e : ElementWords) (styles : List (String × Value)) (file : Option String)
    (line : Option Int) : Change :=
  { selector := .str (e.tag.getD "")
    styles := Key.ofTexts (ofPairs styles)
    id := ofWord e.id
    classes := ofWord e.classes
    tag := ofWord e.tag
    source := file.map fun f =>
      { file := .str f, line := line.getD 0, column := 1, component := .str "Unknown" } }

def sayReport (site : Site) (r : EditReport) : Run Unit := do
  match r.problem? with
  | none =>
    say site ("[green]✓[/green] " ++ r.text)
    r.modifiedFiles.forM fun p => say site ("  [dim]modified[/dim] " ++ p)
    r.backupFiles.forM fun p => say site ("  [dim]backup[/dim]   " ++ p)
  | some p => say site ("[red]✗ " ++ p.message ++ "[/red] [dim](" ++ p.code ++ ")[/dim]")
  r.conflicts.forM fun c => say site ("[yellow]⚠ " ++ c.description ++ ":[/yellow] " ++ c.path.text)

def apply (site : Site) (styles : List String) (e : ElementWords) (file : Option String)
    (line : Option Int) (strategy : Option String) (root : Path) (json : Bool) : Run Nat := do
  if file.isNone != line.isNone then throw (.usage (some .fileOrLineAlone))
  if strategy.any fun s => !strategies.contains s then throw (.usage (some .badStrategy))
  let overrides : Value := match strategy with
    | some s => .table [("modification", .table [("preferred_update_method", .str s)])]
    | none => .null
  let w ← openAt site root overrides
  let styles ← ofMisuse (styles.mapM styleOfText)
  let (r, _, t) := w.applyChange (← tree) site.now (changeOf e styles file line)
  setTree t
  if json then sayValue r.toValue else sayReport site r
  return if r.problem?.isNone then 0 else 1

def rollback (site : Site) (file : String) (timestamp : Option Int) (root : Path) (json : Bool) :
    Run Nat := do
  let w ← openAt site root .null
  let (restored, _, t) ←
    ofFault (w.editor.rollback (← tree) site.now (.str file) (timestamp.map .int))
  setTree t
  if json then sayValue (.table [("file", .str file), ("restored", .bool restored)])
  else if restored then say site ("[green]✓[/green] Restored " ++ file)
  else say site ("[red]✗ No backup to restore for " ++ file ++ "[/red]")
  return if restored then 0 else 1

/-- A field of a record as a cell. -/
def cellOf : Value → Option String
  | .str s => some s
  | .null => some ""
  | _ => none

def historyRow (e : BackupEntry) : Option (List String) :=
  ([.str (toString e.timestamp), e.hash, e.reason, e.copy] : List Value).mapM cellOf

def historyTable (file : String) (rows : List (List String)) : Table :=
  { title := "Backups of " ++ file
    header := some ["Timestamp", "Hash", "Reason", "Backup"]
    onRight := []
    rows }

def history (site : Site) (file : String) (root : Path) (json : Bool) : Run Nat := do
  let w ← openAt site root .null
  let entries ← ofFault (w.editor.history (.str file))
  if json then sayValue (.list (entries.map (·.toValue)))
  else if entries.isEmpty then say site ("[yellow]No backups for " ++ file ++ ".[/yellow]")
  else
    match entries.reverse.mapM historyRow with
    | none => throw .notText
    | some rows => sayTable site (historyTable file rows)
  return 0

/-! ### Settings -/

/-- The value of a setting as a cell. -/
def settingCell : Value → Except Fault String
  | .null => .ok "[dim](not set)[/dim]"
  | .moment m =>
    if m.hasText then .ok (Value.moment m).display else .error (.badSettings .badOffset)
  | v => .ok v.display

def settingsTable (s : Section) (values : Settings) : Except Fault Table := do
  let rows ← values.mapM fun (k, v) => do return [k, ← settingCell v]
  return {
    title := "[" ++ s.name ++ "]", header := some ["Setting", "Value"], onRight := [], rows }

def showSettings (site : Site) (root : Path) : Run Nat := do
  let s ← ofFault (Settings.load site.toml (← tree) site.userFile (some root.resolve) .null)
  sayTable site (← ofFault (settingsTable .resolution s.resolution))
  sayTable site (← ofFault (settingsTable .modification s.modification))
  say site ("[dim]Global config:    " ++ site.userFile.text ++ "[/dim]")
  let file := root.resolve ++ [Settings.projectFileName]
  say site ("[dim]Workspace config: " ++ file.text ++ "[/dim]")
  return 0

def setSetting (site : Site) (group key raw : String) : Run Nat := do
  match Section.ofName? group with
  | none => throw (.usage (some (.unknownSection group)))
  | some s =>
    let v ← ofMisuse (settingOfText s key raw)
    let (saved, t) := Settings.save site.toml (← tree) site.userFile s [(key, v)]
    setTree t
    if ← ofFault saved then
      say site ("[green]✓[/green] " ++ s.name ++ "." ++ key ++ " = " ++ String.ofList v.nested)
      return 0
    else
      say site ("[red]✗ Could not write " ++ site.userFile.text ++ "[/red]")
      return 1

/-- Where the settings of a project put files that need not lie below it. -/
def placesOf (site : Site) (t : Tree) (root : Path) : List Path :=
  match Settings.load site.toml t site.userFile (some root.resolve) .null with
  | .error _ => []
  | .ok s =>
    [s.modification.word "backup_directory", s.modification.word "class_stylesheet"].map
      root.resolve.join

/-! ### Commands -/

def versionLine : String := "SourceLens v0.4.0"

def helpLine : String :=
  "Commands: " ++ ", ".intercalate (Command.names ++ ["config show", "config set"]) ++ "."

/-- Carries out a command and gives its exit code. -/
def run (site : Site) : Command → Run Nat
  | .help => do
    printLines [helpLine]
    return 0
  | .version => do
    printLines [versionLine]
    return 0
  | .detect root json => detect site root json
  | .resolve e descriptor root json => resolve site e descriptor root json
  | .hierarchy root json => hierarchy site root json
  | .search query frameworks limit root json => search site query frameworks limit root json
  | .apply styles e file line strategy root json => apply site styles e file line strategy root json
  | .rollback file timestamp root json => rollback site file timestamp root json
  | .history file root json => history site file root json
  | .showSettings root => showSettings site root
  | .setSetting group key value => setSetting site group key value

/-- How a command came out. -/
structure Reply where
  exit : Nat
  out : List String
  stop : Option Stop
  tree : Tree

/-- Carries out the command that the arguments ask for. -/
def reply (site : Site) (t : Tree) (args : List String) : Reply :=
  match Command.ofArguments t site.here args with
  | .error s => { exit := s.exit, out := [], stop := some s, tree := t }
  | .ok c =>
    match (run site c).run { tree := t, out := [] } with
    | (.ok exit, d) => { exit, out := d.out, stop := none, tree := d.tree }
    | (.error s, d) => { exit := s.exit, out := d.out, stop := some s, tree := d.tree }

end Restyle.CommandLine
