import Restyle.Component.Name
import Restyle.Tree.Discovery
import Restyle.Value.Reading
import Restyle.Value.Json
import Restyle.Confidence

/-!
Telling the framework of a project from its package file and from what lies on disk. Signals add up
for each framework; the strongest one wins if it is strong enough, else the endings of the files
decide.
-/
namespace Restyle

open Component Text

/-- What was found out, with the signs that led to it. -/
structure Detection where
  framework : Framework
  confidence : Confidence
  evidence : List String
  version : Value
  buildTool : Option String

namespace Detection

/-- A sign for a framework: its weight in tenths, its wording, and the build tool it shows. -/
structure Signal where
  present : Bool
  weight : Nat
  wording : String
  buildTool : Option String

def signal (present : Bool) (weight : Nat) (wording : String) : Signal :=
  ⟨present, weight, wording, none⟩

def toolSignal (present : Bool) (weight : Nat) (wording tool : String) : Signal :=
  ⟨present, weight, wording, some tool⟩

/-- The last tool that a present sign shows. -/
def toolOf (signals : List Signal) : Option String :=
  ((signals.filter (·.present)).filterMap (·.buildTool)).getLast?

def ofSignals (f : Framework) (version : Value) (signals : List Signal) : Detection :=
  let present := signals.filter (·.present)
  { framework := f
    confidence := .ofTenths ((present.map (·.weight)).foldr (· + ·) 0)
    evidence := present.map (·.wording)
    version
    buildTool := toolOf signals }

abbrev Dependencies := List (Key × Value)

def depends (deps : Dependencies) (name : String) : Bool := (deps.lookup (.text name)).isSome

def versionOf (deps : Dependencies) (name : String) : Value := (deps.lookup (.text name)).getD .null

def hasFiles (t : Tree) (root : Path) (endings : List String) : Bool :=
  t.hasEnding root endings Tree.endingDepth

def fileExists (t : Tree) (root : Path) (names : List String) : Bool :=
  names.any fun n => (t.find (root ++ [n])).toOption.any (·.2.isSome)

/-- Whether one of the configuration files of the build tool has one of the marks. A file that is
missing is passed over, one that is no text is a fault. -/
def configMentions (t : Tree) (root : Path) (marks : List String) :
    List String → Except Fault Bool
  | [] => .ok false
  | n :: rest =>
    match readText t (root ++ [n]) with
    | .error (.tree _) => configMentions t root marks rest
    | .error f => .error f
    | .ok content =>
      if marks.any fun m => occursIn m.toList content.toList then .ok true
      else configMentions t root marks rest

def scriptEndings : List String := [".jsx", ".tsx"]

/-- The start command of the package, as a text. -/
def startScript (package : Value) : Except Fault String :=
  let scripts := (package.get "scripts").orElse (.table [])
  match scripts with
  | .table _ => .ok (if scripts.has "start" then (scripts.get "start").display else "")
  | v => .error (.noMember v.kind "get")

def detectReact (t : Tree) (root : Path) (package : Value) (deps : Dependencies) :
    Except Fault Detection := do
  let start ← startScript package
  let configured ← configMentions t root ["@vitejs/plugin-react", "react()"]
    ["vite.config.js", "vite.config.ts"]
  return ofSignals .react (versionOf deps "react")
    [signal (depends deps "react") 4 "React found in dependencies",
      signal (depends deps "react-dom") 2 "React DOM found in dependencies",
      toolSignal (depends deps "next") 3 "Next.js found in dependencies" "next",
      toolSignal (depends deps "create-react-app" ||
          occursIn "react-scripts".toList start.toList)
        2 "Create React App detected" "webpack",
      signal (depends deps "@types/react") 1 "React TypeScript types found",
      signal (hasFiles t root scriptEndings) 2 "JSX/TSX files found",
      toolSignal configured 2 "Vite React configuration found" "vite"]

def detectVue (t : Tree) (root : Path) (deps : Dependencies) : Detection :=
  let d := ofSignals .vue (versionOf deps "vue")
    [signal (depends deps "vue") 4 "Vue found in dependencies",
      toolSignal (depends deps "nuxt") 4 "Nuxt.js found in dependencies" "nuxt",
      toolSignal (depends deps "@vue/cli-service") 2 "Vue CLI detected" "webpack",
      signal (hasFiles t root [".vue"]) 3 "Vue single file components found",
      signal (fileExists t root ["nuxt.config.js", "nuxt.config.ts"]) 2 "Nuxt configuration found"]
  if d.buildTool.isNone && depends deps "@vitejs/plugin-vue" then
    { d with buildTool := some "vite" }
  else d

def detectAngular (t : Tree) (root : Path) (deps : Dependencies) : Detection :=
  ofSignals .angular (versionOf deps "@angular/core")
    [signal (depends deps "@angular/core") 4 "Angular core found in dependencies",
      toolSignal (depends deps "@angular/cli") 2 "Angular CLI found in dependencies" "angular-cli",
      signal (fileExists t root ["angular.json"]) 3 "Angular configuration found",
      signal (hasFiles t root [".component.ts"]) 2 "Angular component files found"]

/-- How sure the endings of files make, and how sure nothing at all makes. -/
def endingConfidence : Confidence := ⟨6000⟩

def defaultConfidence : Confidence := ⟨3000⟩

def failureConfidence : Confidence := ⟨1000⟩

/-- The least confidence that the package file must give. -/
def leastConfidence : Confidence := ⟨3000⟩

def plain (f : Framework) (c : Confidence) (wording : String) : Detection :=
  { framework := f, confidence := c, evidence := [wording], version := .null, buildTool := none }

/-- The framework that the endings of files show. -/
def ofEndings (t : Tree) (root : Path) : Detection :=
  if hasFiles t root scriptEndings then
    plain .react endingConfidence "JSX/TSX files found in file system"
  else if hasFiles t root [".vue"] then
    plain .vue endingConfidence "Vue files found in file system"
  else if hasFiles t root [".component.ts"] then
    plain .angular endingConfidence "Angular component files found in file system"
  else plain .html defaultConfidence "No specific framework files found, defaulting to HTML"

/-- The package file, if it is a table. -/
def package? (t : Tree) (root : Path) : Except Fault (Option Value) :=
  match readText t (root ++ ["package.json"]) with
  | .error _ => .ok none
  | .ok s =>
    match Value.ofJson s.toList with
    | .ok (.table fields) => .ok (some (.table fields))
    | .error (.tooDeep table) => .error (.nestedTooDeep table)
    | _ => .ok none

/-- The first of the strongest. -/
def strongest (best : Detection) (others : List Detection) : Detection :=
  others.foldl (fun best d => if best.confidence < d.confidence then d else best) best

/-- What the package says it depends on, for use and for development. -/
def dependencies (package : Value) : Except Fault Dependencies := do
  let used ← ((package.get "dependencies").orElse (.table [])).toMap
  let development ← ((package.get "devDependencies").orElse (.table [])).toMap
  return ofPairs (used ++ development)

/-- The detection by a package file. -/
def ofPackage (t : Tree) (root : Path) (package : Value) : Except Fault Detection := do
  let deps ← dependencies package
  let react ← detectReact t root package deps
  let best := strongest react [detectVue t root deps, detectAngular t root deps]
  return if best.confidence < leastConfidence then ofEndings t root else best

/-- The framework of the project below `root`. A package file that is not shaped like one makes the
answer unsure, but there is always an answer. -/
def detect (t : Tree) (root : Path) : Detection :=
  let found : Except Fault Detection := do
    let root ← root.checked
    match ← package? t root with
    | none => return ofEndings t root
    | some package => ofPackage t root package
  match found with
  | .ok d => d
  | .error f => plain .html failureConfidence
      ("Framework detection failed, defaulting to HTML: " ++ f.message)

end Detection

end Restyle
