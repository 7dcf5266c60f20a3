import Restyle.Cache
import Restyle.Component.Graph
import Restyle.Component.Options
import Restyle.Detection
import Restyle.Element.Locate

/-!
Finding sources in a project. The framework is detected when it is first needed; what was found is
kept in a cache for a time. A look-up that cannot be done finds nothing.
-/
namespace Restyle

/-- What is kept between look-ups. -/
inductive Cached where
  | source (s : SourceInfo)
  | hierarchy (h : Component.Hierarchy)
  deriving DecidableEq, Repr

namespace Cached

def source? : Cached → Option SourceInfo
  | source s => some s
  | hierarchy _ => none

def hierarchy? : Cached → Option Component.Hierarchy
  | hierarchy h => some h
  | source _ => none

end Cached

/-- The look-ups of one project. Without a root there is nothing to look into. -/
structure Resolver where
  root : Option Path
  settings : Settings
  /-- How files are looked for, if the settings allow it. -/
  scan : Option Scan
  choice : Choice
  detected : Option Detection
  cache : Cache Cached

namespace Resolver

def choiceOf (settings : Settings) : Choice :=
  if settings.word "search_mode" = "best-match" then .best else .first

/-- The scan that the settings ask for. Patterns that are no list are a fault. -/
def scanOf (settings : Settings) : Except Fault (Option Scan) := do
  let excludes ← (settings.value "exclude_patterns").items
  return Scan.ofValues excludes (settings.value "max_depth")

def ofSettings (root : Option Path) (settings : Settings) : Except Fault Resolver := do
  let scan ← scanOf settings
  return { root, settings, scan, choice := choiceOf settings, detected := none
           cache := .empty (.ofValue (settings.value "max_cache_size")) }

/-- The files of the framework. Where the scan fails there are none. -/
def files (r : Resolver) (f : Framework) (t : Tree) : List Path :=
  match r.root, r.scan with
  | some root, some scan => (scan.files f.filePatterns t root).toOption.getD []
  | _, _ => []

/-! ### Detection -/

/-- Detects the framework, unless that has been done. -/
def detect (r : Resolver) (t : Tree) : Resolver :=
  match r.detected, r.root with
  | none, some root =>
    if t.isDirectory root then { r with detected := some (Detection.detect t root) } else r
  | _, _ => r

def framework? (r : Resolver) : Option Framework := r.detected.map (·.framework)

/-- Detects the framework anew. What was kept goes if it is another one than before. -/
def refresh (r : Resolver) (t : Tree) : Resolver :=
  let new := { r with detected := none }.detect t
  if r.detected.isSome && new.framework? != r.framework? then { new with cache := new.cache.clear }
  else new

/-! ### Look-ups -/

/-- Keeps what was found. A cache that cannot take it makes the look-up find nothing. -/
def keep (r : Resolver) (now : Clock) (key : String) : Option Cached → Option Cached × Resolver
  | none => (none, r)
  | some v =>
    match r.cache.setFault? now with
    | some _ => (none, { r with cache := r.cache.afterFailedSet now })
    | none =>
      let life := Lifetime.ofValue (r.settings.value "cache_ttl")
      (some v, { r with cache := r.cache.set now key v life })

/-- What is kept under the key, or else what is found now. -/
def lookUp (r : Resolver) (now : Clock) (key : String) (found : Option Cached) :
    Option Cached × Resolver :=
  if r.settings.isOn "cache_results" then
    if (r.cache.lookupFault? key).isSome then (none, r)
    else
      match r.cache.get now key with
      | (some v, cache) => (some v, { r with cache })
      | (none, cache) => { r with cache }.keep now key found
  else (found, r)

/-- The source line of an element among the project's files. -/
def locate (r : Resolver) (f : Framework) (t : Tree) (c : Capture) : Option SourceInfo :=
  match c.descriptorFor f with
  | .ok d => Locate.inFiles d f r.choice t (r.files f t)
  | .error _ => none

def findCapture (r : Resolver) (t : Tree) (now : Clock) (c : Capture) :
    Option SourceInfo × Resolver :=
  let r := r.detect t
  match r.framework?, c.key with
  | some f, .ok key =>
    let (v, r) := r.lookUp now key ((r.locate f t c).map .source)
    (v.bind Cached.source?, r)
  | _, _ => (none, r)

/-- The source of the element that a payload describes. One that is no table describes none. -/
def find (r : Resolver) (t : Tree) (now : Clock) (payload : Value) :
    Except Fault (Option SourceInfo × Resolver) :=
  match payload with
  | .table _ => (Capture.ofPayload payload).map (r.findCapture t now)
  | _ => .ok (none, r.detect t)

def hierarchyKey (f : Framework) : String := "hierarchy_" ++ f.name

/-- The hierarchy of the first root component. Plain pages have none. -/
def buildHierarchy (r : Resolver) (f : Framework) (t : Tree) : Option Component.Hierarchy :=
  match f with
  | .html => none
  | f => (Component.hierarchies f t (r.files f t)).head?

def hierarchy (r : Resolver) (t : Tree) (now : Clock) :
    Option Component.Hierarchy × Resolver :=
  let r := r.detect t
  match r.framework? with
  | some f =>
    let (v, r) := r.lookUp now (hierarchyKey f) ((r.buildHierarchy f t).map .hierarchy)
    (v.bind Cached.hierarchy?, r)
  | none => (none, r)

open Component in
/-- The components that fit a query. Options that cannot be used find none. -/
def searchWith (r : Resolver) (t : Tree) (query : Value) (options : Except Fault SearchOptions) :
    List Found × Resolver :=
  let r := r.detect t
  match r.framework? with
  | some f =>
    match options.bind fun o => searchBy o f t query with
    | .ok found => (rank found, r)
    | .error _ => ([], r)
  | none => ([], r)

open Component in
/-- The options of the settings with those given put over them. -/
def searchOptions (r : Resolver) (given : Value) : Except Fault SearchOptions := do
  let excludes ← (r.settings.value "exclude_patterns").items
  let plain := { SearchOptions.plain (.str ((r.root.getD []).text)) with
    excludes := .list excludes, maxDepth := r.settings.value "max_depth" }
  if given.isTruthy then
    match given with
    | .table fields => return plain.override fields
    | v => throw (.noMember v.kind "items")
  else return plain

def search (r : Resolver) (t : Tree) (query given : Value) :
    List Component.Found × Resolver :=
  r.searchWith t query (r.searchOptions given)

/-! ### Settings -/

/-- Settings that decide which files and lines are found. -/
def scanSettings : List String := ["search_mode", "exclude_patterns", "max_depth"]

/-- Changes settings. What was kept goes if other lines may now be found. The second part is the
fault of settings that files cannot be looked for with; the way to look for them then stays. -/
def updateSettings (r : Resolver) (values : List (String × Value)) : Resolver × Option Fault :=
  let changed := values.map fun (k, _) => Settings.snakeCase k
  let r := { r with settings := r.settings.apply values }
  let resize (r : Resolver) : Resolver :=
    if changed.contains "max_cache_size" then
      { r with cache.capacity := .ofValue (r.settings.value "max_cache_size") }
    else r
  if changed.any scanSettings.contains then
    match scanOf r.settings with
    | .error f => (r, some f)
    | .ok scan =>
      (resize { r with scan, choice := choiceOf r.settings, cache := r.cache.clear }, none)
  else (resize r, none)

end Resolver

end Restyle
