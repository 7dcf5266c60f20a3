import Restyle.Component.Search
import Restyle.Settings.Basic

/-!
What a search may be told: where to look, which files to take and leave out, and for which
frameworks. Options keep the values they were given. Those that cannot be used find nothing.
-/
namespace Restyle

/-- A pattern as it was given. -/
inductive Pattern where
  | text (s : String)
  /-- A list or table without wildcards, which is no name of anything. -/
  | inert
  | unusable
  deriving DecidableEq, Repr

namespace Pattern

def wildcards : List String := ["*", "?", "["]

def isWildcard : Value → Bool
  | .str s => wildcards.contains s
  | _ => false

def ofValue : Value → Pattern
  | .str s => text s
  | .list items => if items.any isWildcard then unusable else inert
  | .tableOf _ fields => if fields.any fun (k, _) => wildcards.contains k then unusable else inert
  | _ => unusable

/-- The texts before the first pattern that is unusable, and whether there is none. -/
def texts : List Pattern → List String × Bool
  | [] => ([], true)
  | text s :: rest => (s :: (texts rest).1, (texts rest).2)
  | inert :: rest => texts rest
  | unusable :: _ => ([], false)

end Pattern

namespace Scan

/-- A scan by patterns and a depth limit of any kind. With an unusable one no entry can be told to
stay, so that nothing is found. -/
def ofValues (excludes : List Value) (maxDepth : Value) : Option Scan :=
  match Pattern.texts (excludes.map Pattern.ofValue), Settings.depthLimit maxDepth with
  | (texts, true), .ok limit => some { excludes := texts, limit }
  | _, _ => none

/-- The files that the patterns take. An unusable pattern spoils the scan unless the patterns before
it take every file. -/
def filesBy (s : Scan) (includes : List Value) (t : Tree) (root : Path) :
    Except Fault (List Path) := do
  let (texts, whole) := Pattern.texts (includes.map Pattern.ofValue)
  let found ← s.files texts t root
  if whole then return found
  let all ← s.files ["*"] t root
  return if found == all then found else []

end Scan

namespace Component

structure SearchOptions where
  root : Value
  excludes : Value
  includes : Value
  maxDepth : Value
  frameworks : Value

namespace SearchOptions

def fields : List String :=
  ["root_path", "exclude_patterns", "include_patterns", "max_depth", "frameworks"]

def plain (root : Value) : SearchOptions :=
  { root
    excludes := Section.resolution.defaults.value "exclude_patterns"
    includes := .list []
    maxDepth := Section.resolution.defaults.value "max_depth"
    frameworks := .list [] }

/-- The options with some of them given anew. -/
def override (o : SearchOptions) (given : List (String × Value)) : SearchOptions :=
  let given := Settings.known fields given
  { root := (given.lookup "root_path").getD o.root
    excludes := (given.lookup "exclude_patterns").getD o.excludes
    includes := (given.lookup "include_patterns").getD o.includes
    maxDepth := (given.lookup "max_depth").getD o.maxDepth
    frameworks := (given.lookup "frameworks").getD o.frameworks }

/-- Whether components of the framework are asked for. -/
def wants (o : SearchOptions) (f : Framework) : Except Fault Bool :=
  if o.frameworks.isTruthy then
    match o.frameworks with
    | .str s => .ok (Text.occursIn f.name.toList s.toList)
    | v =>
      match v.items with
      | .ok items => .ok (items.any fun | .str s => s == f.name | _ => false)
      | .error _ => .error (.notContainer v.kind)
  else .ok true

/-- The files to search: none if one of the options cannot be used or the scan fails. A relative root
has nothing here that it could start from, so there are none either; the program would start from
where it runs. -/
def files (o : SearchOptions) (f : Framework) (t : Tree) : List Path :=
  let includes := o.includes.orElse (.list (f.filePatterns.map .str))
  match o.root, o.excludes.items, includes.items with
  | .str root, .ok excludes, .ok includes =>
    if Path.isAbsolute root then
      match Scan.ofValues excludes o.maxDepth with
      | some scan => (scan.filesBy includes t (Path.names root)).toOption.getD []
      | none => []
    else []
  | _, _, _ => []

end SearchOptions

/-- The components that fit a query. Plain pages have none. -/
def searchBy (o : SearchOptions) (f : Framework) (t : Tree) (query : Value) :
    Except Fault (List Found) :=
  match f with
  | .html => .ok []
  | f => do
    if ← o.wants f then
      match query with
      | .str q => return search f t q (o.files f t)
      | _ => return []
    else return []

end Component

end Restyle
