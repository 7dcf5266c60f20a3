import Restyle.Component.Usage

/-!
Which component uses which. Components are known by name: the first file that declares a name gives
the component its file, and every file with that name adds the component's usages.
-/
namespace Restyle.Component

/-- A readable file with what it declares and uses. `name` may be set without the file being a
declaration, as in a template that belongs to a script. -/
structure Source where
  path : Path
  name : Option String
  declares : Bool
  uses : List String
  deriving DecidableEq, Repr

/-- A declared component and the file that declares it. -/
structure Node where
  name : String
  path : Path
  deriving DecidableEq, Repr

/-- Components in the order of their declarations, and usages in the order in which files and
lines show them. -/
structure Graph where
  nodes : List Node
  edges : List (String × String)
  deriving DecidableEq, Repr

namespace Graph

/-- Keeps the first declaration of each name; the empty name declares nothing. -/
def nodesOf (sources : List Source) : List Node :=
  sources.foldl (fun nodes s =>
    match s.name with
    | some name =>
      if s.declares && name != "" && !nodes.any (·.name == name) then nodes ++ [⟨name, s.path⟩]
      else nodes
    | none => nodes) []

def edgesOf (nodes : List Node) (sources : List Source) : List (String × String) :=
  let known (n : String) : Bool := nodes.any (·.name == n)
  sources.flatMap fun s =>
    match s.name with
    | some name =>
      if known name then (s.uses.filter fun u => known u && u != name).map fun u => (name, u)
      else []
    | none => []

def ofSources (sources : List Source) : Graph :=
  let nodes := nodesOf sources
  { nodes, edges := edgesOf nodes sources }

/-- The components that `name` uses, each once, in the order of their first use. -/
def children (g : Graph) (name : String) : List String :=
  ((g.edges.filter fun e => e.1 == name).map (·.2)).eraseDups

/-- The component that is first to use `name`. -/
def parent (g : Graph) (name : String) : Option String :=
  (g.edges.find? fun e => e.2 == name).map (·.1)

/-- The components that no other one uses. -/
def roots (g : Graph) : List Node := g.nodes.filter fun n => (g.parent n.name).isNone

/-- Components in breadth, with their distances: those in the queue, and then those that they
use and that were not seen before. -/
def walkFrom (g : Graph) : Nat → List String → List (String × Nat) → List (String × Nat)
  | 0, _, _ => []
  | _, _, [] => []
  | fuel + 1, seen, (n, d) :: queue =>
    let new := (g.children n).filter fun c => !seen.contains c
    (n, d) :: walkFrom g fuel (seen ++ new) (queue ++ new.map fun c => (c, d + 1))

/-- The components that `start` reaches, each once, the nearest first. Beside `start` each of them
is the end of a usage, which bounds their number. -/
def walk (g : Graph) (start : String) : List (String × Nat) :=
  g.walkFrom (g.edges.length + 1) [start] [(start, 0)]

/-- Distances from the roots. A component that several roots reach keeps the distance from the
last of them, one that no root reaches has distance zero. -/
def depth (g : Graph) (name : String) : Nat :=
  ((g.roots.filterMap fun r => (g.walk r.name).lookup name).getLast?).getD 0

end Graph

/-- A component with what it uses below it. -/
inductive Outline where
  | node (name : String) (children : List Outline)
  deriving Repr

mutual

/-- How many components stand below each other. -/
def Outline.height : Outline → Nat
  | .node _ children => heightOf children + 1

def Outline.heightOf : List Outline → Nat
  | [] => 0
  | o :: rest => max o.height (heightOf rest)

end

namespace Graph

/-- The outline below a component, and all components seen until then. A component stands where it
is met first, going into depth. -/
def outlineFrom (g : Graph) : Nat → List String → String → Outline × List String
  | 0, seen, name => (.node name [], seen)
  | fuel + 1, seen, name =>
    let (done, seen) := (g.children name).foldl (fun (done, seen) c =>
      if seen.contains c then (done, seen)
      else
        let (o, seen) := outlineFrom g fuel seen c
        (done ++ [o], seen)) (([] : List Outline), seen ++ [name])
    (.node name done, seen)

def outline (g : Graph) (start : String) : Outline :=
  (g.outlineFrom (g.edges.length + 1) [] start).1

end Graph

/-- A graph seen from one of its components. -/
structure Hierarchy where
  framework : Framework
  graph : Graph
  root : String
  deriving DecidableEq, Repr

namespace Hierarchy

def pathOf (h : Hierarchy) (name : String) : Path :=
  ((h.graph.nodes.find? (·.name == name)).map (·.path)).getD []

/-- The file of a component that the root reaches. -/
def find (h : Hierarchy) (name : String) : Option Path :=
  if (h.graph.walk h.root).any (·.1 == name) then some (h.pathOf name) else none

end Hierarchy

/-- The files that can be read, each once, with what they declare and use. -/
def sourcesOf (f : Framework) (t : Tree) (files : List Path) : List Source :=
  let known := prepared f t files
  files.eraseDups.filterMap fun p =>
    match readText t p with
    | .error _ => none
    | .ok content =>
      some { path := p, name := nameIn f t p content.toList, declares := declares f p
             uses := usages f known p content.toList }

/-- The hierarchies of all roots. -/
def hierarchies (f : Framework) (t : Tree) (files : List Path) : List Hierarchy :=
  let g := Graph.ofSources (sourcesOf f t files)
  g.roots.map fun r => { framework := f, graph := g, root := r.name }

end Restyle.Component
