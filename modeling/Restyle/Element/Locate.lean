import Restyle.Element.Capture
import Restyle.Element.Kind
import Restyle.Component.Scannable
import Restyle.Tree.Discovery

/-!
The source line of an element: the first line that fits, or the best one, over all files of a
project in their order.
-/
namespace Restyle

open Text

/-- Whether the first line that fits is taken, or the best of all. -/
inductive Choice where
  | first | best
  deriving DecidableEq, Repr

/-- What is known of a place beside where it is. Rules are not told for plain pages. -/
structure Details where
  rules : List Markup.Rule
  module : String
  classColumn : Option Nat
  styleColumn : Option Nat
  deriving DecidableEq, Repr

/-- Where an element is in source. -/
structure SourceInfo where
  path : Path
  line : Nat
  column : Nat
  component : String
  framework : Framework
  kind : ElementKind
  confidence : Confidence
  details : Details
  deriving DecidableEq, Repr

namespace SourceInfo

def text (s : SourceInfo) : String :=
  s.path.text ++ ":" ++ toString s.line ++ ":" ++ toString s.column

end SourceInfo

namespace Locate

/-- A word that no other word touches in front, an equals sign, and what the rest must be. -/
def attributeColumn (name : String) (rest : List Char → Bool) (line : List Char) : Option Nat :=
  (firstHit (fun prev s =>
    if (prev.map isWord).getD false then none
    else match (after? name.toList s).bind Markup.afterEquals? with
      | some r => if rest r then some () else none
      | none => none) none 0 line).map fun (n, _) => n + 1

/-- What the framework tells of a line. -/
def detailsOf (f : Framework) (p : Path) (line : List Char) (rules : List Markup.Rule) : Details :=
  match f with
  | .react =>
    { rules, module := if p.endsWith ".tsx" then "tsx" else "jsx"
      classColumn := attributeColumn "className" (fun _ => true) line
      styleColumn := attributeColumn "style" (fun r => r.head? == some '\x7b') line }
  | f => { rules, module := f.name, classColumn := none, styleColumn := none }

/-- A line that fits, with its index. -/
structure Candidate where
  row : Nat
  line : List Char
  fit : Markup.LineMatch
  deriving DecidableEq, Repr

/-- The confidence of every line of a plain page that fits. -/
def pageConfidence : Confidence := ⟨8000⟩

/-- Whether an attribute that the element has is on the line, spelt in full. -/
def hasInFull (name : String) (value : Option String) (line : List Char) : Bool :=
  match value with
  | none => true
  | some v => v.isEmpty || occursIn (name.toList ++ "=\"".toList ++ v.toList ++ ['"']) line

/-- Plain pages are searched for the tag in any case, and for id and classes as they are. -/
def pageLine (d : Descriptor) (line : List Char) : Option Markup.LineMatch :=
  match indexOf? ('<' :: lower d.tag.toList) (lower line) with
  | none => none
  | some n =>
    if hasInFull "id" d.id line && hasInFull "class" d.classes line then
      some { column := n + 1, confidence := pageConfidence, rules := [] }
    else none

/-- Whether a line fits. Comments fit only in plain pages. -/
def testLine (d : Descriptor) (f : Framework) (line : List Char) : Option Markup.LineMatch :=
  match f with
  | .html => pageLine d line
  | f => if Markup.isComment f line then none else Markup.scoreLine d f line

/-- The lines of a file that fit, in order. -/
def candidates (d : Descriptor) (f : Framework) (p : Path) (content : List Char) :
    List Candidate :=
  (Component.scannable f p (lines content)).filterMap fun (n, l) =>
    (testLine d f l).map fun m => ⟨n, l, m⟩

/-- The first of the surest. -/
def surest {α : Type} (confidence : α → Confidence) : List α → Option α
  | [] => none
  | a :: rest => some (rest.foldl (fun best b =>
      if confidence best < confidence b then b else best) a)

def choose {α : Type} (choice : Choice) (confidence : α → Confidence) (as : List α) : Option α :=
  match choice with
  | .first => as.head?
  | .best => surest confidence as

/-- The chosen line of one file. -/
def inFile (d : Descriptor) (f : Framework) (choice : Choice) (t : Tree) (p : Path) :
    Option SourceInfo :=
  match Component.readText t p with
  | .error _ => none
  | .ok content =>
    (choose choice (·.fit.confidence) (candidates d f p content.toList)).map fun c =>
      { path := p
        line := c.row + 1
        column := c.fit.column
        component := match f with
          | .html => d.tag
          | f => (Component.nameIn f t p content.toList).getD "Unknown"
        framework := f
        kind := match f with
          | .html => .element
          | _ => ElementKind.ofTag d.tag
        confidence := c.fit.confidence
        details := detailsOf f p c.line c.fit.rules }

/-- The chosen line of all files. -/
def inFiles (d : Descriptor) (f : Framework) (choice : Choice) (t : Tree) (files : List Path) :
    Option SourceInfo :=
  match choice with
  | .first => files.findSome? (inFile d f .first t)
  | .best => surest (·.confidence) (files.filterMap (inFile d f .best t))

end Locate

namespace Capture

/-- The descriptor as plain pages see it: whatever id and classes are, their text is looked for. -/
def shown (c : Capture) : Except Fault Descriptor := do
  let shownField (v : Value) : Option String := if v.isTruthy then some v.display else none
  let tag ← textField c.tag (.noMember c.tag.kind "lower")
  return {
    tag := tag.getD "", id := shownField c.id, classes := shownField c.classes, text := none }

/-- The descriptor that files of the framework are searched with. -/
def descriptorFor (c : Capture) (f : Framework) : Except Fault Descriptor :=
  match f with
  | .html => c.shown
  | _ => c.descriptor

end Capture

end Restyle
