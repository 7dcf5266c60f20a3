import Restyle.Component.Scannable
import Restyle.Confidence

/-!
Looking for components by name.
-/
namespace Restyle.Component

open Text Number

/-- How a name fits what was asked for. -/
inductive Fit where
  | exact | partly | fuzzy
  deriving DecidableEq, Repr

def Fit.word : Fit → String
  | .exact => "exact"
  | .partly => "partial"
  | .fuzzy => "fuzzy"

/-- The share of characters that occur, times six tenths, in binary arithmetic. -/
def shareScore (overlap length : Nat) : Confidence :=
  .ofRat (nearest (nearest ((overlap : Rat) / length) * nearest (6 / 10)))

/-- A name in full counts most, a part of the name less, and least a text most of whose characters
occur in the name. Case does not count. -/
def matchScore (query target : List Char) : Confidence × Fit :=
  let q := lower query
  let t := lower target
  if q.isEmpty then (⟨0⟩, .fuzzy)
  else if q = t then (⟨10000⟩, .exact)
  else if occursIn q t then (⟨8000⟩, .partly)
  else
    let overlap := ((points q).filter (points t).contains).length
    if size q < 2 * overlap then (shareScore overlap (size q), .fuzzy) else (⟨0⟩, .fuzzy)

/-- Words that mark the line of a declaration. -/
def declarationWords : Framework → List String
  | .react => ["function", "const", "class"]
  | .vue => ["name", "export default", "defineComponent"]
  | .angular => ["class"]
  | .html => ["function", "const", "class"]

/-- Line and column, counted from one, of the first line with the name and one of the words; the
start of the file if there is none. -/
def declarationLine (f : Framework) (ls : List (List Char)) (name : List Char) : Nat × Nat :=
  let declares (l : List Char) : Bool :=
    occursIn name l && (declarationWords f).any fun w => occursIn w.toList l
  match ls.findIdx? declares with
  | some n => (n + 1, ((indexOf? name (ls.getD n [])).getD 0) + 1)
  | none => (1, 1)

/-- A component that fits, where it is declared, and the lines around that place. -/
structure Found where
  path : Path
  name : String
  framework : Framework
  confidence : Confidence
  fit : Fit
  line : Nat
  column : Nat
  before : List (List Char)
  matched : List (List Char)
  after : List (List Char)
  deriving DecidableEq, Repr

/-- What a name must score more than. -/
def threshold : Confidence := ⟨3000⟩

/-- How many lines are shown before and behind a declaration. -/
def linesBefore : Nat := 2

def linesAfter : Nat := 3

/-- The component of a file, if its name fits. -/
def searchFile (f : Framework) (t : Tree) (query : String) (p : Path) : Option Found :=
  match readText t p with
  | .error _ => none
  | .ok content =>
    if declares f p then
      match nameIn f t p content.toList with
      | none => none
      | some name =>
        if name.isEmpty then none
        else
          let (score, fit) := matchScore query.toList name.toList
          if threshold < score then
            let ls := lines content.toList
            let (line, column) := declarationLine f ls name.toList
            some
              { path := p, name, framework := f, confidence := score, fit, line, column
                before := (ls.take (line - 1)).drop (line - 1 - linesBefore)
                matched := (ls.drop (line - 1)).take 1
                after := (ls.drop line).take linesAfter }
          else none
    else none

/-- The surest first, and equally sure ones in the order in which they were. -/
def rank (found : List Found) : List Found :=
  found.mergeSort fun a b => decide (b.confidence ≤ a.confidence)

/-- The components of the files that fit, the surest first, and equally sure ones in the order of
the files. -/
def search (f : Framework) (t : Tree) (query : String) (files : List Path) : List Found :=
  rank (files.filterMap (searchFile f t query))

end Restyle.Component
