import Restyle.Text.Search
import Restyle.Text.Encoding

/-!
Absolute paths as lists of names from the root. A path may hold the name `..` until it is resolved,
and `.` never occurs. Two slashes at the start are kept apart from one: the first name is then
empty, and no other ever is. Both lead to the same root.
-/
namespace Restyle

abbrev Path := List String

namespace Path

def isAbsolute (s : String) : Bool := s.toList.head? == some '/'

/-- Whether a text starts with two slashes and no third. -/
def startsTwice : List Char → Bool
  | '/' :: '/' :: c :: _ => c ≠ '/'
  | ['/', '/'] => true
  | _ => false

/-- The names in a text with slashes. -/
def names (s : String) : Path :=
  let ns := ((s.toList.splitOn '/').map String.ofList).filter fun n => n ≠ "" ∧ n ≠ "."
  if startsTwice s.toList then "" :: ns else ns

/-- The path that `s` names, seen from `base`. -/
def join (base : Path) (s : String) : Path :=
  if isAbsolute s then names s else base ++ names s

/-- One name further on. Above the root there is nothing, so `..` stays there. -/
def enter (here : Path) (n : String) : Path :=
  if n = ".." then here.dropLast else if n = "" then here else here ++ [n]

/-- Takes each `..` together with the name before it. -/
def resolve (p : Path) : Path := p.foldl enter []

/-- Whether a name has a null character in it. Nothing can be asked of such a path. -/
def hasNul (p : Path) : Bool := p.any fun n => n.toList.contains '\x00'

/-- Whether a name has a half in it that is no byte. Nothing can be asked of such a path either. -/
def hasHalf (p : Path) : Bool := p.any fun n => (Text.nameFault? n).isSome

/-- Names with slashes between them. -/
def slashed (p : Path) : String := String.ofList (['/'].intercalate (p.map String.toList))

def text (p : Path) : String := if p = [""] then "//" else "/" ++ slashed p

def name (p : Path) : String := p.getLastD ""

/-- Whether a name comes before another one in the order of their code points. -/
def namePrecedes (a b : String) : Bool :=
  (Text.codes a.toList).lex (Text.codes b.toList) fun m n => m < n

def parent (p : Path) : Path := p.dropLast

/-- The part of `p` below `base`, if it lies there. -/
def below? (base p : Path) : Option Path := List.isPrefixOf? base p

/-- The last name without its last extension. A point at the start or at the end begins none. -/
def stem (p : Path) : String :=
  let cs := p.name.toList
  match (cs.reverse.span (· != '.')) with
  | (_, []) => p.name
  | (ext, _ :: before) =>
    if ext.isEmpty || before.isEmpty then p.name else String.ofList before.reverse

def endsWith (p : Path) (suffix : String) : Bool := suffix.toList.isSuffixOf p.text.toList

end Path

end Restyle
