import Restyle.Markup.Attribute
import Restyle.Element.Descriptor
import Restyle.Confidence
import Restyle.Text.Units

/-!
How well a line of source fits an element. Only a line that opens the element's tag fits at all;
the id, each class and the start of the text then raise the confidence.
-/
namespace Restyle.Markup

open Text

inductive Rule where
  | tag | id | classes | text
  deriving DecidableEq, Repr

def Rule.name : Rule → String
  | .tag => "tag"
  | .id => "id"
  | .classes => "class"
  | .text => "text"

/-- A line that fits: the column of the tag, counted from one, and the rules that spoke for it. -/
structure LineMatch where
  column : Nat
  confidence : Confidence
  rules : List Rule
  deriving DecidableEq, Repr

/-- Whether a tag name may end before this text. -/
def tagEnds (s : List Char) : Bool :=
  match s with
  | [] => true
  | c :: _ => !(isWord c || c == '.' || c == '-')

/-- What follows the opening of the tag at this place. -/
def tagAt (tag : List Char) (s : List Char) : Option (List Char) :=
  match s with
  | '<' :: rest =>
    match afterFold? tag rest with
    | some rest' => if tagEnds rest' then some rest' else none
    | none => none
  | _ => none

/-- Where the line first opens the tag, counted from zero. -/
def findTag (tag line : List Char) : Option Nat :=
  (firstHit (fun _ s => tagAt tag s) none 0 line).map (·.1)

/-- Signs before which `id` is the end of a longer name. -/
def idSigns : List Char := [':', '.', '-']

/-- Whether an `id` attribute with this value between two equal quotes stands at this place. -/
def idAt (id : List Char) (prev : Option Char) (s : List Char) : Option Unit :=
  if nameMayFollow idSigns prev then
    match afterFold? "id".toList s with
    | none => none
    | some rest =>
      match openingQuote? rest with
      | none => none
      | some (q, rest) =>
        match afterFold? id rest with
        | some (c :: _) => if c == q then some () else none
        | _ => none
  else none

def idHits (id : Option String) (line : List Char) : Nat :=
  match id with
  | none => 0
  | some id =>
    if id.isEmpty then 0
    else if (firstHit (idAt id.toList) none 0 line).isSome then 1 else 0

/-- How many of the wanted classes, case apart and each counted once, the line has. -/
def classHits (f : Framework) (wanted : List (List Char)) (line : List Char) : Nat :=
  let present := (classWords f line).map lower
  ((wanted.map lower).eraseDups.filter present.contains).length

def minTextLength : Nat := 4

def textPrefixLength : Nat := 20

/-- A text too short to tell anything gives no hit; of a longer one the start has to be there. -/
def textHits (text : Option String) (line : List Char) : Nat :=
  let t := trim (text.getD "").toList
  if size t < minTextLength then 0
  else if occursFold (takePoints textPrefixLength t) line then 1 else 0

/-- The weights of the rules in tenths. -/
def Rule.weight : Rule → Nat
  | .tag => 3
  | .id => 4
  | .classes => 2
  | .text => 2

def Rule.hits (d : Descriptor) (f : Framework) (line : List Char) : Rule → Nat
  | .tag => if (findTag d.tag.toList line).isSome then 1 else 0
  | .id => idHits d.id line
  | .classes => classHits f d.classWords line
  | .text => textHits d.text line

/-- The confidence of a line that opens the tag, and the rules that gave hits. -/
def rate (d : Descriptor) (f : Framework) (column : Nat) (line : List Char) : LineMatch :=
  let counts := [Rule.id, .classes, .text].map fun r => (r, r.hits d f line)
  { column := column + 1
    confidence := .ofTenths
      (Rule.tag.weight + (counts.map fun (r, n) => r.weight * n).foldr (· + ·) 0)
    rules := .tag :: (counts.filter fun (_, n) => n ≠ 0).map (·.1) }

def scoreLine (d : Descriptor) (f : Framework) (line : List Char) : Option LineMatch :=
  if d.tag.isEmpty then none
  else (findTag d.tag.toList line).map fun column => rate d f column line

end Restyle.Markup
