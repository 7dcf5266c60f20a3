import Restyle.Text.Blank
import Restyle.Text.Search
import Restyle.Framework

/-!
Attributes of markup, recognised within one line. After the name come an equals sign, possibly a
brace, and a text between two equal quotes; blanks may stand between these.
-/
namespace Restyle.Markup

open Text

/-- The double quote, the single quote and the grave accent. -/
def isQuote (c : Char) : Bool := c == '"' || c == '\'' || c == '\x60'

/-- What follows an equals sign and the blanks around it. -/
def afterEquals? (s : List Char) : Option (List Char) :=
  match skipBlanks s with
  | '=' :: rest => some (skipBlanks rest)
  | _ => none

/-- Steps over a brace and the blanks behind it, if the text starts with a brace. -/
def skipBrace (s : List Char) : List Char :=
  match s with
  | '\x7b' :: rest => skipBlanks rest
  | _ => s

/-- The quote that opens the value of an attribute, given what follows the attribute's name. -/
def openingQuote? (s : List Char) : Option (Char × List Char) :=
  match afterEquals? s with
  | none => none
  | some rest =>
    match skipBrace rest with
    | q :: value => if isQuote q then some (q, value) else none
    | [] => none

/-- The text before the next `q` on this line, and what follows that `q`. -/
def untilQuote? (q : Char) : List Char → Option (List Char × List Char)
  | [] => none
  | c :: rest =>
    if c == q then some ([], rest)
    else if c == '\n' then none
    else (untilQuote? q rest).map fun (v, r) => (c :: v, r)

/-- Whether a name may start after the character `c`: it is neither part of a name nor one of the
signs in `signs`. -/
def nameMayFollow (signs : List Char) : Option Char → Bool
  | none => true
  | some c => !(isWord c || signs.contains c)

/-- Signs that belong to an attribute name with a binding or a namespace. -/
def bindingSigns : List Char := [':', '[', '.', '-']

/-- The value of the attribute at this place, with the number of characters from the name to the
closing quote. -/
def attributeAt (name : List Char) (prev : Option Char) (s : List Char) :
    Option (List Char × Nat) :=
  if nameMayFollow bindingSigns prev then
    match after? name s with
    | none => none
    | some rest =>
      match openingQuote? rest with
      | none => none
      | some (q, rest) =>
        match untilQuote? q rest with
        | none => none
        | some (value, rest) => some (value, s.length - rest.length)
  else none

/-- The quoted values of an attribute on a line. -/
def attributeValues (name line : List Char) : List (List Char) :=
  hits (attributeAt name) none 0 line

/-- All classes that the line gives in class attributes of the framework. -/
def classWords (f : Framework) (line : List Char) : List (List Char) :=
  f.classAttributes.flatMap fun a => (attributeValues a.toList line).flatMap words

/-- Whether the first thing on the line is a comment. -/
def isComment (f : Framework) (line : List Char) : Bool :=
  f.commentMarks.any fun mark => mark.toList.isPrefixOf (trim line)

end Restyle.Markup
