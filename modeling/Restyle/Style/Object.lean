import Restyle.Fault
import Restyle.Text.Blank
import Restyle.Text.Search

/-!
Style objects: the pairs of names and values between the braces of a `style` attribute.
-/
namespace Restyle.Style

open Text

/-- Requested declarations in their order. Names are texts, and values texts or numbers, unless the
request has it otherwise. -/
abbrev Declarations := List (Key × Value)

/-- The entries of a style object: names with the source text of their values. -/
abbrev Entries := List (List Char × List Char)

def dashesToCapitals : List Char → List Char
  | '-' :: c :: rest =>
    if c.isLower then c.toUpper :: dashesToCapitals rest else '-' :: dashesToCapitals (c :: rest)
  | c :: rest => c :: dashesToCapitals rest
  | [] => []

/-- A property name as a style object has it; custom properties keep their name. -/
def camelCase (property : List Char) : List Char :=
  if "--".toList.isPrefixOf property then property else dashesToCapitals property

def startsIdentifier (c : Char) : Bool := c.isAlpha || c == '_' || c == '$'

def isIdentifierPart (c : Char) : Bool := isWord c || c == '$'

/-- Whether a name needs no quotes. One line feed at the end is not looked at. -/
def isIdentifier (name : List Char) : Bool :=
  match name with
  | [] => false
  | c :: rest =>
    startsIdentifier c &&
      (if rest.getLast? = some '\n' then rest.dropLast else rest).all isIdentifierPart

def writeName (name : List Char) : List Char :=
  if isIdentifier name then name else '\'' :: name ++ ['\'']

def escapeQuoted (c : Char) : List Char := if c == '\\' || c == '\'' then ['\\', c] else [c]

/-- A value as a text in single quotes. -/
def writeValue (value : List Char) : List Char := '\'' :: value.flatMap escapeQuoted ++ ['\'']

/-- The text between the braces. -/
def writeBody (entries : Entries) : List Char :=
  ", ".toList.intercalate (entries.map fun (k, v) => writeName k ++ ':' :: ' ' :: v)

/-- The object with its two pairs of braces. -/
def writeObject (entries : Entries) : List Char :=
  "\x7b\x7b ".toList ++ writeBody entries ++ " \x7d\x7d".toList

/-! ### Reading entries back from source -/

/-- The text up to the next `q`, and what follows that `q`. -/
def untilQuote (q : Char) (s : List Char) : Option (List Char × List Char) :=
  match s.span (· != q) with
  | (v, _ :: rest) => some (v, rest)
  | _ => none

/-- The name at this place, a word or a text in quotes, without the quotes. -/
def nameAt : List Char → Option (List Char × List Char)
  | [] => none
  | c :: rest =>
    if startsIdentifier c then
      let (part, rest') := rest.span isIdentifierPart
      some (c :: part, rest')
    else if c == '\'' || c == '"' then untilQuote c rest
    else none

/-- The rest of a text with escapes, up to and with the closing `q`. An escape takes the character
after it along, which cannot be a line feed. -/
def closeText (q : Char) : List Char → Option (List Char × List Char)
  | [] => none
  | '\\' :: c :: rest =>
    if c == '\n' then none else (closeText q rest).map fun (v, r) => ('\\' :: c :: v, r)
  | c :: rest =>
    if c == q then some ([q], rest)
    else if c == '\\' then none
    else (closeText q rest).map fun (v, r) => (c :: v, r)

/-- A whole text in quotes at this place; between grave accents nothing is escaped. -/
def textAt : List Char → Option (List Char × List Char)
  | [] => none
  | c :: rest =>
    if c == '\'' || c == '"' then (closeText c rest).map fun (v, r) => (c :: v, r)
    else if c == '\x60' then (untilQuote c rest).map fun (v, r) => (c :: v ++ [c], r)
    else none

/-- What follows the end of an entry: blanks, and a comma or the end of the text. -/
def entryEnd? (s : List Char) : Option (List Char) :=
  match skipBlanks s with
  | [] => some []
  | ',' :: rest => some rest
  | _ => none

/-- The shortest text without commas, of one character at least, behind which the entry ends. -/
def plainValue : List Char → Option (List Char × List Char)
  | [] => none
  | c :: rest =>
    if c == ',' then none
    else match entryEnd? rest with
      | some r => some ([c], r)
      | none => (plainValue rest).map fun (v, r) => (c :: v, r)

/-- The value at this place and what follows its entry. -/
def valueAt (s : List Char) : Option (List Char × List Char) :=
  match textAt s with
  | some (v, rest) =>
    match entryEnd? rest with
    | some r => some (v, r)
    | none => plainValue s
  | none => plainValue s

/-- The value behind a colon. Blanks before it are not part of it, unless there is nothing else. -/
def valueAfterColon (s : List Char) : Option (List Char × List Char) :=
  match valueAt (skipBlanks s) with
  | some found => some found
  | none =>
    match (s.takeWhile isBlank).getLast? with
    | some b => (entryEnd? (skipBlanks s)).map fun r => ([b], r)
    | none => none

/-- The entry at this place, with the number of characters it takes. -/
def entryAt (s : List Char) : Option ((List Char × List Char) × Nat) :=
  match nameAt s with
  | none => none
  | some (name, rest) =>
    match skipBlanks rest with
    | ':' :: rest =>
      match valueAfterColon rest with
      | some (value, rest) => some ((name, trim value), s.length - rest.length)
      | none => none
    | _ => none

/-- The entries found in the text between the braces, in order. What is no entry is passed over. -/
def readEntries (body : List Char) : Entries := ofPairs (hits (fun _ s => entryAt s) none 0 body)

/-- The entries of `old` with those of `new` put over them. -/
def merge (old new : Entries) : Entries := new.foldl (fun m (k, v) => assign k v m) old

/-- A declaration as an entry of a style object. Its name has to be a text. -/
def entryOf (d : Key × Value) : Except Fault (List Char × List Char) :=
  match d with
  | (.text name, v) => .ok (camelCase name.toList, writeValue v.display.toList)
  | (k, _) => .error (.noMember k.toValue.kind "startswith")

/-- The declarations as entries of a style object. -/
def entriesOf (ds : Declarations) : Except Fault Entries := (ds.mapM entryOf).map ofPairs

end Restyle.Style
