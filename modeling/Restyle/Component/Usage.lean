import Restyle.Component.Scannable

/-!
The components that a file uses, in the order of their first use.
-/
namespace Restyle.Component

open Text

/-- The tags at this place whose names `name` reads, with the length of what was read. -/
def tagNameAt (name : List Char → Option (List Char × List Char)) (s : List Char) :
    Option (List Char × Nat) :=
  match s with
  | '<' :: rest => (name rest).map fun (n, r) => (n, s.length - r.length)
  | _ => none

def tagNames (name : List Char → Option (List Char × List Char)) (s : List Char) :
    List (List Char) :=
  hits (fun _ s => tagNameAt name s) none 0 s

def isSmallAlnum (c : Char) : Bool := isSmall c || c.isDigit

/-- The parts of a name with hyphens behind its first part. -/
def hyphenParts : Nat → List Char → List Char × List Char
  | 0, s => ([], s)
  | fuel + 1, s =>
    match s with
    | '-' :: rest =>
      let part := rest.takeWhile isSmallAlnum
      if part.isEmpty then ([], s)
      else
        let (more, rest') := hyphenParts fuel (rest.dropWhile isSmallAlnum)
        ('-' :: part ++ more, rest')
    | _ => ([], s)

/-- A name in small letters with at least one hyphen in it. -/
def kebabName (s : List Char) : Option (List Char × List Char) :=
  match nameOf isSmall isSmallAlnum s with
  | none => none
  | some (first, rest) =>
    match hyphenParts rest.length rest with
    | ([], _) => none
    | (more, rest') => some (first ++ more, rest')

/-- A `selector` setting whose value is an element's name. -/
def selectorAt (s : List Char) : Option (List Char) :=
  (after? "selector".toList s).bind (quotedSetting (nameOf isSmall isTagPart))

/-- The element names of components, with the names of their classes. -/
abbrev Selectors := List (List Char × String)

/-- The selectors that the scripts among the files declare; of two with one name the later one. -/
def selectorsIn (t : Tree) (files : List Path) : Selectors :=
  ofPairs (files.filterMap fun p =>
    if declares .angular p then
      match readText t p with
      | .error _ => none
      | .ok content =>
        match firstHit (fun _ s => selectorAt s) none 0 content.toList,
          nameIn .angular t p content.toList with
        | some (_, selector), some name => some (selector, name)
        | _, _ => none
    else none)

/-- What has to be known of all files before one file's usages can be told. -/
def prepared (f : Framework) (t : Tree) (files : List Path) : Selectors :=
  match f with
  | .angular => selectorsIn t files
  | _ => []

/-- The components whose tags the file has, each once. -/
def usages (f : Framework) (known : Selectors) (p : Path) (content : List Char) : List String :=
  let ls := (scannable f p (lines content)).map (·.2)
  (match f with
    | .react => (tagNames capitalName content).map String.ofList
    | .vue => ls.flatMap fun l =>
        ((tagNames capitalName l ++ tagNames kebabName l).map pascalCase).map String.ofList
    | .angular => ls.flatMap fun l =>
        (tagNames (nameOf isSmall isTagPart) l).filterMap fun n => known.lookup n
    | .html => []).eraseDups

end Restyle.Component
