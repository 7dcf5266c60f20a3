import Restyle.Text.Blank
import Restyle.Text.Search
import Restyle.Fault
import Restyle.Framework

/-!
The names that components have and that tags use. Each recogniser reads at one place and gives what
follows what it read; a name comes with the text behind it.
-/
namespace Restyle.Component

open Text

/-- The first character in capitals, the others as they are, for each part between hyphens,
underscores, points and blanks. -/
def pascalCase (name : List Char) : List Char :=
  (name.splitOnP fun c => c == '-' || c == '_' || c == '.' || isBlank c).flatMap fun
    | [] => []
    | c :: rest => upperChar c ++ rest

/-- At least one blank. -/
def blanks? : List Char → Option (List Char)
  | c :: rest => if isBlank c then some (skipBlanks rest) else none
  | [] => none

/-- A word and at least one blank behind it. -/
def keyword? (word : String) (s : List Char) : Option (List Char) :=
  (after? word.toList s).bind blanks?

/-- A first character and the longest run of characters of a class behind it. -/
def nameOf (first part : Char → Bool) : List Char → Option (List Char × List Char)
  | c :: rest => if first c then some (c :: rest.takeWhile part, rest.dropWhile part) else none
  | [] => none

def isCapital (c : Char) : Bool := 'A' ≤ c && c ≤ 'Z'

def isSmall (c : Char) : Bool := 'a' ≤ c && c ≤ 'z'

/-- A name of letters and digits that starts with a capital. -/
def capitalName : List Char → Option (List Char × List Char) := nameOf isCapital isAsciiAlnum

def isTagPart (c : Char) : Bool := isWord c || c == '-'

/-- Reads the word if it is there. -/
def optionalKeyword (word : String) (s : List Char) : List Char := (keyword? word s).getD s

/-! ### Declarations in scripts -/

/-- An exported function or class. -/
def exportedAt (word : String) (s : List Char) : Option (List Char × List Char) :=
  (keyword? "export" s).bind fun s => (keyword? word (optionalKeyword "default" s)).bind capitalName

/-- A function with which a line starts. -/
def functionAt (prev : Option Char) (s : List Char) : Option (List Char × List Char) :=
  if prev = none ∨ prev = some '\n' then
    (keyword? "function" (optionalKeyword "async" (skipBlanks s))).bind capitalName
  else none

/-- The type behind a variable's name, on one line up to an equals sign. -/
def skipType (s : List Char) : List Char :=
  match s with
  | ':' :: c :: rest =>
    if c == '=' || c == '\n' then s else rest.dropWhile fun c => c != '=' && c != '\n'
  | _ => s

/-- The call of a wrapper for components. -/
def isWrapperCall (s : List Char) : Bool :=
  ["memo", "forwardRef"].any fun w =>
    match after? w.toList ((after? "React.".toList s).getD s) with
    | some rest => (skipBlanks rest).head? == some '('
    | none => false

def isFunctionWord (s : List Char) : Bool :=
  match after? "function".toList s with
  | some (c :: _) => !isWord c
  | some [] => true
  | none => false

/-- What a component can be made from: a parenthesis, a function, or a wrapper's call. -/
def isComponentValue (s : List Char) : Bool :=
  s.head? == some '(' || isFunctionWord s || isWrapperCall s

/-- A variable whose value is made like a component. -/
def variableAt (s : List Char) : Option (List Char × List Char) :=
  (["const", "let", "var"].findSome? fun w => keyword? w s).bind fun s =>
    match capitalName s with
    | none => none
    | some (name, rest) =>
      match skipType (skipBlanks rest) with
      | '=' :: value =>
        let value := skipBlanks value
        let value := ((after? "async".toList value).map skipBlanks).getD value
        if isComponentValue value then some (name, rest) else none
      | _ => none

/-- The kinds of declarations, in the order in which they are looked for. -/
def declarationTests : List (Option Char → List Char → Option (List Char × List Char)) :=
  [fun _ s => exportedAt "function" s,
    fun _ s => exportedAt "class" s,
    functionAt,
    fun _ s => variableAt s,
    fun _ s => (keyword? "class" s).bind capitalName]

/-- The first declaration of the first kind that the text has: where it starts, its name, and what
follows the name. -/
def declaration? (content : List Char) : Option (Nat × List Char × List Char) :=
  declarationTests.findSome? fun test => firstHit test none 0 content

def reactName (p : Path) (content : List Char) : Option (List Char) :=
  match declaration? content with
  | some (_, name, _) => some name
  | none =>
    let stem := p.stem.toList
    if (stem.head?.map isUpper).getD false then some stem else none

/-! ### Single-file components -/

/-- A value in single or double quotes behind a colon, read by `name`. -/
def quotedSetting (name : List Char → Option (List Char × List Char)) (s : List Char) :
    Option (List Char) :=
  match skipBlanks s with
  | ':' :: rest =>
    match skipBlanks rest with
    | q :: rest =>
      if q == '\'' || q == '"' then
        match name rest with
        | some (v, q' :: _) => if q' == '\'' || q' == '"' then some v else none
        | _ => none
      else none
    | [] => none
  | _ => none

/-- A `name` setting that is no part of a longer word. -/
def nameSettingAt (prev : Option Char) (s : List Char) : Option (List Char) :=
  if (prev.map isWord).getD false then none
  else (after? "name".toList s).bind (quotedSetting (nameOf Char.isAlpha isTagPart))

def vueName (p : Path) (content : List Char) : Option (List Char) :=
  let setting := (indexOf? "<script".toList content).bind fun n =>
    firstHit nameSettingAt (content.take n).getLast? n (content.drop n)
  match setting with
  | some (_, name) => some (pascalCase name)
  | none =>
    let name := pascalCase p.stem.toList
    if name.isEmpty then none else some name

/-! ### Decorated classes -/

/-- An exported class with any word behind its capital. -/
def exportedClassAt (s : List Char) : Option (List Char × List Char) :=
  (keyword? "export" s).bind fun s => (keyword? "class" s).bind (nameOf isCapital isWord)

/-- What follows the parenthesis of a component decorator. -/
def decoratorAt (s : List Char) : Option (List Char) :=
  match (after? "@Component".toList s).map skipBlanks with
  | some ('(' :: rest) => some rest
  | _ => none

/-- The first exported class behind the first decorator, else the first exported class. -/
def className (content : List Char) : Option (List Char) :=
  let first (s : List Char) := (firstHit (fun _ s => exportedClassAt s) none 0 s).map (·.2.1)
  match firstHit (fun _ s => decoratorAt s) none 0 content with
  | some (_, rest) => first rest <|> first content
  | none => first content

def scriptEnding : String := ".component.ts"

def templateEnding : String := ".component.html"

def dropEnding (ending : String) (s : String) : String :=
  String.ofList (s.toList.take (s.toList.length - ending.toList.length))

/-- The script beside a template. -/
def companion (p : Path) : Path :=
  p.dropLast ++ [dropEnding templateEnding p.name ++ scriptEnding]

/-- The text of a file, if it is readable and is text. -/
def readText (t : Tree) (p : Path) : Except Fault String :=
  match t.read p with
  | .error e => .error (.tree e)
  | .ok bytes =>
    match decode bytes with
    | .ok s => .ok s
    | .error f => .error (.undecodable f)

/-- A template has the name of its companion's class; without a companion the name of its file. -/
def angularName (t : Tree) (p : Path) (content : List Char) : Option (List Char) :=
  if p.endsWith templateEnding then
    match readText t (companion p) with
    | .ok s => className s.toList
    | .error _ => some (pascalCase (dropEnding templateEnding p.name).toList ++ "Component".toList)
  else className content

/-- The name of the component that a file declares. -/
def nameIn (f : Framework) (t : Tree) (p : Path) (content : List Char) : Option String :=
  (match f with
    | .react => reactName p content
    | .vue => vueName p content
    | .angular => angularName t p content
    | .html => none).map String.ofList

/-- Whether a file declares a component at all, and not only a part of one. -/
def declares (f : Framework) (p : Path) : Bool :=
  match f with
  | .angular => p.endsWith scriptEnding
  | _ => true

end Restyle.Component
