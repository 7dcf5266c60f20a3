import Restyle.Toml.Header
import Restyle.Value.Json

/-!
Writing settings files: the plain settings of a table first, then its tables, level by level, each
under a header with its full name. This stands for the writer of the package in use.
-/
namespace Restyle.Toml

open Number Text Value

/-- Two backslashes in a row become one. -/
def halveBackslashes : List Char → List Char
  | '\\' :: '\\' :: rest => '\\' :: halveBackslashes rest
  | c :: rest => c :: halveBackslashes rest
  | [] => []

/-- Joins what stands before and behind a `\x`. After an odd number of backslashes, the first
character of the text not counted, the letter stays; else the escape gets its long form. -/
def joinHex (a b : List Char) : List Char :=
  let a := halveBackslashes a
  let r := a.reverse
  let run := (r.takeWhile (· == '\\')).length
  let flips := if run = r.length then run - 1 else run
  let plain := (r.head? != some '\\') != (flips % 2 == 1)
  if plain then a ++ 'x' :: b else a ++ "u00".toList ++ b

/-- Joins the pieces between each `\x`. One at the start goes, and needs another one behind it. -/
def joinAllHex : List (List Char) → Except Defect (List Char)
  | [] => .ok []
  | [a] => .ok a
  | [[], _] => .error .cutOff
  | [] :: a :: rest => .ok (rest.foldl joinHex a)
  | a :: rest => .ok (rest.foldl joinHex a)

/-- The inside of a text in single quotes, as it stands in double quotes. -/
def requote : List Char → List Char
  | '\\' :: '\'' :: rest => '\'' :: requote rest
  | '"' :: rest => '\\' :: '"' :: requote rest
  | c :: rest => c :: requote rest
  | [] => []

def writeText (s : String) : Except Defect (List Char) :=
  let q := quoted s
  let inside := (q.drop 1).dropLast
  let inside := if q.head? = some '\'' then requote inside else inside
  (joinAllHex (pieces ['\\', 'x'] inside)).map fun t => '"' :: t ++ ['"']

/-- Exponents without zeros in front. -/
def writeReal (x : Binary64) : List Char :=
  let rec go : List Char → List Char
    | 'e' :: '+' :: '0' :: rest => 'e' :: '+' :: go rest
    | 'e' :: '-' :: '0' :: rest => 'e' :: '-' :: go rest
    | c :: rest => c :: go rest
    | [] => []
  go x.text.toList

/-- An offset that is none is written as a letter. -/
def writeMoment (m : Moment) : Except Defect (List Char) :=
  if !m.hasText then .error .badOffset
  else
    match m with
    | .both d t (some 0) => .ok ((Moment.both d t none).textWith 'T' ++ ['Z'])
    | m => .ok (m.textWith 'T')

mutual

def writeValue : Value → Except Defect (List Char)
  | .null => .ok "\"None\"".toList
  | .bool b => .ok (if b then "true".toList else "false".toList)
  | .int n => .ok (intText n)
  | .real x => .ok (writeReal x)
  | .str s => writeText s
  | .moment m => writeMoment m
  | .list items => (writeItems items).map fun t => '[' :: t ++ [']']
  | .tableOf _ fields => (writeKeys fields).map fun t => '[' :: t ++ [']']

def writeItems : List Value → Except Defect (List Char)
  | [] => .ok []
  | v :: rest => do return ' ' :: (← writeValue v) ++ ',' :: (← writeItems rest)

def writeKeys : List (String × Value) → Except Defect (List Char)
  | [] => .ok []
  | (k, _) :: rest => do return ' ' :: (← writeText k) ++ ',' :: (← writeKeys rest)

end

/-- Whether a key needs no quotes. One line end behind it is not looked at. -/
def isBare (k : List Char) : Bool :=
  let k := if k.getLast? = some '\n' then k.dropLast else k
  !k.isEmpty && k.all isBareKey

def writeKey (k : String) : Except Defect (List Char) :=
  if isBare k.toList then .ok k.toList else writeText k

def isTable : Value → Bool
  | .tableOf _ _ => true
  | _ => false

/-- The fields of what stands among tables in a list. -/
def fieldsIn : Value → Except Defect Table
  | .tableOf _ fields => .ok fields
  | .list [] => .ok []
  | .str s => if s.isEmpty then .ok [] else .error .notTable
  | _ => .error .notTable

/-- The tables right below one, by their full names. -/
abbrev Sections := List (List Char × Table)

/-- The tables below a table, under their full names. -/
def Sections.under (name : List Char) (sections next : Sections) : Sections :=
  sections.foldl (fun next (s, t) => assign (name ++ '.' :: s) t next) next

/-- What a table is written as: its plain settings, its lists of tables, and its tables. -/
structure Written where
  plain : List Char
  lists : List Char
  sections : Sections

def Written.text (w : Written) : List Char := w.plain ++ w.lists

mutual

def writeSettings (fuel : Nat) (above : List Char) (t : Table) : Except Defect Written :=
  t.foldlM (fun w (k, v) => do
    let key ← writeKey k
    match v with
    | .tableOf _ within => return { w with sections := assign key within w.sections }
    | .null => return w
    | .list items =>
      if items.any isTable then
        match fuel with
        | 0 => throw .tooDeep
        | fuel + 1 =>
          let texts ← items.mapM (writeItem fuel (above ++ key))
          return { w with lists := w.lists ++ texts.flatten }
      else return { w with plain := w.plain ++ key ++ " = ".toList ++ (← writeValue v) ++ ['\n'] }
    | v => return { w with plain := w.plain ++ key ++ " = ".toList ++ (← writeValue v) ++ ['\n'] })
    ⟨[], [], []⟩

/-- One table of a list of tables, with the tables below it. -/
def writeItem (fuel : Nat) (name : List Char) (item : Value) : Except Defect (List Char) :=
  match fuel with
  | 0 => .error .tooDeep
  | fuel + 1 => do
    let w ← writeSettings fuel (name ++ ['.']) (← fieldsIn item)
    let text := w.text
    let (here, below) := if text.head? = some '[' then (([] : List Char), text) else (text, [])
    return "[[".toList ++ name ++ "]]\n".toList ++ here ++ '\n' :: below ++
      (← writeBelow fuel name w.sections)

/-- The tables below a table of a list, level by level. -/
def writeBelow (fuel : Nat) (name : List Char) (sections : Sections) : Except Defect (List Char) :=
  match fuel, sections with
  | _, [] => .ok []
  | 0, _ => .error .tooDeep
  | fuel + 1, sections => do
    let (text, next) ← sections.foldlM (fun (text, next) (s, t) => do
      let full := name ++ '.' :: s
      let w ← writeSettings fuel (full ++ ['.']) t
      let text := if w.text.isEmpty then text else text ++ '[' :: full ++ "]\n".toList ++ w.text
      return (text, Sections.under s w.sections next))
      (([] : List Char), ([] : Sections))
    return text ++ (← writeBelow fuel name next)

end

/-- Appends the tables of one level, with an empty line before each header, and gives the tables of
the next level. -/
def writeLevel (fuel : Nat) (text : List Char) (sections : Sections) :
    Except Defect (List Char × Sections) :=
  sections.foldlM (fun (text, next) (s, t) => do
    let w ← writeSettings fuel (s ++ ['.']) t
    let text :=
      if w.text.isEmpty && !w.sections.isEmpty then text
      else
        let blank := !text.isEmpty && text.drop (text.length - 2) != ['\n', '\n']
        (if blank then text ++ ['\n'] else text) ++ '[' :: s ++ "]\n".toList ++ w.text
    return (text, Sections.under s w.sections next)) (text, [])

def writeLevels : Nat → List Char → Sections → Except Defect (List Char)
  | 0, text, _ => .ok text
  | fuel + 1, text, sections => do
    if sections.isEmpty then return text
    let (text, next) ← writeLevel fuel text sections
    writeLevels fuel text next

/-- The text of a settings file. -/
def write (t : Table) : Except Defect String := do
  let bound := 2 * fieldsHeight t + 2
  let w ← writeSettings bound [] t
  return String.ofList (← writeLevels bound w.text w.sections)

end Restyle.Toml
