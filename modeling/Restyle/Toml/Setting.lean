import Restyle.Toml.Items
import Restyle.Toml.Moment
import Restyle.Toml.Number
import Restyle.Toml.Place
import Restyle.Toml.Quotes
import Restyle.Toml.Text

/-!
A key and a value with an equals sign between them, on a line or in a table on one line.
-/
namespace Restyle.Toml

open Number Text

/-! ### Key and value -/

/-- Whether a value begins here, and not just another part of the key. -/
def beginsValue (s : List Char) : Except Defect Bool :=
  match s with
  | [] => .ok true
  | c :: _ =>
    if c == ' ' || c == '\t' || isQuote c || c == '[' || c == '\x7b' then .ok true
    else if trim s = "true".toList ∨ trim s = "false".toList then .ok true
    else if (readReal? s).isSome then .ok true
    else (readDate? s).map fun moment? => moment?.isSome || (readTime? s).isSome

/-- Splits a setting at the `n`-th equals sign, or at the first one after it behind which a value
begins. `seen` is what stood behind the one before. The last part tells whether all that could have
been the value was tidy as a number. -/
def seekValue (s : List Char) (fuel n : Nat) (seen : Option (List Char)) (tidy : Bool) :
    Except Defect (List Char × List Char × Bool) :=
  match fuel with
  | 0 => .error .malformed
  | fuel + 1 => do
    let (key, value) := cutAt ['='] n s
    if seen = some value then throw .malformed
    let tidy := tidy && isTidyNumber value
    let value := match seen, value with
      | none, c :: _ => if c.isDigit then value.filter (· != '_') else value
      | _, _ => value
    if ← beginsValue value then return (trim key, trim value, tidy)
    seekValue s fuel (n + 1) (some value) tidy

def splitSetting (s : List Char) : Except Defect (List Char × List Char × Bool) :=
  seekValue s (s.length + 2) (numberOf ['='] s) none true

/-- The parts of a key with points in it. Parts that are quoted keep their points. -/
def keyLevels (s : List Char) : List (List Char) :=
  if s.any isQuote then go false (stretches s) else s.splitOn '.'
where
  go (inside : Bool) : List (List Char) → List (List Char)
    | [] => []
    | p :: rest => (if inside then [p] else (p.splitOn '.').map trim) ++ go (!inside) rest

/-- The names of tables that a key leads through, and the name of its field. Empty names on the way
do not count. -/
def readKey (s : List Char) : Except Defect (List String × String) :=
  if s.contains '.' then
    match (keyLevels s).reverse.dropWhile (·.isEmpty) with
    | [] => .error .cutOff
    | last :: above =>
      .ok ((above.reverse.filter (!·.isEmpty)).map String.ofList, String.ofList (trim last))
  else
    match s.head?, s.getLast? with
    | some first, some last =>
      if isQuote first && first == last then
        (unescape (unbracketed s)).map fun k => ([], String.ofList k)
      else .ok ([], String.ofList s)
    | _, _ => .error .cutOff

/-! ### Long texts -/

/-- A text that goes on in the lines to come, or a list that ends in one. -/
structure LongText where
  key : String
  text : List Char
  /-- Whether a backslash joins the next line that is not empty. -/
  joined : Bool
  deriving DecidableEq, Repr

/-- Takes the end of a line into a long text. An odd number of backslashes there joins the next
line. -/
def LongText.endLine (key : String) (text : List Char) : LongText :=
  if oddSlashes text.reverse then ⟨key, text.dropLast, true⟩ else ⟨key, text ++ ['\n'], false⟩

/-- The last pieces between commas, as many as it takes to have a quote in front. -/
def lastText (piece : List Char) : List (List Char) → Except Defect (List Char)
  | [] => .ok piece
  | above :: rest =>
    match piece with
    | [] => .error .cutOff
    | c :: _ => if isQuote c then .ok piece else lastText (above ++ ',' :: piece) rest

/-- Whether a value ends inside of a long text. -/
def endsInText (s : List Char) : Except Defect Bool := do
  if s.length < 3 then return false
  let startsTexts := (trim (unbracketed s)).head?.any isQuote
  let s ←
    if s.head? = some '[' ∧ s.getLast? ≠ some ']' ∧ startsTexts then
      match ((trim (s.drop 1)).splitOn ',').reverse with
      | [] => pure s
      | piece :: rest => lastText piece rest
    else pure s
  match s with
  | q :: rest =>
    if !isQuote q then return false
    match rest with
    | [] => throw .cutOff
    | c :: rest =>
      if c != q then return false
      match rest with
      | [] => throw .cutOff
      | c :: _ => return c == q && (s.length ≤ 5 || !([q, q, q].isPrefixOf s.reverse))
  | [] => throw .cutOff

/-! ### Values -/

/-- Puts the key and the value of a setting into a table. A text that goes on is not put there, but
returned. `value` reads a value, given whether it may be a number. -/
def readSetting (value : Bool → List Char → Except Defect Value) (s : List Char) (here : Value) :
    Except Defect (Value × Option LongText) := do
  let (key, text, tidy) ← splitSetting s
  let (above, name) ← readKey key
  changeUnder (fun v => do
    if ← endsInText text then
      let _ ← addField name .null v
      if name.isEmpty then throw .unnamed
      return (v, some (LongText.endLine name text))
    else
      let w ← value tidy text
      return (← addField name w v, none)) above here

/-- Puts settings into a table, up to one with a text that goes on. -/
def readSettings (value : Bool → List Char → Except Defect Value) :
    List (List Char) → Value → Except Defect Value
  | [], here => .ok here
  | s :: rest, here => do
    match ← readSetting value s here with
    | (here, none) => readSettings value rest here
    | (here, some _) => return here

/-- Puts the fields of a table on one line into a table. -/
def readFields (value : Bool → List Char → Except Defect Value) (s : List Char) (here : Value) :
    Except Defect Value := do
  readSettings value (← fieldsOf s) here

/-- What the items of a list have to have in common. -/
def sort : Value → String
  | .moment (.both d _ _) => (Moment.date d).kind
  | v => v.kind

/-- The items of a list, all of one sort. Empty ones do not count. -/
def readItems (value : List Char → Except Defect Value) :
    List Value → List (List Char) → Except Defect (List Value)
  | _, [] => .ok []
  | before, s :: rest => do
    if (trim s).isEmpty then readItems value before rest
    else
      let v ← value (trim s)
      if before.any (sort · != sort v) then throw .malformed
      return v :: (← readItems value [v] rest)

/-- A value that is one word: a time, a date, or a number if it is `tidy`. -/
def readPlain (tidy : Bool) (s : List Char) : Except Defect Value := do
  if let some t := readTime? s then
    if t.exists? then return .moment (.time t) else throw .malformed
  if let some m ← readDate? s then return .moment m
  match if tidy then readNumber? s else none with
  | some v => return v
  | none => throw .malformed

/-- Reads a value. Of the `room` for what lies in it each list takes two parts and each table
three. -/
def readValue (room : Nat) (tidy : Bool) (s : List Char) : Except Defect Value :=
  match s with
  | [] => .error .malformed
  | c :: _ =>
    if s = "true".toList then .ok (.bool true)
    else if s = "false".toList then .ok (.bool false)
    else if isQuote c then (readText c s).map fun t => .str (String.ofList t)
    else if c == '[' then
      match room with
      | room + 2 => do
        let items ← itemsOf s
        return .list (← readItems (readValue room true) [] items)
      | _ => .error .tooDeep
    else if c == '\x7b' then
      match room with
      | room + 3 => readFields (readValue room) s (.tableOf .inline [])
      | _ => .error .tooDeep
    else readPlain tidy s

/-- How deep values may lie in each other. -/
def fullRoom : Nat := 980

end Restyle.Toml
