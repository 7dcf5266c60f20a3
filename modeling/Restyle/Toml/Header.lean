import Restyle.Text.Blank
import Restyle.Toml.Place
import Restyle.Toml.Quotes

/-!
Headers. `[a.b]` opens a table, `[[a.b]]` adds a table to a list of them.
-/
namespace Restyle.Toml

open Text

/-- What the names of tables are made of when they have no quotes. -/
def isBareKey (c : Char) : Bool := c.isAlphanum || c == '_' || c == '-'

/-- The parts of a header's name. A part that begins with a quote goes on, over points, to where the
same quote stands before a point or the end. `open?` is what there is of it so far. -/
def readNames (open? : Option (List Char)) : List (List Char) → Except Defect (List String)
  | [] => if open?.isSome then .error .malformed else .ok []
  | part :: rest => do
    let raw := match open? with
      | some front => front ++ '.' :: part
      | none => trim part
    let s := trim raw
    match s with
    | [] => throw .malformed
    | q :: inner =>
      if q == '"' || q == '\'' then
        if inner.getLast? = some q then
          return String.ofList inner.dropLast :: (← readNames none rest)
        else readNames (some raw) rest
      else if s.all isBareKey then return String.ofList s :: (← readNames none rest)
      else throw .malformed

/-- A header is followed by nothing on its line. The second part tells whether it adds to a list. -/
def readHeader (line : List Char) : Except Defect (List String × Bool) := do
  let many := ['[', '['].isPrefixOf line
  let s := line.drop (if many then 2 else 1)
  let close := if many then [']', ']'] else [']']
  let n := numberOf close s
  let (names, rest) := cutAt close n s
  if countOf close s < n || !(trim rest).isEmpty then throw .malformed
  return (← readNames none (names.splitOn '.'), many)

/-- What a header leads to: the tables, the place of the one it opens, and the names of tables that
have come to be on the way to others and may get a header of their own. -/
structure Opened where
  value : Value
  place : Place
  implied : List String

def Opened.below (o : Opened) (rebuild : Value → Value) (steps : Place) : Opened :=
  { o with value := rebuild o.value, place := steps ++ o.place }

/-- Steps to the last item of a list, where a header adds to one. -/
def intoLast (many : Bool) (open' : Value → Except Defect Opened) (v : Value) :
    Except Defect Opened :=
  match many, v with
  | false, v => open' v
  | true, .tableOf form t => open' (.tableOf form t)
  | true, .list items =>
    match items.getLast? with
    | none => .error .cutOff
    | some item => (open' item).map (·.below (fun w => .list (items.dropLast ++ [w])) [.last])
  | true, .str s => if s.isEmpty then .error .cutOff else (open' .null).map (·.below (fun _ => v) [])
  | true, _ => .error .notTable

/-- What a header makes under a name that is not there. -/
def newEntry (many final : Bool) : Value :=
  if many && final then .list [.table []] else .table []

/-- Opens the table under the names. Of a list on the way the last item is meant. -/
def openTable (many : Bool) : List String → List String → Value → Except Defect Opened
  | [], implied, v => .ok ⟨v, [], implied⟩
  | name :: rest, implied, v => do
    if name.isEmpty then throw .malformed
    let final := rest.isEmpty
    match v with
    | .tableOf form t =>
      let enter (implied : List String) (w : Value) : Except Defect Opened :=
        (intoLast many (openTable many rest implied) w).map
          (·.below (fun w => .tableOf form (assign name w t)) [.key name])
      match t.lookup name with
      | none => enter (if final then implied else name :: implied) (newEntry many final)
      | some w =>
        if !final then enter implied w
        else if implied.contains name then
          if many then throw .malformed else enter (implied.erase name) w
        else
          match many, w with
          | true, .list items => enter implied (.list (items ++ [.table []]))
          | true, _ => throw .notTable
          | false, _ => throw .malformed
    | .list items =>
      match items.getLast? with
      | none => throw .cutOff
      | some (.tableOf form t) =>
        let w := (t.lookup name).getD (newEntry many final)
        (intoLast many (openTable many rest implied) w).map
          (·.below (fun w => .list (items.dropLast ++ [.tableOf form (assign name w t)]))
            [.last, .key name])
      | some _ => throw .notTable
    | .str s => if s.isEmpty then throw .cutOff else throw .notTable
    | _ => throw .notTable

end Restyle.Toml
