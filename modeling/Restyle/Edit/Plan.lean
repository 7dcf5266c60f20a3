import Restyle.Component.Name
import Restyle.Settings.Basic
import Restyle.Style.Apply

/-!
What an edit is going to write, worked out before anything is written: the changed source, and the
stylesheet with the rule of the generated class.
-/
namespace Restyle

open Text

namespace Style.Method

/-- The method that a word asks for; with `auto` the file decides. -/
def ofWord? : String → Option Method
  | "auto" => none
  | "inline-style" => some inline
  | _ => some byClass

end Style.Method

/-- A stylesheet with one more rule. `current` is the text it has now, if it is there. -/
structure SheetPlan where
  path : Path
  current : Option String
  content : String
  deriving DecidableEq, Repr

structure Plan where
  source : Path
  before : String
  after : String
  method : Style.Method
  sheet : Option SheetPlan
  deriving DecidableEq, Repr

namespace SheetPlan

/-- What a stylesheet that declares the class has in it. -/
def ruleStart (className : String) : String := "." ++ className ++ " \x7b"

/-- The text with the rule on a line of its own at the end. -/
def extend (current : String) (rule : String) : String :=
  let separated := current.isEmpty || current.toList.getLast? == some '\n'
  current ++ (if separated then "" else "\n") ++ rule ++ "\n"

/-- The text of the stylesheet now, if there is one. -/
def read (t : Tree) (p : Path) : Except Fault (Option String) :=
  match t.exists? p with
  | .error e => .error (.tree e)
  | .ok false => .ok none
  | .ok true => (Component.readText t p).map some

/-- What to write to the stylesheet; nothing if none is set or it declares the class already. -/
def ofRule (t : Tree) (root : Path) (setting : Value) (className : String)
    (ds : Style.Declarations) : Except Fault (Option SheetPlan) :=
  if setting.isTruthy then
    match setting with
    | .str name => do
      let path := root.join name
      let current ← read t path
      let text := current.getD ""
      if occursIn (ruleStart className).toList text.toList then return none
      else return some { path, current, content := extend text (Style.rule className ds) }
    | v => .error (.notJoinable v.kind)
  else .ok none

end SheetPlan

namespace Plan

/-- The plan for an element on a line of a file. -/
def make (t : Tree) (root : Path) (sheet : Value) (method : Option Style.Method) (c : Change)
    (file : Path) (line : Int) : Except Problem Plan := do
  let before ← Style.faulty (Component.readText t file)
  let content := before.toList
  match method.getD (Style.chooseMethod content c.styles) with
  | .inline =>
    let after ← Style.applyInline content c line
    return { source := file, before, after := String.ofList after, method := .inline
             sheet := none }
  | .byClass =>
    let name ← Style.faulty (Style.className c.styles)
    let after ← Style.applyClass content c line name.toList
    let sheet ← Style.faulty (SheetPlan.ofRule t root sheet name c.styles)
    return { source := file, before, after := String.ofList after, method := .byClass
             sheet }

end Plan

end Restyle
