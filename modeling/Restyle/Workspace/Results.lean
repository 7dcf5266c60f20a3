import Restyle.Workspace.Basic

/-!
Results as tables of values, with their fields in the order in which they are written.
-/
namespace Restyle

namespace Value

def ofChars (cs : List Char) : Value := .str (String.ofList cs)

def ofTexts (ss : List String) : Value := .list (ss.map .str)

/-- A map as a table, where a later value takes the place of an earlier one with the same text. -/
def ofMap (m : List (Key × Value)) : Value := .table (ofPairs (m.map fun (k, v) => (k.name, v)))

def ofNat (n : Nat) : Value := .int n

def ofOption {α : Type} (f : α → Value) : Option α → Value
  | some a => f a
  | none => .null

end Value

open Value

def Confidence.toValue (c : Confidence) : Value := .real c.toBinary

def Detection.toValue (d : Detection) : Value :=
  .table [("framework", .str d.framework.name), ("confidence", d.confidence.toValue),
    ("evidence", ofTexts d.evidence), ("version", d.version),
    ("build_tool", ofOption .str d.buildTool)]

/-- What is known of a place. Plain pages tell of no rules. -/
def Details.toValue (f : Framework) (d : Details) : Value :=
  let rules := if f = .html then [] else [("matched_rules", ofTexts (d.rules.map (·.name)))]
  let column (key : String) (n : Option Nat) := (n.map fun n => (key, ofNat n)).toList
  .table (rules ++ [("module_type", .str d.module)] ++
    column "class_name_column" d.classColumn ++ column "style_column" d.styleColumn)

def SourceInfo.toValue (s : SourceInfo) : Value :=
  .table [("file_path", .str s.path.text), ("line_number", ofNat s.line),
    ("column_number", ofNat s.column), ("component_name", .str s.component),
    ("framework", .str s.framework.name), ("element_type", .str s.kind.name),
    ("confidence", s.confidence.toValue), ("additional_info", s.details.toValue s.framework)]

namespace Component

mutual

def Hierarchy.outlineValue (h : Hierarchy) : Outline → Value
  | .node name children =>
    .table [("component_name", .str name), ("file_path", .str (h.pathOf name).text),
      ("framework", .str h.framework.name), ("depth", ofNat (h.graph.depth name)),
      ("parent", ofOption .str (h.graph.parent name)),
      ("children", .list (h.outlineValues children))]

def Hierarchy.outlineValues (h : Hierarchy) : List Outline → List Value
  | [] => []
  | o :: rest => h.outlineValue o :: h.outlineValues rest

end

/-- Calls go down with the outline, and two of them nest for each component: one for its table and
one for the list of those below it. -/
def Hierarchy.toValue (h : Hierarchy) : Except Fault Value :=
  let o := h.graph.outline h.root
  if 2 * o.height ≤ maxCalls then .ok (h.outlineValue o) else .error .callsTooDeep

def Found.toValue (m : Found) : Value :=
  .table [("file_path", .str m.path.text), ("component_name", .str m.name),
    ("framework", .str m.framework.name), ("confidence", m.confidence.toValue),
    ("match_type", .str m.fit.word),
    ("location", .table [("line", ofNat m.line), ("column", ofNat m.column),
      ("end_line", ofNat m.line), ("end_column", ofNat (m.column + m.name.length))]),
    ("context", .table [("before_lines", .list (m.before.map ofChars)),
      ("matched_lines", .list (m.matched.map ofChars)),
      ("after_lines", .list (m.after.map ofChars))])]

end Component

def Modification.toValue (m : Modification) : Value :=
  .table [("file_path", .str m.path.text), ("original_content", .str m.before),
    ("modified_content", .str m.after), ("change_type", .str m.method.name),
    ("timestamp", .int m.timestamp), ("backup_path", ofOption .str m.backup)]

def Undo.toValue (u : Undo) : Value :=
  .table [("modifications", .list (u.modifications.map (·.toValue))),
    ("can_rollback", .bool u.allowed)]

def Conflict.toValue (c : Conflict) : Value :=
  .table [("type", .str "file-changed"), ("file_path", .str c.path.text),
    ("description", .str c.description), ("suggestions", ofTexts c.suggestions)]

def Conflict.listValue (cs : List Conflict) : Value :=
  .table [("has_conflicts", .bool !cs.isEmpty), ("conflicts", .list (cs.map (·.toValue)))]

namespace EditReport

def edited? (r : EditReport) : Option Edited := r.outcome.toOption

def problem? (r : EditReport) : Option Problem :=
  match r.outcome with
  | .ok _ => none
  | .error p => some p

def modifiedFiles (r : EditReport) : List String :=
  (r.edited?.toList.flatMap (·.modifications)).map (·.path.text)

def backupFiles (r : EditReport) : List String := r.edited?.toList.flatMap (·.backups)

def styles (r : EditReport) : Style.Declarations := r.edited?.toList.flatMap (·.styles)

def toValue (r : EditReport) : Value :=
  .table [("success", .bool r.edited?.isSome), ("modified_files", ofTexts r.modifiedFiles),
    ("backup_files", ofTexts r.backupFiles), ("applied_styles", ofMap r.styles),
    ("error", ofOption (fun p => .str p.message) r.problem?),
    ("error_code", ofOption (fun p => .str p.code) r.problem?),
    ("rollback_info", ofOption Undo.toValue r.undo?),
    ("conflicts", if r.conflicts.isEmpty then .null else Conflict.listValue r.conflicts)]

end EditReport

end Restyle
