import Restyle.Toml.Layout

/-!
Lists and tables on one line, cut at their commas into the texts of their items and fields.
-/
namespace Restyle.Toml

open Text

/-- A list or a table without the brackets around it. -/
def unbracketed (s : List Char) : List Char := (s.drop 1).dropLast

/-! ### Items of lists -/

/-- The items of a list of lists: commas between brackets part nothing. -/
def splitLists (depth : Int) (item : List Char) : List Char → List (List Char)
  | [] => [item.reverse]
  | c :: rest =>
    if c == '[' then splitLists (depth + 1) (c :: item) rest
    else if c == ']' then splitLists (depth - 1) (c :: item) rest
    else if c == ',' && depth == 0 then item.reverse :: splitLists depth [] rest
    else splitLists depth (c :: item) rest

/-- Where a scan over a list of tables stands. -/
inductive TablePlace where
  /-- Right behind a table, where anything may stand. -/
  | behind
  | between
  /-- In a table, of which `past` lies behind, from the last character on. -/
  | inside (past : List Char) (depth : Nat) (quoted : Bool)

/-- The items of a list of tables. Quotes of both kinds open and close texts. -/
def splitTables : TablePlace → List Char → List (List Char)
  | _, [] => []
  | .behind, _ :: rest => splitTables .between rest
  | .between, c :: rest =>
    splitTables (if c == '\x7b' then .inside [c] 1 false else .between) rest
  | .inside past depth quoted, c :: rest =>
    let quoted := if isQuote c then !quoted || oddSlashes past else quoted
    let depth := if !quoted && c == '\x7b' then depth + 1 else depth
    if quoted || c != '\x7d' then splitTables (.inside (c :: past) depth quoted) rest
    else if 1 < depth then splitTables (.inside (c :: past) (depth - 1) quoted) rest
    else (c :: past).reverse :: splitTables .behind rest

/-- Whether a piece between commas is a text that is not closed on it. -/
def isOpenText (piece : List Char) : Bool :=
  let s := trim piece
  match s with
  | [] => false
  | q :: rest =>
    let back := s.reverse
    back.head? != some q || oddSlashes (back.drop 1 |>.take (rest.length - 1)) ||
      ([q, q].isPrefixOf rest && (back.drop 1).head? != some q && (back.drop 2).head? != some q)

/-- Joins the pieces between commas that belong to one text. Nothing has to close the last piece if
the one before it is closed. -/
def joinTexts : Option (List Char) → List (List Char) → Except Defect (List (List Char))
  | none, [] => .ok []
  | none, [piece] => .ok [piece]
  | none, piece :: rest =>
    if isOpenText piece then joinTexts (some piece) rest
    else (joinTexts none rest).map (piece :: ·)
  | some _, [] => .error .cutOff
  | some piece, next :: rest =>
    let piece := piece ++ ',' :: next
    if isOpenText piece then joinTexts (some piece) rest
    else (joinTexts none rest).map (piece :: ·)

/-- The texts of a list's items. What its first item is tells how it is cut. -/
def itemsOf (s : List Char) : Except Defect (List (List Char)) :=
  let s := unbracketed s
  match (skipBlanks s).head? with
  | some '[' => .ok (splitLists 0 [] s)
  | some '\x7b' => .ok (splitTables .between s)
  | some c => if isQuote c then joinTexts none (s.splitOn ',') else .ok (s.splitOn ',')
  | none => .ok []

/-! ### Fields of tables -/

/-- Whether a field's value can end at a comma. -/
def canEnd (first last : Char) (s : List Char) : Bool :=
  (isQuote first && first == last) || first == '-' || first.isDigit || s == "true".toList ||
    s == "false".toList || (first == '[' && last == ']') || (first == '\x7b' && last == '\x7d')

/-- Joins the pieces between commas that belong to one field. -/
def joinFields (front : List Char) : List (List Char) → Except Defect (List (List Char))
  | [] => .ok []
  | piece :: rest =>
    let field := front ++ piece
    match field.dropWhile (· != '=') with
    | [] => .error .malformed
    | _ :: value =>
      let s := trim value
      match s.head?, s.getLast? with
      | some first, some last =>
        if canEnd first last s then (joinFields [] rest).map (field :: ·)
        else if rest.isEmpty then .error .malformed
        else joinFields (field ++ [',']) rest
      | _, _ => .error .cutOff

/-- The texts of a table's fields. -/
def fieldsOf (s : List Char) : Except Defect (List (List Char)) :=
  let s := unbracketed s
  if (trim s).isEmpty then .ok [] else joinFields [] (s.splitOn ',')

end Restyle.Toml
