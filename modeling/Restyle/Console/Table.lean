import Restyle.Console.Tags
import Restyle.Console.Wrap

/-!
Texts, tables and trees on a console of some width, line by line. The columns of a table are as wide
as their longest lines, and all of them together no wider than the console. As all that concerns the
console this stands for a package by others.
-/
namespace Restyle.Console

open Text

/-- The lines of a text. -/
def textLines (width : Nat) (s : String) : Except TagFault (List String) := do
  let ls ← settle (wrap { width, side := .asIs, folds := true } (← mark s))
  return ls.map String.ofList

/-- A table with rows of texts, which may have tags. -/
structure Table where
  title : String
  header : Option (List String)
  /-- The columns whose cells stand on the right. -/
  onRight : List Nat
  rows : List (List String)
  deriving DecidableEq, Repr

/-- What stands in a line of a table before its first cell, between cells, and behind the last. -/
structure Rule where
  before : Char
  fill : Char
  between : Char
  behind : Char
  deriving DecidableEq, Repr

namespace Rule

/-- The lines above a header, below it and through it. -/
def aboveHeader : Rule := ⟨'┏', '━', '┳', '┓'⟩
def belowHeader : Rule := ⟨'┡', '━', '╇', '┩'⟩
def header : Rule := ⟨'┃', ' ', '┃', '┃'⟩

/-- The lines above all rows, below them and through them. -/
def above : Rule := ⟨'┌', '─', '┬', '┐'⟩
def below : Rule := ⟨'└', '─', '┴', '┘'⟩
def row : Rule := ⟨'│', ' ', '│', '│'⟩

/-- A line with these cells. -/
def around (r : Rule) (cells : List (List Char)) : String :=
  String.ofList (r.before :: [r.between].intercalate cells ++ [r.behind])

/-- A line without cells. -/
def across (r : Rule) (widths : List Nat) : String :=
  r.around (widths.map fun w => List.replicate w r.fill)

end Rule

/-! ### Widths of columns -/

/-- Whether a line ends here when the width of a text is asked for. -/
def endsLine (c : Char) : Bool :=
  c == '\n' || ('\x1c' ≤ c && c ≤ '\x1e') || c == '\u0085' || c == '\u2028' || c == '\u2029'

/-- The cells that a cell of a table asks for: those of its longest line, and one on each side. -/
def askedBy (s : List Char) : Nat := ((s.splitOnP endsLine).map cellsOf).foldl max 0 + 2

/-- Takes `total` off the values that are marked, in even shares as far as whole numbers go, but no
more than `most` off any of them. -/
def reduce (most : Nat) : Nat → List (Nat × Bool) → List Nat
  | _, [] => []
  | total, (v, marked) :: rest =>
    if marked then
      let share := shareOf total ((rest.filter (·.2)).length + 1)
      let off := min most share
      (v - off) :: reduce most (total - off) rest
    else v :: reduce most total rest
where
  /-- One of `n` shares, rounded to the nearest; a half goes to the even number. -/
  shareOf (total n : Nat) : Nat :=
    let q := total / n
    let twice := 2 * (total % n)
    if twice < n ∨ (twice = n ∧ q % 2 = 0) then q else q + 1

/-- How many cells columns take together. -/
def together (widths : List Nat) : Nat := widths.foldl (· + ·) 0

/-- Brings columns to a width by taking off the widest ones, down to the next wider ones first. -/
def collapse (total : Nat) : Nat → List Nat → List Nat
  | 0, widths => widths
  | fuel + 1, widths =>
    let excess := together widths - total
    let widest := widths.foldl max 0
    let next := (widths.filter (· != widest)).foldl max 0
    if excess = 0 ∨ widest = next then widths
    else
      collapse total fuel
        (reduce (min excess (widest - next)) excess (widths.map fun w => (w, w == widest)))

/-- The widths of columns, given what their cells ask for and what there is. -/
def columnWidths (total : Nat) (asked : List (List Nat)) : List Nat :=
  let widths := asked.map fun ns => min total (ns.foldl max 0)
  collapse total (together widths) widths

/-! ### Tables -/

/-- The lines of a row. A cell with fewer lines than others is filled up with empty ones. -/
def rowLines (r : Rule) (widths : List Nat) (onRight : List Nat) (cells : List Marked) :
    Except TagFault (List String) := do
  let columns ← (widths.zip cells).zipIdx.mapM fun ((width, cell), n) =>
    settle (wrap
      { width := width - 2, side := if onRight.contains n then .right else .left, folds := false }
      cell)
  let height := (columns.map List.length).foldl max 1
  return (List.range height).map fun n =>
    r.around ((widths.zip columns).map fun (width, ls) => ' ' :: fitted (width - 1) (ls.getD n []))

namespace Table

/-- The lines of the table. -/
def lines (width : Nat) (t : Table) : Except TagFault (List String) := do
  let rows := t.header.toList ++ t.rows
  let count := (rows.map List.length).foldl max 0
  let columns ← (List.range count).mapM fun n => rows.mapM fun row => mark (row.getD n "")
  let widths := columnWidths (width - (count + 1)) (columns.map (·.map (askedBy ·.text)))
  let frame : Frame := { width := together widths + count + 1, side := .center, folds := true }
  let title ← if t.title.isEmpty then pure [] else settle (wrap frame (← mark t.title))
  let cells := (List.range rows.length).map fun n => columns.map (·.getD n (.plain []))
  let head ← (cells.take (rows.length - t.rows.length)).mapM (rowLines .header widths t.onRight)
  let body ← (cells.drop (rows.length - t.rows.length)).mapM (rowLines .row widths t.onRight)
  let top := if head.isEmpty then [Rule.above.across widths]
    else Rule.aboveHeader.across widths :: head.flatten ++ [Rule.belowHeader.across widths]
  return title.map String.ofList ++ top ++ body.flatten ++ [Rule.below.across widths]

end Table

/-! ### Trees -/

/-- A label with what hangs below it. -/
inductive Branch where
  | node (label : String) (below : List Branch)
  deriving Repr

/-- The guides before a branch and before what hangs below it. -/
def guides (isLast : Bool) : String × String :=
  if isLast then ("└── ", "    ") else ("├── ", "│   ")

/-- The cells that a guide takes. -/
def guideCells : Nat := 4

mutual

/-- The lines of a branch and of those below it, without what stands before them. The first line
below a label of several lines comes behind the last of them. -/
def Branch.lines (width : Nat) : Branch → Except TagFault (List String)
  | .node label below => do
    let label ← textLines width label
    let rest ← linesBelow (width - guideCells) below
    return label ++ rest

/-- The lines of branches with their guides. -/
def linesBelow (width : Nat) : List Branch → Except TagFault (List String)
  | [] => .ok []
  | b :: rest => do
    let own ← b.lines width
    let others ← linesBelow width rest
    let (first, more) := guides rest.isEmpty
    let marked := match own with
      | [] => []
      | l :: ls => (first ++ l) :: ls.map (more ++ ·)
    return marked ++ others

end

end Restyle.Console
