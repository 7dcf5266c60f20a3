import Restyle.Console.WidthTable
import Restyle.Text.Word

/-!
How many cells of the console texts take, by the count of the package for it.
-/
namespace Restyle.Console

def cellsOfChar (c : Char) : Nat :=
  let n := c.toNat
  if 32 ≤ n && n < 0x7F then 1
  else if Text.inRanges narrowRanges n then 0
  else if Text.inRanges wideRanges n then 2
  else 1

def cellsOf (s : List Char) : Nat := s.foldr (fun c n => cellsOfChar c + n) 0

theorem cellsOf_append (a b : List Char) : cellsOf (a ++ b) = cellsOf a + cellsOf b := by
  induction a with
  | nil => simp [cellsOf]
  | cons c a ih => simp only [cellsOf, List.cons_append, List.foldr_cons] at ih ⊢; omega

/-- A place up to which a text takes `total` cells, looked for between two places. A character of
two cells that goes beyond by one gives way to a blank. The first argument bounds the search. -/
def cutFrom (total : Nat) (s : List Char) : Nat → Nat → Nat → List Char
  | 0, _, _ => s.take total
  | fuel + 1, start, stop =>
    let place := (start + stop) / 2
    let before := s.take (place + 1)
    let cells := cellsOf before
    if cells = total + 1 ∧ before.getLast?.any (cellsOfChar · == 2) then before.dropLast ++ [' ']
    else if cells = total then before
    else if total < cells then cutFrom total s fuel start place
    else cutFrom total s fuel place stop

/-- The text in `total` cells: cut, or filled up with blanks. -/
def fitted (total : Nat) (s : List Char) : List Char :=
  let cells := cellsOf s
  if total = 0 then []
  else if cells ≤ total then s ++ List.replicate (total - cells) ' '
  else cutFrom total s s.length 0 s.length

/-- Pieces of a text, each of which takes at most `width` cells. The piece at hand is in reverse,
with the cells it takes. -/
def chopFrom (width : Nat) (piece : List Char) (cells : Nat) : List Char → List (List Char)
  | [] => [piece.reverse]
  | c :: rest =>
    let own := cellsOfChar c
    if width < cells + own then piece.reverse :: chopFrom width [c] own rest
    else chopFrom width (c :: piece) (cells + own) rest

def chop (width : Nat) (s : List Char) : List (List Char) := chopFrom width [] 0 s

theorem chopFrom_flatten (width : Nat) (s piece : List Char) (cells : Nat) :
    (chopFrom width piece cells s).flatten = piece.reverse ++ s := by
  induction s generalizing piece cells with
  | nil => simp [chopFrom]
  | cons c s ih =>
    simp only [chopFrom]
    split <;> simp [ih]

/-- Folding a word loses no character. -/
theorem chop_flatten (width : Nat) (s : List Char) : (chop width s).flatten = s := by
  simp [chop, chopFrom_flatten]

end Restyle.Console
