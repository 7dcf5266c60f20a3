import Restyle.Console.Marked
import Restyle.Console.Width
import Restyle.Text.Blank

/-!
Bringing a text into lines of a width. Lines break behind blanks; a word that is too long for a line
is folded over several, or cut. The package for the console breaks lines this way.
-/
namespace Restyle.Console

open Text

/-- Where the text stands in its lines; as it is, blanks do not fill the line up. -/
inductive Side where
  | asIs | left | center | right
  deriving DecidableEq, Repr

structure Frame where
  width : Nat
  side : Side
  /-- Whether a long word goes on in the next line; it ends in three points otherwise. -/
  folds : Bool
  deriving DecidableEq, Repr

/-- Tabs lead to the next multiple of as many cells. -/
def tabCells : Nat := 8

/-- Adds a part, which may end in a tab, to the line before it. -/
def addTabbed (line part : Marked) : Marked :=
  if part.text.getLast? = some '\t' then
    let n := part.text.length
    let fill := (tabCells - (cellsOf line.text + cellsOf part.text + 1) % tabCells) % tabCells
    line.append
      { text := part.text.dropLast ++ List.replicate (fill + 1) ' '
        faults := part.faults.map fun f =>
          if n ≤ f.stop then { f with stop := f.stop + fill } else f }
  else line.append part

def withoutTabs (m : Marked) : Marked :=
  let places := m.placesOf '\t'
  if places.isEmpty then m
  else (m.divide (places.map (· + 1))).foldl addTabbed (.plain [])

/-- Words with the blanks behind them; the first one has the blanks before it, too. -/
def spacedWords : Nat → List Char → List (List Char)
  | 0, _ => []
  | fuel + 1, s =>
    let (before, s) := s.span isBlank
    let (word, s) := s.span fun c => !isBlank c
    let (behind, s) := s.span isBlank
    if word.isEmpty then [] else (before ++ word ++ behind) :: spacedWords fuel s

/-- The places before each piece but the one at the start of the text. -/
def pieceStarts (place : Nat) : List (List Char) → List Nat
  | [] => []
  | p :: rest => (if place = 0 then [] else [place]) ++ pieceStarts (place + p.length) rest

/-- Where lines break, given the place of the first word and the cells that the line takes before
it. -/
def breaksFrom (f : Frame) (place cells : Nat) : List (List Char) → List Nat
  | [] => []
  | word :: rest =>
    let next := place + word.length
    let own := cellsOf (trimRight word)
    if cells + own ≤ f.width then breaksFrom f next (cells + cellsOf word) rest
    else if own ≤ f.width then
      if cells = 0 ∨ place = 0 then breaksFrom f next cells rest
      else place :: breaksFrom f next (cellsOf word) rest
    else
      let pieces := if f.folds then chop f.width word else [word]
      pieceStarts place pieces ++ breaksFrom f next (cellsOf (pieces.getLast?.getD [])) rest

def breaks (f : Frame) (s : List Char) : List Nat :=
  breaksFrom f 0 0 (spacedWords s.length s)

/-- Drops blanks at the end of a line that has more characters than the line cells. -/
def dropExcess (width : Nat) (m : Marked) : Marked :=
  let n := m.text.length
  let blanks := (m.text.reverse.takeWhile isBlank).length
  if n ≤ width ∨ blanks = 0 then m else m.crop (n - min blanks (n - width))

/-- Cuts a line that takes too many cells. -/
def cut (f : Frame) (m : Marked) : Marked :=
  if cellsOf m.text ≤ f.width then m
  else if f.folds then m.withText (fitted f.width m.text)
  else m.withText (fitted (f.width - 1) m.text ++ ['…'])

def blanks (n : Nat) : List Char := List.replicate n ' '

/-- Puts a line on its side. -/
def place (f : Frame) (m : Marked) : Marked :=
  let bare := cut f (m.withText (trimRight m.text))
  let free := f.width - cellsOf bare.text
  match f.side with
  | .asIs => m
  | .left =>
    let m := cut f m
    { m with text := m.text ++ blanks (f.width - cellsOf m.text) }
  | .center =>
    let m := (Marked.plain (blanks (free / 2))).append bare
    { m with text := m.text ++ blanks (free - free / 2) }
  | .right => (Marked.plain (blanks free)).append bare

/-- The lines of a text. Where there is no room it has none. -/
def wrap (f : Frame) (m : Marked) : List Marked :=
  if f.width = 0 then []
  else
    m.lines.flatMap fun line =>
      let line := withoutTabs line
      (line.divide (breaks f line.text)).map fun part => cut f (place f (dropExcess f.width part))

end Restyle.Console
