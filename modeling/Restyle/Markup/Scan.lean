import Restyle.Markup.Attribute

/-!
Where a tag or an expression in braces ends. The scan steps over the text one character at a time
and knows whether it is inside quotes and how many braces are open.
-/
namespace Restyle.Markup

/-- What the scan knows: the quote that is open, whether the next character is escaped in it, and
how many braces are open. The count goes below zero when more were closed than opened. -/
structure Scan where
  quote : Option Char
  escaped : Bool
  depth : Int
  deriving DecidableEq, Repr

namespace Scan

def start : Scan := ⟨none, false, 0⟩

/-- What a character does: in quotes a backslash escapes the next one and only the same quote ends
them; outside of them quotes open and braces count. -/
def step (s : Scan) (c : Char) : Scan :=
  match s.quote with
  | some q =>
    if s.escaped then { s with escaped := false }
    else if c == '\\' then { s with escaped := true }
    else if c == q then { s with quote := none }
    else s
  | none =>
    if isQuote c then { s with quote := some c }
    else if c == '\x7b' then { s with depth := s.depth + 1 }
    else if c == '\x7d' then { s with depth := s.depth - 1 }
    else s

/-- Whether the character ends what is looked for: a closing brace that closes the last open one,
or another character outside quotes and braces. -/
def ends (closer c : Char) (s : Scan) : Bool :=
  s.quote.isNone && !isQuote c && c != '\x7b' && c == closer &&
    (if c == '\x7d' then s.depth == 1 else s.depth == 0)

def run (s : Scan) (text : List Char) : Scan := text.foldl step s

/-- How far on the first character is that ends what is looked for. -/
def closing (closer : Char) (s : Scan) : List Char → Option Nat
  | [] => none
  | c :: rest =>
    if ends closer c s then some 0 else (closing closer (s.step c) rest).map (· + 1)

theorem run_append (s : Scan) (a b : List Char) : s.run (a ++ b) = (s.run a).run b := by
  simp [run]

end Scan

/-- The index of the character that ends what starts at `start`. -/
def closingAt (closer : Char) (line : List Char) (start : Nat) : Option Nat :=
  (Scan.start.closing closer (line.drop start)).map (· + start)

/-- The index of the `>` of the tag that opens at `start`, if it is on this line. -/
def tagEnd (line : List Char) (start : Nat) : Option Nat := closingAt '>' line (start + 1)

/-- A stretch of one line: from `first` up to and without `stop`. -/
structure Span where
  row : Nat
  first : Nat
  stop : Nat
  deriving DecidableEq, Repr

/-- How many lines a tag may take. -/
def maxTagLines : Nat := 20

/-- The stretches of the lines behind the first one of a tag, up to its `>`. -/
def laterSpans (row : Nat) : List (List Char) → List Span
  | [] => []
  | line :: rest =>
    match closingAt '>' line 0 with
    | some close => [⟨row, 0, close⟩]
    | none => ⟨row, 0, line.length⟩ :: laterSpans (row + 1) rest

/-- The stretches that the tag takes which opens at `start` of the line `row`. -/
def tagSpans (lines : List (List Char)) (row start : Nat) : List Span :=
  let line := lines.getD row []
  match tagEnd line start with
  | some stop => [⟨row, start, stop⟩]
  | none =>
    ⟨row, start, line.length⟩ ::
      laterSpans (row + 1) ((lines.drop (row + 1)).take (maxTagLines - 1))

end Restyle.Markup
