/-!
Texts whose styles have been read. Of the styles only the ones matter that cannot be set: a text
with such a style cannot be shown, unless the style lies on nothing that is seen.
-/
namespace Restyle.Console

/-- The places from `start` on and before `stop`. -/
structure Stretch where
  start : Nat
  stop : Nat
  deriving DecidableEq, Repr

structure Marked where
  text : List Char
  /-- Where styles lie that cannot be set. -/
  faults : List Stretch
  deriving DecidableEq, Repr

namespace Marked

def plain (s : List Char) : Marked := ⟨s, []⟩

/-- Keeps the first `n` characters. What begins behind them goes, even if it lies on nothing. -/
def crop (n : Nat) (m : Marked) : Marked :=
  { text := m.text.take n
    faults := (m.faults.filter (·.start < n)).map fun f => { f with stop := min f.stop n } }

/-- The part from one place to another. A style that lies on nothing in it goes. -/
def part (start stop : Nat) (m : Marked) : Marked :=
  { text := (m.text.take stop).drop start
    faults := m.faults.filterMap fun f =>
      let a := max f.start start
      let b := min f.stop stop
      if a < b then some ⟨a - start, b - start⟩ else none }

/-- The parts between places, of which there may be none. A text that is not cut keeps its styles,
those on nothing too. -/
def divide (places : List Nat) (m : Marked) : List Marked :=
  if places.isEmpty then [m]
  else (0 :: places).zipWith (part · · m) (places ++ [m.text.length])

def append (a b : Marked) : Marked :=
  let n := a.text.length
  { text := a.text ++ b.text
    faults := a.faults ++ b.faults.map fun f => ⟨f.start + n, f.stop + n⟩ }

/-- The places of a character. -/
def placesOf (c : Char) (m : Marked) : List Nat :=
  (m.text.zipIdx.filter (·.1 == c)).map (·.2)

/-- The lines between line feeds. -/
def lines (m : Marked) : List Marked :=
  let places := m.placesOf '\n'
  if places.isEmpty then [m]
  else (0 :: places.map (· + 1)).zipWith (part · · m) (places ++ [m.text.length])

/-- Puts another text in the place of this one. A shorter one is cut to its length. -/
def withText (s : List Char) (m : Marked) : Marked :=
  { (if s.length < m.text.length then m.crop s.length else m) with text := s }

theorem crop_plain (n : Nat) (s : List Char) : (plain s).crop n = plain (s.take n) := rfl

theorem part_plain (a b : Nat) (s : List Char) :
    (plain s).part a b = plain ((s.take b).drop a) := rfl

end Marked

end Restyle.Console
