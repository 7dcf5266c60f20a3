import Restyle.Text.Search

/-!
A line as the stretches between its quotes. They are taken to lie outside and inside of texts by
turns, the first one outside.
-/
namespace Restyle.Toml

open Text

/-- Pieces between double quotes go into the stretch in single quotes that is open, until that is
closed. Of what comes behind, single quotes part the first piece alone. -/
def closeSingle (inside : List (List Char)) : List (List Char) → List (List Char)
  | [] => inside
  | piece :: rest =>
    if inside.length % 2 == 1 then inside ++ (piece.splitOn '\'' ++ rest)
    else
      closeSingle (inside.dropLast ++ (inside.getLastD [] ++ '"' :: piece).splitOn '\'') rest

def stretches (s : List Char) : List (List Char) :=
  match s.splitOn '"' with
  | first :: rest =>
    if first.contains '\'' then closeSingle (first.splitOn '\'') rest else first :: rest
  | [] => []

/-- The number of the first occurrence of `sep` that lies outside of texts; one more than there are
if none does. -/
def firstOutside (sep : List Char) (inside : Bool) : List (List Char) → Nat
  | [] => 1
  | s :: rest =>
    if !inside && occursIn sep s then 1 else countOf sep s + firstOutside sep (!inside) rest

/-- What stands before and behind the first occurrence of `sep` that lies outside of texts. -/
def numberOf (sep s : List Char) : Nat := firstOutside sep false (stretches s)

end Restyle.Toml
