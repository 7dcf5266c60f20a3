import Restyle.Text.CaseTable
import Restyle.Text.Word

/-!
Small and capital letters. `lower` and `upper` change a whole text, `sameLetter` compares two
characters when case does not count.
-/
namespace Restyle.Text

def inSteps (table : Array (Nat × Nat × Nat)) (n : Nat) : Bool :=
  table.any fun (first, last, step) => first ≤ n && n ≤ last && (n - first) % step == 0

/-- Where a run of the table takes the code point `n`, which stays where it is outside all runs. -/
def shifted (table : Array (Nat × Nat × Nat × Int)) (n : Nat) : Nat :=
  match table.find? fun (first, last, step, _) =>
      first ≤ n && n ≤ last && (n - first) % step == 0 with
  | some (_, _, _, shift) => (n + shift).toNat
  | none => n

/-- The small form of one character, always one character. -/
def lowerChar (c : Char) : Char :=
  if c.toNat < 0x80 then c.toLower else Char.ofNat (shifted lowerRuns c.toNat)

/-- The capital form of one character. -/
def upperChar (c : Char) : List Char :=
  if c.toNat < 0x80 then [c.toUpper]
  else match upperSpecial.find? (·.1 == c.toNat) with
    | some (_, cs) => cs.map Char.ofNat
    | none => [Char.ofNat (shifted upperRuns c.toNat)]

def isUpper (c : Char) : Bool :=
  if c.toNat < 0x80 then c.isUpper else inSteps upperRanges c.toNat

def isLower (c : Char) : Bool :=
  if c.toNat < 0x80 then c.isLower else inSteps lowerRanges c.toNat

def isTitle (c : Char) : Bool := inSteps titleRanges c.toNat

/-- A text in capitals has a capital letter and no letter of another case. -/
def allUpper (s : List Char) : Bool :=
  s.any isUpper && s.all fun c => !(isLower c || isTitle c)

/-- Whether the nearest character that counts is a letter with case. -/
def nextToCased (s : List Char) : Bool :=
  match s.dropWhile fun c => inRanges ignorableRanges c.toNat with
  | [] => false
  | c :: _ => inRanges casedRanges c.toNat

def lowerFrom (before : List Char) : List Char → List Char
  | [] => []
  | c :: rest =>
    (if c == 'Σ' then [if nextToCased before && !nextToCased rest then 'ς' else 'σ']
      else if c == 'İ' then ['i', '\u0307'] else [lowerChar c]) ++ lowerFrom (c :: before) rest

/-- The text in small letters. A capital sigma that ends a word gets the final form. -/
def lower (s : List Char) : List Char := lowerFrom [] s

def upper (s : List Char) : List Char := s.flatMap upperChar

/-- A character is caseless when it is its own small form and its own capital form. -/
def hasCase (c : Char) : Bool :=
  lowerChar c != c || (upperChar c).head? != some c

/-- Whether `c` may stand for `p` when case does not count: their small forms are equal, or are
siblings. A caseless `p` stands for itself only. -/
def sameLetter (p c : Char) : Bool :=
  if hasCase p then
    let l := lowerChar p
    let m := lowerChar c
    l == m || caseSiblings.any fun (a, bs) => a == l.toNat && bs.contains m.toNat
  else p == c

theorem sameLetter_self (c : Char) : sameLetter c c := by
  unfold sameLetter
  split <;> simp

end Restyle.Text
