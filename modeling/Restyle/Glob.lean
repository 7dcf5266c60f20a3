import Restyle.Text.Search
import Restyle.Text.Units

/-!
Patterns for paths and names. A star stands for any text, slashes included, a question mark for
one character, and brackets for one character of a set. Patterns and texts are gone through by their
code points, so that a half is one character.
-/
namespace Restyle.Glob

inductive Item where
  | star
  | any
  | char (c : Nat)
  | oneOf (negated : Bool) (ranges : List (Nat × Nat))
  deriving DecidableEq, Repr

/-- Splits the text of a set at the hyphens that join two ends of a range. Such a hyphen stands
behind `skip` characters at least; a hyphen that ends the text is a character. -/
def rangeParts (skip : Nat) (acc : List Nat) : List Nat → List (List Nat)
  | [] => [acc.reverse]
  | c :: rest =>
    match skip with
    | k + 1 => rangeParts k (c :: acc) rest
    | 0 =>
      if c == '-'.toNat then
        if rest.isEmpty then [(c :: acc).reverse] else acc.reverse :: rangeParts 2 [] rest
      else rangeParts 0 (c :: acc) rest

/-- Takes out the ranges that run backwards, together with both of their ends. -/
def dropBackward : List (List Nat) → List (List Nat)
  | [] => []
  | part :: rest =>
    match dropBackward rest with
    | next :: more =>
      if next.headD 0 < part.getLastD 0 then (part.dropLast ++ next.tail) :: more
      else part :: next :: more
    | [] => [part]

/-- The ends of neighbouring parts as ranges. -/
def rangesBetween : List (List Nat) → List (Nat × Nat)
  | a :: b :: rest => (a.getLastD 0, b.headD 0) :: rangesBetween (b :: rest)
  | _ => []

/-- The characters and ranges of a set. A hyphen before the first of them is a character. -/
def rangesOf (parts : List (List Nat)) : List (Nat × Nat) :=
  match parts with
  | [] :: rest@(_ :: _) => ('-'.toNat, '-'.toNat) :: ranges rest
  | parts => ranges parts
where
  ranges (parts : List (List Nat)) : List (Nat × Nat) :=
    parts.flatten.map (fun c => (c, c)) ++ rangesBetween parts

/-- The set that the text between brackets describes. Whether it is negated shows once the ranges
that run backwards are gone. -/
def readSet (body : List Nat) : Item :=
  let parts := dropBackward (rangeParts (if body.head? = some '!'.toNat then 2 else 1) [] body)
  match parts with
  | (c :: first) :: rest =>
    if c = '!'.toNat then
      if first.isEmpty && rest.isEmpty then .any else .oneOf true (rangesOf (first :: rest))
    else .oneOf false (rangesOf parts)
  | parts => .oneOf false (rangesOf parts)

/-- Takes a sign off the start of a text if it is there. -/
def takeSign (sign : Char) : List Nat → List Nat × List Nat
  | c :: rest => if c = sign.toNat then ([c], rest) else ([], c :: rest)
  | [] => ([], [])

/-- The text up to the bracket that closes a set. A bracket that comes first is a character. -/
def setBody? (s : List Nat) : Option (List Nat × List Nat) :=
  let (bang, s) := takeSign '!' s
  let (bracket, s) := takeSign ']' s
  match s.span (· != ']'.toNat) with
  | (body, _ :: rest) => some (bang ++ bracket ++ body, rest)
  | _ => none

def itemsFrom : Nat → List Nat → List Item
  | 0, _ => []
  | _, [] => []
  | fuel + 1, c :: rest =>
    if c == '*'.toNat then .star :: itemsFrom fuel rest
    else if c == '?'.toNat then .any :: itemsFrom fuel rest
    else if c == '['.toNat then
      match setBody? rest with
      | some (body, rest') => readSet body :: itemsFrom fuel rest'
      | none => .char c :: itemsFrom fuel rest
    else .char c :: itemsFrom fuel rest

def items (pattern : List Nat) : List Item := itemsFrom pattern.length pattern

/-- Whether one character fits an item that is no star. -/
def Item.accepts (c : Nat) : Item → Bool
  | star => false
  | any => true
  | char d => c == d
  | oneOf negated ranges => (ranges.any fun (lo, hi) => lo ≤ c && c ≤ hi) != negated

/-- Whether `p` holds of some end of the text. -/
def someSuffix (p : List Nat → Bool) : List Nat → Bool
  | [] => p []
  | c :: rest => p (c :: rest) || someSuffix p rest

/-- Whether the items describe the text. -/
def fits : List Item → List Nat → Bool
  | [], s => s.isEmpty
  | .star :: rest, s => someSuffix (fits rest) s
  | item :: rest, s =>
    match s with
    | [] => false
    | c :: s' => item.accepts c && fits rest s'

/-- The ends of a text, from the whole of it to the empty one. -/
def ends : List Nat → List (List Nat)
  | [] => [[]]
  | c :: rest => (c :: rest) :: ends rest

/-- Whether one of the answers from each place on is yes. -/
def anyAhead : List Bool → List Bool
  | [] => []
  | b :: rest =>
    let ahead := anyAhead rest
    (b || ahead.headD false) :: ahead

/-- Whether a character comes that the item takes, and the answer behind it is yes. -/
def takeOne (item : Item) : List Nat → List Bool → List Bool
  | c :: s, _ :: answers => (item.accepts c && answers.headD false) :: takeOne item s answers
  | _, _ => [false]

/-- Whether the items describe each end of the text. Every item goes over the text once. -/
def fitsEnds (items : List Item) (s : List Nat) : List Bool :=
  match items with
  | [] => (ends s).map List.isEmpty
  | .star :: rest => anyAhead (fitsEnds rest s)
  | item :: rest => takeOne item s (fitsEnds rest s)

theorem anyAhead_ends (p : List Nat → Bool) (s : List Nat) :
    anyAhead ((ends s).map p) = (ends s).map (someSuffix p) := by
  induction s with
  | nil => simp [ends, anyAhead, someSuffix]
  | cons c rest ih =>
    rw [ends, List.map_cons, anyAhead, ih]
    cases rest <;> simp [ends, someSuffix]

theorem takeOne_ends (item : Item) (p : List Nat → Bool) (s : List Nat) :
    takeOne item s ((ends s).map p) = (ends s).map fun
      | [] => false
      | c :: s' => item.accepts c && p s' := by
  induction s with
  | nil => simp [ends, takeOne]
  | cons c rest ih =>
    rw [ends, List.map_cons, takeOne, ih]
    cases rest <;> simp [ends]

theorem fitsEnds_eq (items : List Item) (s : List Nat) :
    fitsEnds items s = (ends s).map (fits items) := by
  induction items with
  | nil => simp only [fitsEnds]; rfl
  | cons item rest ih =>
    cases item <;> simp only [fitsEnds, ih, anyAhead_ends, takeOne_ends] <;> rfl

theorem fits_eq_headD_fitsEnds (items : List Item) (s : List Nat) :
    fits items s = (fitsEnds items s).headD false := by
  cases s <;> simp [fitsEnds_eq, ends]

/-- Stars in a row say no more than one star. -/
def squeeze : List Item → List Item
  | .star :: .star :: rest => squeeze (.star :: rest)
  | item :: rest => item :: squeeze rest
  | [] => []

/-- Whether a pattern describes a text. -/
def fitsWhole (pattern text : List Char) : Bool :=
  (fitsEnds (squeeze (items (Text.codes pattern))) (Text.codes text)).headD false

/-- Whether the text holds a sign that stands for other characters. -/
def isPattern (pattern : List Char) : Bool :=
  pattern.any fun c => c == '*' || c == '?' || c == '['

/-- The pattern itself, and what follows a leading `**/`. -/
def variants (pattern : List Char) : List (List Char) :=
  match Text.after? "**/".toList pattern with
  | some rest => [pattern, rest]
  | none => [pattern]

/-- Whether a pattern describes an entry, given its path from the root of the search and its name.
A text without signs is the name of the entry or of a directory on the way to it. -/
def selects (path name pattern : String) : Bool :=
  let p := pattern.toList
  if isPattern p then
    (variants p).any fun v => fitsWhole v path.toList || fitsWhole v name.toList
  else name == pattern || ((path.toList.splitOn '/').any fun part => part == p)

end Restyle.Glob
