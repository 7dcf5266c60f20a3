import Restyle.Number.Reading
import Restyle.Text.NameTable

/-!
Names of characters. Most of them are in a table, where capital and small letters count as the same.
The names of ideographs end in their number, those of syllables in their sounds.
-/
namespace Restyle.Text

open Number

/-- What a name shares with the one before it, and what follows. -/
abbrev NameEntry := Nat × List Char

/-- The entries of the table, and the letters before the first mark. -/
def nameEntries (s : List Char) : List Char × List NameEntry :=
  s.foldr (fun c (letters, entries) =>
    if c == '\n' then (letters, entries)
    else if isNameLetter c then (c :: letters, entries)
    else ([], (sharedMarks.toList.idxOf c, letters) :: entries)) ([], [])
where
  isNameLetter (c : Char) : Bool := c.isUpper || c.isDigit || c == ' ' || c == '-'

/-- How many letters two texts share at their start. -/
def sharedCount : List Char → List Char → Nat
  | a :: as, b :: bs => if a == b then sharedCount as bs + 1 else 0
  | _, _ => 0

/-- Whether a name is among the entries, given how much of it the name before them shares. -/
def isEntry (name : List Char) (shared : Nat) : List NameEntry → Bool
  | [] => false
  | (n, letters) :: rest =>
    if shared < n then isEntry name shared rest
    else
      let shared := n + sharedCount letters (name.drop n)
      (shared == name.length && shared == n + letters.length) || isEntry name shared rest

def isListedName (name : List Char) : Bool :=
  !name.isEmpty && isEntry (name.map Char.toUpper) 0 (nameEntries nameTable.toList).2

/-- The ranges of ideographs without a name of their own. -/
def ideographRanges : List (Nat × Nat) :=
  [(0x3400, 0x4DBF), (0x4E00, 0x9FFF), (0x20000, 0x2A6DF), (0x2A700, 0x2B738), (0x2B740, 0x2B81D),
    (0x2B820, 0x2CEA1), (0x2CEB0, 0x2EBE0), (0x30000, 0x3134A)]

/-- The name of an ideograph ends in four or five digits of base sixteen with capital letters. -/
def isIdeographName (name : List Char) : Bool :=
  let front := "CJK UNIFIED IDEOGRAPH-".toList
  let digits := name.drop front.length
  front.isPrefixOf name && (digits.length == 4 || digits.length == 5) &&
    digits.all (fun c => c.isDigit || c.isUpper) &&
    (inBase? 16 hexValue? digits).any fun n => ideographRanges.any fun (a, b) => a ≤ n && n ≤ b

/-- The sounds that a syllable may begin with, go on with and end in. -/
def syllableSounds : List (List String) :=
  [["G", "GG", "N", "D", "DD", "R", "M", "B", "BB", "S", "SS", "", "J", "JJ", "C", "K", "T", "P",
      "H"],
    ["A", "AE", "YA", "YAE", "EO", "E", "YEO", "YE", "O", "WA", "WAE", "OE", "YO", "U", "WEO", "WE",
      "WI", "YU", "EU", "YI", "I"],
    ["", "G", "GG", "GS", "N", "NJ", "NH", "D", "L", "LG", "LM", "LB", "LS", "LT", "LP", "LH", "M",
      "B", "BS", "S", "SS", "NG", "J", "C", "K", "T", "P", "H"]]

/-- Takes the longest of the sounds off a text. -/
def dropSound (sounds : List String) (s : List Char) : Option (List Char) :=
  let fitting := sounds.filter fun sound => sound.toList.isPrefixOf s
  if fitting.isEmpty then none else some (s.drop ((fitting.map String.length).foldl max 0))

def isSyllableName (name : List Char) : Bool :=
  let front := "HANGUL SYLLABLE ".toList
  front.isPrefixOf name &&
    syllableSounds.foldlM (fun s sounds => dropSound sounds s) (name.drop front.length) == some []

/-- Whether a character has the name. -/
def isCharacterName (name : List Char) : Bool :=
  isIdeographName name || isSyllableName name || isListedName name

end Restyle.Text
