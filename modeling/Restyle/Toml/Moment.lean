import Restyle.Moment
import Restyle.Number.Reading
import Restyle.Toml.Defect

/-!
Dates and times in settings files. The units stand at fixed places, whatever stands between them.
-/
namespace Restyle.Toml

open Number

/-- The characters from `first` on that lie before `last`. -/
def stretch (first last : Nat) (s : List Char) : List Char := (s.take last).drop first

/-- An offset from universal time in minutes. -/
def readOffset? (s : List Char) : Option Int :=
  if s = ['Z'] then some 0
  else do
    let hours ← readInt? (stretch 1 3 s)
    let minutes ← readInt? (stretch 4 6 s)
    some ((60 * hours + minutes) * if s.head? = some '-' then -1 else 1)

/-- How many millionths of a second a fraction is. With more than six digits it is worked out with
binary numbers, and what lies below a millionth goes. -/
def micros (n : Int) (digits : Nat) : Except Defect Int :=
  if digits ≤ 6 then .ok (n * (Nat.pow 10 (6 - digits) : Nat))
  else
    match Binary64.ofRat n with
    | .finite x =>
      let scaled := Number.nearest (x * Number.nearest ((10 : Rat) ^ (6 - digits : Int)))
      .ok (if scaled < 0 then -(-scaled).floor else scaled.floor)
    | _ => .error .tooLarge

/-- Splits an offset off a fraction: it begins with the first plus, or else with the first hyphen,
unless it is the letter at the end. -/
def splitOffset (s : List Char) : List Char × Option (List Char) :=
  let cut (sign : Char) := (s.takeWhile (· != sign), some (s.dropWhile (· != sign)))
  if (s.getLast?.map Char.toUpper) = some 'Z' then (s.dropLast, some ['Z'])
  else if s.contains '+' then cut '+'
  else if s.contains '-' then cut '-'
  else (s, none)

/-- What stands behind the seconds: millionths of a second and an offset. Where one of them cannot
be read neither counts. -/
def readTail (s : List Char) : Except Defect (Int × Option Int) :=
  match s with
  | '.' :: rest =>
    let (digits, offset?) := splitOffset rest
    match offset?.mapM readOffset?, readInt? digits with
    | some offset, some n => (micros n digits.length).map fun m => (m, offset)
    | _, _ => .ok (0, none)
  | s => .ok (0, readOffset? s)

def natural? (n : Int) : Option Nat := if 0 ≤ n then some n.toNat else none

/-- A date, alone or with a time of day. -/
def readDate? (s : List Char) : Except Defect (Option Moment) := do
  let unit (first last : Nat) : Option Nat := (readInt? (stretch first last s)).bind natural?
  let (fraction, offset) ← if 19 < s.length then readTail (s.drop 19) else pure (0, none)
  if !(s.drop 1).contains '-' then return none
  return do
    let d : Date := ⟨← unit 0 4, ← unit 5 7, ← unit 8 10⟩
    if !d.exists? then none
    else if s.length = 10 then some (.date d)
    else
      let t : DayTime := ⟨← unit 11 13, ← unit 14 16, ← unit 17 19, ← natural? fraction⟩
      if t.exists? then some (.both d t offset) else none

/-- A time of day at the start of the text. Three to six digits behind a point are millionths of a
second as they stand. -/
def readTime? (s : List Char) : Option DayTime :=
  match s with
  | h :: h' :: ':' :: m :: m' :: ':' :: s :: s' :: rest =>
    if [h, h', m, m', s, s'].all Char.isDigit then
      let fraction := match rest with
        | '.' :: more => (more.take 6).takeWhile Char.isDigit
        | _ => []
      let number (ds : List Char) : Nat := (inBase? 10 digit? ds).getD 0
      some ⟨number [h, h'], number [m, m'], number [s, s'],
        if 3 ≤ fraction.length then number fraction else 0⟩
    else none
  | _ => none

end Restyle.Toml
