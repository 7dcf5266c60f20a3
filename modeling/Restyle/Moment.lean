import Restyle.Number.Shortest

/-!
Dates, times of day, and both together with an offset from universal time or without one. Texts put
the larger unit first and fill up with zeros; fractions of a second have six digits or are left out.
-/
namespace Restyle

structure Date where
  year : Nat
  month : Nat
  day : Nat
  deriving DecidableEq, Repr

structure DayTime where
  hour : Nat
  minute : Nat
  second : Nat
  micros : Nat
  deriving DecidableEq, Repr

inductive Moment where
  | date (d : Date)
  | time (t : DayTime)
  /-- The offset counts minutes, eastwards from universal time. -/
  | both (d : Date) (t : DayTime) (offset : Option Int)
  deriving DecidableEq, Repr

open Number

def zeroFilled (width n : Nat) : List Char :=
  let ds := decimalDigits n
  List.replicate (width - ds.length) '0' ++ ds

namespace Date

def isLeap (year : Nat) : Bool := year % 4 == 0 && (year % 100 != 0 || year % 400 == 0)

def daysIn (year month : Nat) : Nat :=
  match month with
  | 2 => if isLeap year then 29 else 28
  | 4 | 6 | 9 | 11 => 30
  | _ => 31

/-- Whether the calendar has the date. Years have four digits at most. -/
def exists? (d : Date) : Bool :=
  1 ≤ d.year && d.year ≤ 9999 && 1 ≤ d.month && d.month ≤ 12 && 1 ≤ d.day &&
    d.day ≤ daysIn d.year d.month

def text (d : Date) : List Char :=
  zeroFilled 4 d.year ++ '-' :: zeroFilled 2 d.month ++ '-' :: zeroFilled 2 d.day

end Date

namespace DayTime

def exists? (t : DayTime) : Bool :=
  t.hour < 24 && t.minute < 60 && t.second < 60 && t.micros < 1000000

def text (t : DayTime) : List Char :=
  zeroFilled 2 t.hour ++ ':' :: zeroFilled 2 t.minute ++ ':' :: zeroFilled 2 t.second ++
    if t.micros = 0 then [] else '.' :: zeroFilled 6 t.micros

end DayTime

namespace Moment

/-- An offset lies within a day. One that does not has no text. -/
def minutesPerDay : Int := 1440

def hasText : Moment → Bool
  | both _ _ (some m) => -minutesPerDay < m && m < minutesPerDay
  | _ => true

def offsetText (m : Int) : List Char :=
  (if m < 0 then '-' else '+') ::
    zeroFilled 2 (m.natAbs / 60) ++ ':' :: zeroFilled 2 (m.natAbs % 60)

/-- The text with `joint` between date and time. -/
def textWith (joint : Char) : Moment → List Char
  | date d => d.text
  | time t => t.text
  | both d t offset => d.text ++ joint :: t.text ++ (offset.map offsetText).getD []

/-- The text inside of a list: the kind, and the units one by one. Units at the end of a time that
are zero are left out, hours and minutes apart. -/
def nestedText : Moment → List Char
  | date d => call "date" (dateUnits d)
  | time t => call "time" (timeUnits t)
  | both d t none => call "datetime" (dateUnits d ++ timeUnits t)
  | both d t (some m) =>
    call "datetime" (dateUnits d ++ timeUnits t ++ ["tzinfo=".toList ++ offsetText m])
where
  call (kind : String) (units : List (List Char)) : List Char :=
    "datetime.".toList ++ kind.toList ++ '(' :: ", ".toList.intercalate units ++ [')']
  dateUnits (d : Date) : List (List Char) := [d.year, d.month, d.day].map decimalDigits
  timeUnits (t : DayTime) : List (List Char) :=
    ([t.hour, t.minute] ++
      if t.micros ≠ 0 then [t.second, t.micros] else if t.second ≠ 0 then [t.second] else []).map
      decimalDigits

def kind : Moment → String
  | date _ => "datetime.date"
  | time _ => "datetime.time"
  | both _ _ _ => "datetime.datetime"

end Moment

end Restyle
