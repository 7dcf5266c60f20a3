import Restyle.Text.Blank
import Restyle.Text.Word
import Restyle.Toml.Defect

/-!
The lines of a settings file as they are to be read. Comments become blanks, a list that goes over
lines comes into one line, and the line end behind the quotes that open a long text goes. On the way
it is made sure that every setting has a key, and that every text on one line ends on it.
-/
namespace Restyle.Toml

open Text

/-- Where the scan stands: outside of keys, in a key, or behind one and before its equals sign. -/
inductive KeyPlace where
  | outside | inside | behind
  deriving DecidableEq, Repr

structure Layout where
  /-- What lies behind, from the last character on. What lies before the first character is taken to
  be the end of the file. -/
  past : List Char
  /-- How many lists are open. -/
  lists : Int
  /-- The quote of the text that is open. -/
  quote : Option Char
  /-- Whether a text between three quotes is open. A single quote in it may seem to close it. -/
  long : Bool
  /-- Whether the scan is in the header of a table, or in that of an item of a list of tables. -/
  header : Bool
  itemHeader : Bool
  comment : Bool
  /-- Whether there were only blanks on the line so far. -/
  fresh : Bool
  key : KeyPlace
  /-- Whether the key has parts. -/
  dotted : Bool
  deriving DecidableEq, Repr

def isQuote (c : Char) : Bool := c == '"' || c == '\''

/-- Whether an odd number of backslashes comes first. -/
def oddSlashes (s : List Char) : Bool := (s.takeWhile (· == '\\')).length % 2 == 1

namespace Layout

/-- The start of a file. -/
def start (s : List Char) : Layout :=
  { past := s.reverse, lists := 0, quote := none, long := false, header := false
    itemHeader := false, comment := false, fresh := true, key := .outside, dotted := false }

def pass (l : Layout) (c : Char) : Layout := { l with past := c :: l.past }

def inHeader (l : Layout) : Bool := l.header || l.itemHeader

/-- The equals sign, and nothing else, ends a key. -/
def endKey (l : Layout) (c : Char) : Except Defect (Layout × Bool) :=
  if c == '=' then .ok ({ l with key := .outside, dotted := false }, false) else .error .malformed

/-- A point behind a key, or a blank behind one with parts: what comes next tells whether another
part begins. -/
def beforePart (l : Layout) : List Char → Except Defect (Layout × Bool)
  | [] => .error .cutOff
  | next :: _ =>
    .ok ({ l with dotted := true
                  key := if isBlank next || next == '.' then .behind else .inside }, true)

/-- A character of a key. The second part tells whether it is done with. -/
def keyStep (l : Layout) (c : Char) (ahead : List Char) : Except Defect (Layout × Bool) :=
  if l.key = .outside then .ok (l, false)
  else if c == '\n' then .error .malformed
  else
    match l.quote with
    | some q =>
      if c == q && !oddSlashes l.past then .ok ({ l with key := .behind, quote := none }, true)
      else .ok (l, true)
    | none =>
      if l.key = .inside then
        if isBlank c then .ok ({ l with key := .behind }, true)
        else if c == '.' then .ok ({ l with dotted := true }, true)
        else if isWord c || c == '-' then .ok (l, true)
        else if l.dotted && l.past.head? == some '.' && isQuote c then
          .ok ({ l with quote := some c }, true)
        else l.endKey c
      else if isBlank c && !l.dotted then .ok (l, true)
      else if isBlank c || c == '.' then l.beforePart ahead
      else l.endKey c

/-- A quote opens or closes a text, the third of three quotes a long one. A backslash before a
double quote takes that away. -/
def quoteStep (l : Layout) (c : Char) : Layout :=
  if !isQuote c || (l.quote.isSome && l.quote != some c) then l
  else
    let third := [c, c].isPrefixOf l.past
    if c == '"' && oddSlashes (if third then l.past.drop 2 else l.past) then l
    else
      let long := l.long != third
      let opens := if third then long else l.quote.isNone
      { l with long, quote := if opens then some c else none }

/-- A bracket outside of texts opens or closes a header or a list. -/
def bracketStep (l : Layout) (c : Char) (ahead : List Char) : Layout :=
  if l.quote.isSome then l
  else if c == '[' then
    if l.inHeader then l
    else if !l.fresh then { l with lists := l.lists + 1 }
    else if ahead.head? == some '[' then { l with itemHeader := true }
    else { l with header := true }
  else if c == ']' then
    if l.header then { l with header := false }
    else if l.itemHeader then { l with itemHeader := l.past.head? != some ']' }
    else { l with lists := l.lists - 1 }
  else l

/-- The line end behind two quotes of a long text gives its place to a third. If there are three
already the first one gives its place to a blank. -/
def shiftQuotes (past : List Char) : List Char :=
  match past with
  | a :: b :: more =>
    if isQuote a && a == b then
      match more with
      | c :: rest => a :: a :: b :: (if c == a then ' ' else c) :: rest
      | [] => [a, a, b]
    else '\n' :: past
  | _ => '\n' :: past

def lineEnd (l : Layout) : Except Defect Layout :=
  let l := { l with comment := false }
  if l.quote.isSome || l.long then
    if l.long then .ok { l with past := shiftQuotes l.past } else .error .malformed
  else if l.lists ≠ 0 then .ok (l.pass ' ')
  else .ok { l.pass '\n' with fresh := true }

/-- The first character on a line that is no blank begins a header or a key. -/
def startLine (l : Layout) (c : Char) : Except Defect Layout :=
  if !l.fresh || c == ' ' || c == '\t' then .ok l
  else if l.inHeader then .ok { l with fresh := false }
  else if c == '=' then .error .malformed
  else .ok { l with fresh := false, key := .inside }

/-- Takes one character; `ahead` is what comes behind it. -/
def step (l : Layout) (c : Char) (ahead : List Char) : Except Defect Layout := do
  if l.comment && c != '\n' then return l.pass ' '
  let (l, done) ← l.keyStep c ahead
  if done then return l.pass c
  let l := l.quoteStep c
  if c == '#' && l.quote.isNone && !l.inHeader then return { l.pass ' ' with comment := true }
  if c == '\n' then l.lineEnd
  else
    let l ← (l.bracketStep c ahead).startLine c
    return l.pass c

def run (l : Layout) : List Char → Except Defect Layout
  | [] => .ok l
  | c :: rest => do run (← l.step c rest) rest

end Layout

/-- The lines of a file. A key without a value or a text that is not closed makes it none. -/
def layout (s : List Char) : Except Defect (List (List Char)) := do
  let l ← (Layout.start s).run s
  if l.key ≠ .outside || l.quote.isSome then throw .malformed
  return ((l.past.take s.length).reverse).splitOn '\n'

end Restyle.Toml
