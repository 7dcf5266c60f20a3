import Restyle.Number.Reading
import Restyle.Text.CharacterName
import Restyle.Text.Search
import Restyle.Text.Units

/-!
Literals, as they may stand behind the name of a handler: numbers, texts in quotes, the three
constants, and tuples, sets and tables of them. Only whether a text is one matters.
-/
namespace Restyle.Console.Literal

open Number Text

/-- What a literal can be part of. -/
inductive Form where
  /-- A number that may take a sign. -/
  | real | imaginary
  /-- A real number with its sign, to which an imaginary one may be added. -/
  | signed
  | plain
  /-- A set or a table, or a tuple with one in it. It can be no item of a set and no key. -/
  | loose
  deriving DecidableEq, Repr

/-- Steps over blanks, comments and line ends; outside of brackets lines end only behind a
backslash. -/
def skip (inside : Bool) : Nat → List Char → List Char
  | 0, s => s
  | fuel + 1, s =>
    match s with
    | '\\' :: '\n' :: rest => skip inside fuel rest
    | c :: rest =>
      if c == ' ' || c == '\t' || c == '\x0c' || (inside && c == '\n') then skip inside fuel rest
      else if c == '#' then skip inside fuel (rest.dropWhile (· != '\n'))
      else s
    | [] => []

def spaces (inside : Bool) (s : List Char) : List Char := skip inside s.length s

/-- All line ends as line feeds. -/
def withLineFeeds : List Char → List Char
  | '\r' :: '\n' :: rest => '\n' :: withLineFeeds rest
  | '\r' :: rest => '\n' :: withLineFeeds rest
  | c :: rest => c :: withLineFeeds rest
  | [] => []

/-- What stands at the start of a line before anything else: whether it moves the line in, also when
it goes on in the next line, and the rest. A form feed takes back what was moved. -/
def lineStart (moved before : Bool) : List Char → Bool × List Char
  | ' ' :: rest => lineStart true before rest
  | '\t' :: rest => lineStart true before rest
  | '\x0c' :: rest => lineStart false before rest
  | '\\' :: '\n' :: rest => lineStart moved (before || moved) rest
  | s => (moved || before, s)

/-- The first line with more than a comment. It must not be moved in. -/
def firstLine : Nat → List Char → Option (List Char)
  | 0, _ => none
  | fuel + 1, s =>
    match lineStart false false s with
    | (_, '\n' :: rest) => firstLine fuel rest
    | (_, '#' :: rest) => firstLine fuel ((rest.dropWhile (· != '\n')).drop 1)
    | (moved, s) => if moved || s.isEmpty then none else some s

/-! ### Numbers -/

/-- A run of digits with single underscores between them: the digits, and the rest. -/
def run (isDigit : Char → Bool) : List Char → List Char × List Char
  | [] => ([], [])
  | '_' :: c :: rest =>
    if isDigit c then
      let (ds, rest) := run isDigit rest
      (c :: ds, rest)
    else ([], '_' :: c :: rest)
  | c :: rest =>
    if isDigit c then
      let (ds, rest) := run isDigit rest
      (c :: ds, rest)
    else ([], c :: rest)

def decimals (s : List Char) : List Char × List Char :=
  if s.head?.any Char.isDigit then run Char.isDigit s else ([], s)

/-- A power of ten behind a number. -/
def power (s : List Char) : Option (List Char) :=
  match s with
  | e :: rest =>
    if e == 'e' || e == 'E' then
      match decimals (readSign rest).2 with
      | ([], _) => none
      | (_, rest) => some rest
    else none
  | [] => none

def number (s : List Char) : Option (Form × List Char) :=
  let inBase (base : Nat) (rest : List Char) : Option (Form × List Char) :=
    match run (fun c => (hexValue? c).any (· < base)) rest with
    | ([], _) => none
    | (_, rest) => some (.real, rest)
  match s with
  | '0' :: c :: rest =>
    match base? c with
    | some base => inBase base rest
    | none => decimal
  | _ => decimal
where
  decimal : Option (Form × List Char) :=
    let (whole, rest) := decimals s
    let (fraction, point, rest) := match rest with
      | '.' :: rest =>
        let (ds, rest) := decimals rest
        (ds, true, rest)
      | rest => ([], false, rest)
    let (real, rest) := match power rest with
      | some rest => (true, rest)
      | none => (point, rest)
    if whole.isEmpty && fraction.isEmpty then none
    else
      match rest with
      | 'j' :: rest => some (.imaginary, rest)
      | 'J' :: rest => some (.imaginary, rest)
      | rest =>
        let zeros := whole.head? == some '0' && whole.any (· != '0')
        if !real && (zeros || maxDigits < whole.length) then none else some (.real, rest)

/-! ### Texts -/

/-- The rest behind an escape, given what follows its backslash. -/
def escape (bytes : Bool) (s : List Char) : Option (List Char) :=
  let digits (n : Nat) (rest : List Char) : Option (List Char) :=
    (inBase? 16 hexValue? (rest.take n)).bind fun code =>
      if (rest.take n).length < n ∨ 0x110000 ≤ code then none else some (rest.drop n)
  match s with
  | 'N' :: rest => if bytes then some rest else named rest
  | 'x' :: rest => digits 2 rest
  | 'u' :: rest => if bytes then some rest else digits 4 rest
  | 'U' :: rest => if bytes then some rest else digits 8 rest
  | _ :: rest => some rest
  | [] => none
where
  /-- A name in braces. -/
  named : List Char → Option (List Char)
    | '\x7b' :: rest =>
      match rest.span (· != '\x7d') with
      | (name, _ :: rest) => if isCharacterName name then some rest else none
      | _ => none
    | _ => none

/-- The rest behind the quotes that close a text. -/
def textEnd (raw bytes long : Bool) (q : Char) : Nat → List Char → Option (List Char)
  | 0, _ => none
  | fuel + 1, s =>
    match s with
    | [] => none
    | '\\' :: rest =>
      if raw then
        match rest with
        | [] => none
        | _ :: rest => textEnd raw bytes long q fuel rest
      else (escape bytes rest).bind (textEnd raw bytes long q fuel)
    | c :: rest =>
      if long && [q, q, q].isPrefixOf s then some (s.drop 3)
      else if !long && c == q then some rest
      else if (!long && c == '\n') || (bytes && 0x80 ≤ c.toNat) then none
      else textEnd raw bytes long q fuel rest

/-- The letters in front of a text: whether it is raw, whether it is of bytes. -/
def markOf? (letters : List Char) : Option (Bool × Bool) :=
  match String.ofList (letters.map Char.toLower) with
  | "" => some (false, false)
  | "u" => some (false, false)
  | "r" => some (true, false)
  | "b" => some (false, true)
  | "br" => some (true, true)
  | "rb" => some (true, true)
  | _ => none

/-- A text in quotes: whether it is of bytes, and the rest. -/
def text (s : List Char) : Option (Bool × List Char) :=
  let letters := s.takeWhile Char.isAlpha
  match s.drop letters.length with
  | q :: rest =>
    if q == '"' || q == '\'' then
      (markOf? letters).bind fun (raw, bytes) =>
        let long := [q, q].isPrefixOf rest
        (textEnd raw bytes long q s.length (if long then rest.drop 2 else rest)).map (bytes, ·)
    else none
  | [] => none

/-- Texts one after the other are one text. They are all of bytes or none is. -/
def texts (inside : Bool) : Nat → Bool → List Char → Option (List Char)
  | 0, _, s => some s
  | fuel + 1, bytes, s =>
    match text (spaces inside s) with
    | none => some s
    | some (bytes', rest) => if bytes' == bytes then texts inside fuel bytes rest else none

/-! ### All of them -/

def constants : List (List Char) := ["None".toList, "True".toList, "False".toList]

mutual

/-- A literal at the start of the text, and the rest. The fuel bounds how deep brackets lie. -/
def sum (fuel : Nat) (inside : Bool) (s : List Char) : Option (Form × List Char) := do
  let (form, rest) ← signed fuel inside s
  match spaces inside rest with
  | c :: more =>
    if (c == '+' || c == '-') && (form == .real || form == .signed) then
      match ← atom fuel inside (spaces inside more) with
      | (.imaginary, rest) => some (.plain, rest)
      | _ => none
    else some (form, rest)
  | [] => some (form, rest)
termination_by (fuel, 3, 0)

def signed (fuel : Nat) (inside : Bool) (s : List Char) : Option (Form × List Char) :=
  match spaces inside s with
  | c :: rest =>
    if c == '+' || c == '-' then
      match atom fuel inside (spaces inside rest) with
      | some (.real, rest) => some (.signed, rest)
      | some (.imaginary, rest) => some (.plain, rest)
      | _ => none
    else atom fuel inside (c :: rest)
  | [] => none
termination_by (fuel, 2, 0)

def atom (fuel : Nat) (inside : Bool) (s : List Char) : Option (Form × List Char) :=
  match s with
  | '(' :: rest =>
    match fuel with
    | 0 => none
    | fuel + 1 =>
      match spaces true rest with
      | ')' :: rest => some (.plain, rest)
      | rest => do
        let (form, rest) ← sum fuel true rest
        match spaces true rest with
        | ')' :: rest => some (form, rest)
        | ',' :: rest => items fuel ')' form rest.length rest
        | _ => none
  | '\x7b' :: rest =>
    match fuel with
    | 0 => none
    | fuel + 1 =>
      match spaces true rest with
      | '\x7d' :: rest => some (.loose, rest)
      | rest => do
        let (form, rest) ← sum fuel true rest
        if form == .loose then none
        else
          match spaces true rest with
          | '\x7d' :: rest => some (.loose, rest)
          | ':' :: rest => fields fuel rest.length rest
          | ',' :: rest => do
            let (form, rest) ← items fuel '\x7d' .plain rest.length rest
            if form == .loose then none else some (.loose, rest)
          | _ => none
  | '.' :: '.' :: '.' :: rest => some (.plain, rest)
  | s =>
    match text s with
    | some (bytes, rest) => (texts inside s.length bytes rest).map (.plain, ·)
    | none =>
      match number s with
      | some found => some found
      | none =>
        let word := s.takeWhile fun c => c.isAlphanum || c == '_'
        let rest := s.drop word.length
        if constants.contains word then some (.plain, rest)
        else if word = "set".toList then
          match spaces inside rest with
          | '(' :: rest =>
            match spaces true rest with
            | ')' :: rest => some (.loose, rest)
            | _ => none
          | _ => none
        else none
termination_by (fuel, 1, 0)

/-- The items behind the first comma, up to the bracket that closes. -/
def items (fuel : Nat) (closer : Char) (first : Form) (count : Nat) (s : List Char) :
    Option (Form × List Char) :=
  let whole : Form := if first == .loose then .loose else .plain
  match spaces true s with
  | [] => none
  | c :: rest =>
    if c == closer then some (whole, rest)
    else do
      let (form, rest) ← sum fuel true (c :: rest)
      let whole := if form == .loose then .loose else whole
      match count, spaces true rest with
      | count + 1, ',' :: rest => items fuel closer whole count rest
      | _, c :: rest => if c == closer then some (whole, rest) else none
      | _, [] => none
termination_by (fuel, 4, count)

/-- The value of a table's first field, and the fields behind it. -/
def fields (fuel : Nat) (count : Nat) (s : List Char) : Option (Form × List Char) := do
  let (_, rest) ← sum fuel true s
  match count, spaces true rest with
  | _, '\x7d' :: rest => some (.loose, rest)
  | count + 1, ',' :: rest =>
    match spaces true rest with
    | '\x7d' :: rest => some (.loose, rest)
    | rest => do
      let (form, rest) ← sum fuel true rest
      match form == .loose, spaces true rest with
      | false, ':' :: rest => fields fuel count rest
      | _, _ => none
  | _, _ => none
termination_by (fuel, 4, count)

end

/-- How deep brackets may lie in each other. -/
def maxDepth : Nat := 200

/-- Nothing but blanks, comments and line ends. -/
def isDone (s : List Char) : Bool := (spaces true s).isEmpty

/-- The items of a tuple without brackets, from the second on. -/
def moreItems : Nat → List Char → Bool
  | 0, _ => false
  | fuel + 1, s =>
    if isDone s then true
    else
      match sum maxDepth false s with
      | none => false
      | some (_, rest) =>
        match spaces false rest with
        | ',' :: rest => moreItems fuel rest
        | rest => isDone rest

end Literal

open Literal Text in
/-- Whether the text is one literal, or several with commas between them. -/
def isLiteral (s : List Char) : Bool :=
  !s.contains '\x00' && !hasHalf s &&
    match (firstLine (s.length + 1) (withLineFeeds s)).bind (sum maxDepth false) with
    | none => false
    | some (_, rest) =>
      match spaces false rest with
      | ',' :: rest => moreItems s.length rest
      | rest => isDone rest

end Restyle.Console
