/-!
Texts as sequences of 16-bit units. A character of the first plane is one unit, any other two. One
half of a pair of units is no character, but escapes can name it. It is held as two characters: a
code point that is never assigned, and behind it one for private use that tells which half it is.
A text in which these two really stand one behind the other, U+DFFFE and then one of U+E000 to
U+E7FF, is therefore taken for one with a half; what is said of all texts is not meant of such a
text.
-/
namespace Restyle.Text

def isHalf (n : Nat) : Bool := 0xD800 ≤ n && n < 0xE000

/-- Comes before the character that tells which half is meant. -/
def halfMark : Char := Char.ofNat 0xDFFFE

/-- How far the characters that tell halves lie behind these. -/
def halfShift : Nat := 0x800

/-- The characters that hold a half. -/
def ofHalf (n : Nat) : List Char := [halfMark, Char.ofNat (n + halfShift)]

/-- The half that two characters hold. -/
def halfOf? (a b : Char) : Option Nat :=
  let n := b.toNat - halfShift
  if a = halfMark && isHalf n then some n else none

/-- The characters that hold a code point. -/
def ofCode (n : Nat) : List Char := if isHalf n then ofHalf n else [Char.ofNat n]

/-- The code points of a text that may hold halves. -/
def codesFrom : List Char → List Nat
  | a :: b :: rest =>
    match halfOf? a b with
    | some n => n :: codesFrom rest
    | none => a.toNat :: codesFrom (b :: rest)
  | [c] => [c.toNat]
  | [] => []

/-- The code points of a text: those of its characters, and the halves in it. -/
def codes (s : List Char) : List Nat :=
  if s.contains halfMark then codesFrom s else s.map Char.toNat

/-- The code points of a text, each as the characters that hold it. -/
def pointsFrom : List Char → List (List Char)
  | a :: b :: rest =>
    match halfOf? a b with
    | some _ => [a, b] :: pointsFrom rest
    | none => [a] :: pointsFrom (b :: rest)
  | [c] => [[c]]
  | [] => []

def points (s : List Char) : List (List Char) :=
  if s.contains halfMark then pointsFrom s else s.map ([·])

/-- How many code points a text has. -/
def size (s : List Char) : Nat := (points s).length

/-- The first `n` code points of a text. -/
def takePoints (n : Nat) (s : List Char) : List Char := ((points s).take n).flatten

def hasHalf (s : List Char) : Bool := (codes s).any isHalf

/-- Whether a half stands for a byte of a file's name that is no text. -/
def isByte (n : Nat) : Bool := 0xDC80 ≤ n && n ≤ 0xDCFF

/-- The units of a code point. -/
def unitsOf (n : Nat) : List Nat :=
  if n < 0x10000 then [n] else [0xD800 + (n - 0x10000) / 1024, 0xDC00 + (n - 0x10000) % 1024]

def units (s : List Char) : List Nat := (codes s).flatMap unitsOf

theorem codesFrom_ofHalf {n : Nat} (h : isHalf n) (rest : List Char) :
    codesFrom (ofHalf n ++ rest) = n :: codesFrom rest := by
  simp only [isHalf, Bool.and_eq_true, decide_eq_true_eq] at h
  have hv : (n + halfShift).isValidChar := by
    right; simp only [halfShift]; omega
  have e : (Char.ofNat (n + halfShift)).toNat = n + halfShift := by
    rw [Char.ofNat, dif_pos hv]
    rfl
  simp [ofHalf, codesFrom, halfOf?, e, isHalf, h]

/-- Without the mark the two readings agree. -/
theorem codesFrom_eq_map {s : List Char} (h : halfMark ∉ s) : codesFrom s = s.map Char.toNat := by
  induction s with
  | nil => rfl
  | cons a s ih =>
    simp only [List.mem_cons, not_or] at h
    cases s with
    | nil => rfl
    | cons b s => simp [codesFrom, halfOf?, Ne.symm h.1, ih h.2]

theorem size_eq_length {s : List Char} (h : halfMark ∉ s) : size s = s.length := by
  simp [size, points, h]

theorem takePoints_eq_take {s : List Char} (h : halfMark ∉ s) (n : Nat) :
    takePoints n s = s.take n := by
  have flat (t : List Char) : (t.map ([·])).flatten = t := by
    induction t with
    | nil => rfl
    | cons c t ih => simpa using ih
  have e : points s = s.map ([·]) := by simp [points, h]
  rw [takePoints, e, ← List.map_take, flat]

theorem codes_eq (s : List Char) : codes s = codesFrom s := by
  unfold codes
  split
  · rfl
  · next h => exact (codesFrom_eq_map (by simpa using h)).symm

end Restyle.Text
