import Restyle.Text.Decoding
import Restyle.Text.Units

/-!
Texts as bytes, and as units in bytes. A half is no character, so it has neither: a text with halves
in it is refused, with the place where they are.
-/
namespace Restyle.Text

/-- Halves in a text that is to be written in a form without them. -/
structure EncodingFault where
  /-- The name of the form. -/
  form : String
  /-- Where the first of the halves stands. -/
  place : Nat
  half : Nat
  /-- How many of them there are, one behind the other. -/
  count : Nat
  deriving DecidableEq, Repr

namespace EncodingFault

def message (f : EncodingFault) : String :=
  "'" ++ f.form ++ "' codec can't encode character" ++
    (if f.count = 1 then
      " '\\u" ++ String.ofList (Nat.toDigits 16 f.half) ++ "' in position " ++ toString f.place
    else "s in position " ++ toString f.place ++ "-" ++ toString (f.place + f.count - 1)) ++
    ": surrogates not allowed"

end EncodingFault

/-- The first half that is not let through, together with the halves right behind it: its place, the
half, and how many there are. -/
def strayHalves (passes : Nat → Bool) (place : Nat) : List Nat → Option (Nat × Nat × Nat)
  | [] => none
  | n :: rest =>
    if isHalf n && !passes n then some (place, n, (rest.takeWhile isHalf).length + 1)
    else strayHalves passes (place + 1) rest

/-- Why a text has no bytes. -/
def bytesFault? (s : String) : Option EncodingFault :=
  (strayHalves (fun _ => false) 0 (codes s.toList)).map fun (place, half, count) =>
    { form := "utf-8", place, half, count }

/-- Why a name of a file has no bytes. Some halves stand for bytes there. -/
def nameFault? (s : String) : Option EncodingFault :=
  (strayHalves isByte 0 (codes s.toList)).map fun (place, half, count) =>
    { form := "utf-8", place, half, count }

/-- Why a text has no units in bytes. Units are written one by one, so one half is enough. -/
def unitsFault? (s : List Char) : Option EncodingFault :=
  (strayHalves (fun _ => false) 0 (codes s)).map fun (place, half, _) =>
    { form := "utf-16-le", place, half, count := 1 }

def encode (s : String) : Except EncodingFault ByteArray :=
  match bytesFault? s with
  | some f => .error f
  | none => .ok s.toUTF8

theorem strayHalves_eq_none_iff (place : Nat) (codes : List Nat) :
    strayHalves (fun _ => false) place codes = none ↔ codes.any isHalf = false := by
  induction codes generalizing place with
  | nil => simp [strayHalves]
  | cons n rest ih => cases h : isHalf n <;> simp [strayHalves, h, ih]

/-- A text has bytes if it has no halves. -/
theorem bytesFault?_eq_none_iff (s : String) :
    bytesFault? s = none ↔ hasHalf s.toList = false := by
  simp [bytesFault?, hasHalf, strayHalves_eq_none_iff]

/-- What has bytes can be read back from them. -/
theorem decode_of_encode {s : String} {bytes : ByteArray} (h : encode s = .ok bytes) :
    decode bytes = .ok s := by
  unfold encode at h
  split at h
  · simp at h
  · simp only [Except.ok.injEq] at h
    subst h
    exact decode_encode s

end Restyle.Text
