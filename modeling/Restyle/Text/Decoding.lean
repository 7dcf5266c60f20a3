/-!
Bytes as UTF-8 text. `decode` succeeds exactly on the encodings of texts; `firstFault` says where
and why other bytes are no text.
-/
namespace Restyle.Text

/-- Why bytes are no text: a byte that starts no character, a character that is not continued, or
bytes that end within a character. -/
inductive DecodingFault where
  | badStart (byte position : Nat)
  | badContinuation (byte first last : Nat)
  | cutShort (byte first last : Nat)
  deriving DecidableEq, Repr

namespace DecodingFault

def hexByte (n : Nat) : String :=
  let ds := Nat.toDigits 16 n
  String.ofList (if ds.length < 2 then '0' :: ds else ds)

/-- The place of the fault: one byte with its value, or a range of bytes. -/
def place (byte first last : Nat) : String :=
  if first = last then "byte 0x" ++ hexByte byte ++ " in position " ++ toString first
  else "bytes in position " ++ toString first ++ "-" ++ toString last

def message (f : DecodingFault) : String :=
  "'utf-8' codec can't decode " ++
    match f with
    | badStart byte position => place byte position position ++ ": invalid start byte"
    | badContinuation byte first last => place byte first last ++ ": invalid continuation byte"
    | cutShort byte first last => place byte first last ++ ": unexpected end of data"

end DecodingFault

/-- How many bytes follow a first byte, with the bounds of the byte right behind it. -/
def continuation (b : Nat) : Option (Nat × Nat × Nat) :=
  if 0xC2 ≤ b ∧ b ≤ 0xDF then some (1, 0x80, 0xBF)
  else if b = 0xE0 then some (2, 0xA0, 0xBF)
  else if b = 0xED then some (2, 0x80, 0x9F)
  else if 0xE1 ≤ b ∧ b ≤ 0xEF then some (2, 0x80, 0xBF)
  else if b = 0xF0 then some (3, 0x90, 0xBF)
  else if 0xF1 ≤ b ∧ b ≤ 0xF3 then some (3, 0x80, 0xBF)
  else if b = 0xF4 then some (3, 0x80, 0x8F)
  else none

/-- Goes over the `n` bytes that must follow in a character which started at `first` with `byte`.
The result is the rest, or the fault; `seen` bytes of the character came before. -/
def continued (byte first seen : Nat) : Nat → Nat → Nat → List UInt8 →
    Except DecodingFault (List UInt8)
  | 0, _, _, rest => .ok rest
  | _ + 1, _, _, [] => .error (.cutShort byte first (first + seen - 1))
  | n + 1, lo, hi, b :: rest =>
    if lo ≤ b.toNat ∧ b.toNat ≤ hi then continued byte first (seen + 1) n 0x80 0xBF rest
    else .error (.badContinuation byte first (first + seen - 1))

/-- The first fault in the bytes from `position` on. -/
def firstFault (fuel position : Nat) (bytes : List UInt8) : Option DecodingFault :=
  match fuel, bytes with
  | 0, _ => none
  | _, [] => none
  | fuel + 1, b :: rest =>
    if b.toNat < 0x80 then firstFault fuel (position + 1) rest
    else
      match continuation b.toNat with
      | none => some (.badStart b.toNat position)
      | some (n, lo, hi) =>
        match continued b.toNat position 1 n lo hi rest with
        | .ok rest' => firstFault fuel (position + 1 + n) rest'
        | .error f => some f

def decode (bytes : ByteArray) : Except DecodingFault String :=
  match String.fromUTF8? bytes with
  | some s => .ok s
  | none => .error ((firstFault bytes.size 0 bytes.toList).getD (.badStart 0 0))

theorem decode_encode (s : String) : decode s.toUTF8 = .ok s := by
  have h : String.fromUTF8? s.toUTF8 = some s := by
    simp [String.fromUTF8?, s.isValidUTF8]
    rfl
  unfold decode
  rw [h]

theorem encode_of_decode {bytes : ByteArray} {s : String} (h : decode bytes = .ok s) :
    s.toUTF8 = bytes := by
  unfold decode String.fromUTF8? at h
  split at h
  · next t ht =>
    split at ht
    · simp only [Option.some.injEq] at ht
      simp only [Except.ok.injEq] at h
      subst h ht
      rfl
    · simp at ht
  · simp at h

end Restyle.Text
