import Restyle.Style.Object
import Restyle.Text.Encoding
import Restyle.Number.Base36

/-!
Generated classes. The name of a class depends on the declarations alone and not on their order.
-/
namespace Restyle.Style

open Text Number

/-- How many values 32 bits have. -/
def wordCount : Nat := 4294967296

/-- One step of the hash: 31 times the value so far plus the unit, in 32 bits. -/
def hashStep (h unit : Nat) : Nat := (h * 31 + unit) % wordCount

/-- A hash over the 16-bit units of a text, read as a signed number. -/
def signedHash (s : List Char) : Int := Int.bmod (Int.ofNat ((units s).foldl hashStep 0)) wordCount

/-- The hash of a text that may have halves, which have no hash. -/
def hashOf (s : List Char) : Except Fault Int :=
  match unitsFault? s with
  | some f => .error (.unencodable f)
  | none => .ok (signedHash s)

/-- Whether the one name comes before the other or is the same, if there is an order of the two:
texts go by their characters, numbers by their size. -/
def nameLe? : Key → Key → Option Bool
  | .text a, .text b => some (decide (a ≤ b))
  | a, b =>
    match a.number?, b.number? with
    | some x, some y => some ((y.lt? x).getD false == false)
    | _, _ => none

/-- Names of different kinds, where one comes right after the other, have no order. -/
def orderFault? : Declarations → Option Fault
  | (a, _) :: (b, v) :: rest =>
    match nameLe? a b with
    | some _ => orderFault? ((b, v) :: rest)
    | none => some (.notOrdered "<" b.toValue.kind a.toValue.kind)
  | _ => none

/-- Declarations in the order of their names; equal names keep their order. -/
def sortByName (ds : Declarations) : Declarations :=
  ds.mergeSort fun a b => (nameLe? a.1 b.1).getD true

/-- One text for the whole set of declarations. -/
def signature (ds : Declarations) : List Char :=
  [';'].intercalate
    ((sortByName ds).map fun (k, v) => k.display.toList ++ ':' :: v.display.toList)

def classPrefix : String := "sourcelens-dynamic-"

/-- The name for a hash. -/
def nameOf (hash : Int) : String := classPrefix ++ String.ofList (base36 hash.natAbs)

/-- The class for declarations, if their names have an order and their signature a hash. -/
def className (ds : Declarations) : Except Fault String :=
  match orderFault? ds with
  | some f => .error f
  | none => (hashOf (signature ds)).map nameOf

/-- The rule that gives the class its declarations. -/
def rule (name : String) (ds : Declarations) : String :=
  let body := [' '].intercalate
    (ds.map fun (k, v) => k.display.toList ++ ':' :: ' ' :: v.display.toList ++ [';'])
  "." ++ name ++ " \x7b " ++ String.ofList body ++ " \x7d"

end Restyle.Style
