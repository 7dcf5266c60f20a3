import Restyle.Fault
import Restyle.Number.Reading

/-!
Reading plain values as numbers, pairs and lists, with the fault that another kind of value gives.
-/
namespace Restyle.Value

open Number

/-- Towards zero. -/
def truncate (q : Rat) : Int := if q < 0 then -((-q).floor) else q.floor

def binaryToInt : Binary64 → Except Fault Int
  | .finite q => .ok (truncate q)
  | .negativeZero => .ok 0
  | .infinite _ => .error .infiniteInteger
  | .nan => .error .nanInteger

def toInt : Value → Except Fault Int
  | int n => .ok n
  | bool b => .ok (if b then 1 else 0)
  | real x => binaryToInt x
  | str s =>
    match readWhole s.toList with
    | .ok n => .ok n
    | .error .malformed => .error (.notInteger s)
    | .error (.tooLong count) => .error (.tooManyDigits count)
  | v => .error (.notNumeric v.kind)

/-- The key that a value gives. -/
def toKey : Value → Except Fault Key
  | null => .ok .null
  | bool b => .ok (.bool b)
  | int n => .ok (.int n)
  | real x => .ok (.real x)
  | str s => .ok (.text s)
  | list _ => .error (.noKey "list")
  | tableOf form fields => .error (.noKey (tableOf form fields).kind)
  | moment m => .ok (.text (moment m).display)

/-- One item of a list of pairs. -/
def toPair (index : Nat) : Value → Except Fault (Key × Value)
  | str s =>
    match Text.points s.toList with
    | [k, v] => .ok (.text (String.ofList k), str (String.ofList v))
    | ps => .error (.notPair index ps.length)
  | list [k, v] => k.toKey.map fun k => (k, v)
  | list items => .error (.notPair index items.length)
  | tableOf _ [(k, _), (v, _)] => .ok (.text k, str v)
  | tableOf _ fields => .error (.notPair index fields.length)
  | _ => .error (.notSequence index)

def toPairsFrom (index : Nat) : List Value → Except Fault (List (Key × Value))
  | [] => .ok []
  | v :: rest => do
    let p ← v.toPair index
    let ps ← toPairsFrom (index + 1) rest
    return p :: ps

/-- A table, or a list of pairs read as one. -/
def toMap : Value → Except Fault (List (Key × Value))
  | tableOf _ fields => .ok (Key.ofTexts fields)
  | list items => (toPairsFrom 0 items).map ofPairs
  | str s =>
    match s.toList with
    | [] => .ok []
    | _ => .error (.notPair 0 1)
  | v => .error (.notIterable v.kind)

/-- The items of a list, the characters of a text, or the keys of a table. -/
def items : Value → Except Fault (List Value)
  | list items => .ok items
  | str s => .ok ((Text.points s.toList).map fun p => str (String.ofList p))
  | tableOf _ fields => .ok (fields.map fun (k, _) => str k)
  | v => .error (.notIterable v.kind)

end Restyle.Value
