import Restyle.Moment

/-!
Values of captured payloads, manifests and settings files. A table keeps its keys in the order in
which they first came; a key that comes again takes the later value.
-/
namespace Restyle

/-- How a table is written: over lines under a header, or on one line. -/
inductive TableForm where
  | spread | inline
  deriving DecidableEq, Repr

inductive Value where
  | null
  | bool (b : Bool)
  | int (n : Int)
  | real (x : Number.Binary64)
  | str (s : String)
  | list (items : List Value)
  /-- Only in messages does it matter how a table was written. -/
  | tableOf (form : TableForm) (fields : List (String × Value))
  /-- A date or a time of a settings file. -/
  | moment (m : Moment)
  deriving Inhabited

mutual

/-- Whether two values are the same, tables with their fields in the same order. -/
def Value.same : Value → Value → Bool
  | .null, .null => true
  | .bool b, .bool b' => b == b'
  | .int n, .int n' => n == n'
  | .real x, .real x' => x == x'
  | .str s, .str s' => s == s'
  | .list vs, .list vs' => sameItems vs vs'
  | .tableOf form vs, .tableOf form' vs' => form == form' && sameFields vs vs'
  | .moment m, .moment m' => m == m'
  | _, _ => false

def Value.sameItems : List Value → List Value → Bool
  | [], [] => true
  | v :: vs, v' :: vs' => v.same v' && sameItems vs vs'
  | _, _ => false

def Value.sameFields : List (String × Value) → List (String × Value) → Bool
  | [], [] => true
  | (k, v) :: vs, (k', v') :: vs' => k == k' && v.same v' && sameFields vs vs'
  | _, _ => false

end

instance : BEq Value := ⟨Value.same⟩

mutual

theorem Value.same_iff {v w : Value} : v.same w ↔ v = w := by
  cases v <;> cases w <;> simp [same, sameItems_iff, sameFields_iff]

theorem Value.sameItems_iff {vs ws : List Value} : sameItems vs ws ↔ vs = ws := by
  cases vs <;> cases ws <;> simp [sameItems, same_iff, sameItems_iff]

theorem Value.sameFields_iff {vs ws : List (String × Value)} : sameFields vs ws ↔ vs = ws := by
  cases vs <;> cases ws <;> simp [sameFields, same_iff, sameFields_iff, Prod.ext_iff]

end

instance : DecidableEq Value := fun _ _ => decidable_of_iff _ Value.same_iff

/-- A table as it comes from everywhere but from one line of a settings file. -/
@[match_pattern] abbrev Value.table (fields : List (String × Value)) : Value :=
  .tableOf .spread fields

/-- Puts a value under a key: in the key's place if it has one, at the end otherwise. -/
def assign {α β : Type} [BEq α] (key : α) (value : β) : List (α × β) → List (α × β)
  | [] => [(key, value)]
  | (k, v) :: rest => if k == key then (k, value) :: rest else (k, v) :: assign key value rest

/-- Reads pairs into a map: a repeated key keeps its first place and takes its last value. -/
def ofPairs {α β : Type} [BEq α] (pairs : List (α × β)) : List (α × β) :=
  pairs.foldl (fun m (k, v) => assign k v m) []

theorem lookup_assign {α β : Type} [BEq α] [LawfulBEq α] (key k : α) (value : β)
    (m : List (α × β)) :
    (assign key value m).lookup k = if k == key then some value else m.lookup k := by
  induction m with
  | nil => cases h : k == key <;> simp [assign, List.lookup_cons, h]
  | cons head rest ih =>
    obtain ⟨k', v'⟩ := head
    simp only [assign]
    split
    · next e =>
      obtain rfl := eq_of_beq e
      cases h : k == k' <;> simp [List.lookup_cons, h]
    · next e =>
      cases h : k == k' with
      | false => simp [List.lookup_cons, h, ih]
      | true =>
        obtain rfl := eq_of_beq h
        simp [e]

/-- What an entry of a map is found by: a text, or a plain value of another kind. -/
inductive Key where
  | text (s : String)
  | null
  | bool (b : Bool)
  | int (n : Int)
  | real (x : Number.Binary64)
  deriving Inhabited

namespace Key

def toValue : Key → Value
  | text s => .str s
  | null => .null
  | bool b => .bool b
  | int n => .int n
  | real x => .real x

def text? : Key → Option String
  | text s => some s
  | _ => none

/-- The number that a key is; truth values count as zero and one. -/
def number? : Key → Option Number.Binary64
  | bool b => some (.finite (if b then 1 else 0))
  | int n => some (.finite n)
  | real x => some (if x = .negativeZero then .finite 0 else x)
  | _ => none

/-- Equal numbers are one key, of whatever kind they are. -/
def same : Key → Key → Bool
  | text s, text s' => s == s'
  | null, null => true
  | a, b => a.number?.isSome && a.number? == b.number?

instance : BEq Key := ⟨same⟩

theorem text_beq_text (s s' : String) : (text s == text s') = (s == s') := rfl

/-- A map whose keys are all texts. -/
def ofTexts (fields : List (String × Value)) : List (Key × Value) :=
  fields.map fun (k, v) => (text k, v)

end Key

namespace Value

/-- The value under a key; absent and `null` count as the same. -/
def get (v : Value) (key : String) : Value :=
  match v with
  | tableOf _ fields => (fields.lookup key).getD null
  | _ => null

def has (v : Value) (key : String) : Bool :=
  match v with
  | tableOf _ fields => (fields.lookup key).isSome
  | _ => false

/-- Whether the value says something: not absent, false, zero or empty. -/
def isTruthy : Value → Bool
  | null => false
  | bool b => b
  | int n => n ≠ 0
  | real x => !x.isZero
  | str s => !s.isEmpty
  | list items => !items.isEmpty
  | tableOf _ fields => !fields.isEmpty
  | moment _ => true

/-- The first value unless it says nothing. -/
def orElse (v w : Value) : Value := if v.isTruthy then v else w

/-- The name of the value's kind in messages. -/
def kind : Value → String
  | null => "NoneType"
  | bool _ => "bool"
  | int _ => "int"
  | real _ => "float"
  | str _ => "str"
  | list _ => "list"
  | tableOf .spread _ => "dict"
  | tableOf .inline _ => "DynamicInlineTableDict"
  | moment m => m.kind

/-- The exact number that the value is; truth values count as zero and one. -/
def toBinary? : Value → Option Number.Binary64
  | bool b => some (.finite (if b then 1 else 0))
  | int n => some (.finite n)
  | real x => some x
  | _ => none

def toStr? : Value → Option String
  | str s => some s
  | _ => none

mutual

/-- How deep lists and tables are nested; a plain value has height zero. -/
def height : Value → Nat
  | list items => itemsHeight items + 1
  | tableOf _ fields => fieldsHeight fields + 1
  | _ => 0

def itemsHeight : List Value → Nat
  | [] => 0
  | v :: rest => max (height v) (itemsHeight rest)

def fieldsHeight : List (String × Value) → Nat
  | [] => 0
  | (_, v) :: rest => max (height v) (fieldsHeight rest)

end

end Value

end Restyle
