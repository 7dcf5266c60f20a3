import Mathlib.Data.List.Forall2
import Restyle.Value.Reading

/-!
Which values can be read as numbers, keys and maps. Every reading ends: with what the value is read
as where it is of the kind asked for, and with a fault everywhere else.
-/
namespace Restyle

theorem bind_eq_ok {ε α β : Type} {x : Except ε α} {g : α → Except ε β} {b : β} :
    x >>= g = .ok b ↔ ∃ a, x = .ok a ∧ g a = .ok b := by
  cases x <;> simp [bind, Except.bind]

theorem map_eq_ok {ε α β : Type} {x : Except ε α} {g : α → β} {b : β} :
    x.map g = .ok b ↔ ∃ a, x = .ok a ∧ g a = b := by
  cases x <;> simp [Except.map]

theorem map_eq_error {ε α β : Type} {x : Except ε α} {g : α → β} {e : ε} :
    x.map g = .error e ↔ x = .error e := by
  cases x <;> simp [Except.map]

/-- A list is read to its end if each of its items is read. -/
theorem mapM_eq_ok {ε α β : Type} {f : α → Except ε β} {xs : List α} {ys : List β} :
    xs.mapM f = .ok ys ↔ List.Forall₂ (fun x y => f x = .ok y) xs ys := by
  induction xs generalizing ys with
  | nil => simp [pure, Except.pure, List.forall₂_nil_left_iff, eq_comm]
  | cons x xs ih =>
    simp only [List.mapM_cons, bind_eq_ok, ih, pure, Except.pure, Except.ok.injEq]
    rw [List.forall₂_cons_left_iff]
    constructor
    · rintro ⟨y, hy, ys', hys, rfl⟩
      exact ⟨y, ys', hy, hys, rfl⟩
    · rintro ⟨y, ys', hy, hys, rfl⟩
      exact ⟨y, hy, ys', hys, rfl⟩

/-- Reading a list ends in the fault of its first item that cannot be read. -/
theorem mapM_eq_error {ε α β : Type} {f : α → Except ε β} {xs : List α} {e : ε} :
    xs.mapM f = .error e ↔
      ∃ read x rest, xs = read ++ x :: rest ∧ (∀ y ∈ read, ∃ b, f y = .ok b) ∧ f x = .error e := by
  induction xs with
  | nil => simp [pure, Except.pure]
  | cons x xs ih =>
    rw [List.mapM_cons]
    cases hx : f x with
    | error e' =>
      simp only [bind, Except.bind, Except.error.injEq]
      constructor
      · rintro rfl
        exact ⟨[], x, xs, rfl, by simp, hx⟩
      · rintro ⟨read, y, rest, hsplit, hread, hy⟩
        cases read with
        | nil =>
          obtain ⟨rfl, -⟩ := List.cons.inj hsplit
          rw [hx] at hy
          exact Except.error.inj hy
        | cons z read =>
          obtain ⟨rfl, -⟩ := List.cons.inj hsplit
          obtain ⟨b, hb⟩ := hread x List.mem_cons_self
          rw [hx] at hb
          cases hb
    | ok b =>
      have htail : (do let b ← Except.ok b; let bs ← xs.mapM f; pure (b :: bs)) = .error e ↔
          xs.mapM f = .error e := by
        cases xs.mapM f <;> simp [bind, Except.bind, pure, Except.pure]
      rw [htail, ih]
      constructor
      · rintro ⟨read, y, rest, rfl, hread, hy⟩
        exact ⟨x :: read, y, rest, rfl, List.forall_mem_cons.2 ⟨⟨b, hx⟩, hread⟩, hy⟩
      · rintro ⟨read, y, rest, hsplit, hread, hy⟩
        cases read with
        | nil =>
          obtain ⟨rfl, -⟩ := List.cons.inj hsplit
          rw [hx] at hy
          cases hy
        | cons z read =>
          obtain ⟨rfl, rfl⟩ := List.cons.inj hsplit
          exact ⟨read, y, rest, rfl, (List.forall_mem_cons.1 hread).2, hy⟩

namespace Value

/-- Numbers that have a whole part, and texts of one. -/
inductive IsWhole : Value → Prop
  | int (n : Int) : IsWhole (.int n)
  | bool (b : Bool) : IsWhole (.bool b)
  | real (q : Rat) : IsWhole (.real (.finite q))
  | zero : IsWhole (.real .negativeZero)
  | text {s : String} {n : Int} : Number.readWhole s.toList = .ok n → IsWhole (.str s)

/-- What an entry can be found by: anything but a list or a table. -/
inductive IsKey : Value → Prop
  | null : IsKey .null
  | bool (b : Bool) : IsKey (.bool b)
  | int (n : Int) : IsKey (.int n)
  | real (x : Number.Binary64) : IsKey (.real x)
  | text (s : String) : IsKey (.str s)
  | moment (m : Moment) : IsKey (.moment m)

/-- What is read as a key and its value: two characters, two items, or the keys of two fields. -/
inductive IsEntry : Value → Prop
  | text {s : String} : (Text.points s.toList).length = 2 → IsEntry (.str s)
  | items {k v : Value} : k.IsKey → IsEntry (.list [k, v])
  | fields {form : TableForm} {p q : String × Value} : IsEntry (.tableOf form [p, q])

/-- What is read as a map: a table, a list of entries, or a text without characters. -/
inductive IsMap : Value → Prop
  | table (form : TableForm) (fields : List (String × Value)) : IsMap (.tableOf form fields)
  | entries {items : List Value} : (∀ v ∈ items, v.IsEntry) → IsMap (.list items)
  | empty : IsMap (.str "")

theorem toInt_ok_iff (v : Value) : (∃ n, v.toInt = .ok n) ↔ v.IsWhole := by
  constructor
  · rintro ⟨n, h⟩
    cases v with
    | int n => exact .int n
    | bool b => exact .bool b
    | real x =>
      cases x with
      | finite q => exact .real q
      | negativeZero => exact .zero
      | infinite negative => cases h
      | nan => cases h
    | str s =>
      cases hs : Number.readWhole s.toList with
      | ok m => exact .text hs
      | error e => cases e <;> simp [toInt, hs] at h
    | null => cases h
    | list items => cases h
    | tableOf form fields => cases h
    | moment m => cases h
  · rintro (n | b | q | - | hs)
    · exact ⟨n, rfl⟩
    · exact ⟨_, rfl⟩
    · exact ⟨_, rfl⟩
    · exact ⟨0, rfl⟩
    · next s n => exact ⟨n, by simp [toInt, hs]⟩

theorem toKey_ok_iff (v : Value) : (∃ k, v.toKey = .ok k) ↔ v.IsKey := by
  constructor
  · rintro ⟨k, h⟩
    cases v with
    | null => exact .null
    | bool b => exact .bool b
    | int n => exact .int n
    | real x => exact .real x
    | str s => exact .text s
    | moment m => exact .moment m
    | list items => cases h
    | tableOf form fields => cases h
  · rintro (_ | _ | _ | _ | _ | _) <;> exact ⟨_, rfl⟩

theorem toPair_ok_iff (n : Nat) (v : Value) : (∃ p, v.toPair n = .ok p) ↔ v.IsEntry := by
  constructor
  · rintro ⟨p, h⟩
    unfold toPair at h
    split at h
    · next s =>
      split at h
      · next hs => exact .text (by simp [hs])
      · cases h
    · next k v =>
      obtain ⟨k', hk, -⟩ := map_eq_ok.1 h
      exact .items ((toKey_ok_iff k).1 ⟨k', hk⟩)
    · cases h
    · exact .fields
    · cases h
    · cases h
  · rintro (hs | hk | -)
    · next s =>
      obtain ⟨a, b, hab⟩ := List.length_eq_two.1 hs
      exact ⟨(.text (String.ofList a), .str (String.ofList b)), by simp only [toPair, hab]⟩
    · next k v =>
      obtain ⟨k', hk'⟩ := (toKey_ok_iff k).2 hk
      exact ⟨(k', v), by simp [toPair, hk', Except.map]⟩
    · exact ⟨_, rfl⟩

theorem toPairsFrom_ok_iff (items : List Value) (n : Nat) :
    (∃ ps, toPairsFrom n items = .ok ps) ↔ ∀ v ∈ items, v.IsEntry := by
  induction items generalizing n with
  | nil => simp [toPairsFrom]
  | cons v rest ih =>
    rw [List.forall_mem_cons, ← toPair_ok_iff n v, ← ih (n + 1)]
    simp only [toPairsFrom, bind_eq_ok, pure, Except.pure, Except.ok.injEq]
    constructor
    · rintro ⟨ps, p, hp, rest', hrest, -⟩
      exact ⟨⟨p, hp⟩, rest', hrest⟩
    · rintro ⟨⟨p, hp⟩, rest', hrest⟩
      exact ⟨p :: rest', p, hp, rest', hrest, rfl⟩

theorem toMap_ok_iff (v : Value) : (∃ m, v.toMap = .ok m) ↔ v.IsMap := by
  constructor
  · rintro ⟨m, h⟩
    cases v with
    | tableOf form fields => exact .table form fields
    | list items =>
      obtain ⟨ps, hps, -⟩ := map_eq_ok.1 h
      exact .entries ((toPairsFrom_ok_iff items 0).1 ⟨ps, hps⟩)
    | str s =>
      cases hs : s.toList with
      | nil =>
        obtain rfl : s = "" := String.toList_eq_nil_iff.1 hs
        exact .empty
      | cons c cs => simp [toMap, hs] at h
    | null => cases h
    | bool b => cases h
    | int n => cases h
    | real x => cases h
    | moment m => cases h
  · rintro (_ | hitems | -)
    · exact ⟨_, rfl⟩
    · next items =>
      obtain ⟨ps, hps⟩ := (toPairsFrom_ok_iff items 0).2 hitems
      exact ⟨ofPairs ps, by simp [toMap, hps, Except.map]⟩
    · exact ⟨[], rfl⟩

end Value

end Restyle
