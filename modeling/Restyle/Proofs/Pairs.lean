import Mathlib.Data.List.Forall2
import Mathlib.Data.List.Nodup
import Restyle.Value.Basic

/-!
Lists of pairs as maps: what is found in them, and what putting values under keys and leaving pairs
out does to them. Where no key stands twice a pair is in the list if it is what is found under its
key.
-/
namespace Restyle

section Pairs

variable {α β : Type} [BEq α] [LawfulBEq α]

theorem mem_assign {key : α} {value : β} {m : List (α × β)} {x : α × β}
    (h : x ∈ assign key value m) : x = (key, value) ∨ x ∈ m := by
  induction m with
  | nil => simpa [assign] using h
  | cons head rest ih =>
    obtain ⟨k, v⟩ := head
    simp only [assign] at h
    split at h
    · next e =>
      obtain rfl := eq_of_beq e
      rcases List.mem_cons.1 h with h | h
      · exact .inl h
      · exact .inr (List.mem_cons_of_mem _ h)
    · rcases List.mem_cons.1 h with h | h
      · exact .inr (h ▸ List.mem_cons_self)
      · rcases ih h with h | h
        · exact .inl h
        · exact .inr (List.mem_cons_of_mem _ h)

theorem mem_of_lookup {key : α} {value : β} {m : List (α × β)} (h : m.lookup key = some value) :
    (key, value) ∈ m := by
  obtain ⟨l₁, l₂, rfl, -⟩ := List.lookup_eq_some_iff.1 h
  simp

theorem mem_assign_self (key : α) (value : β) (m : List (α × β)) :
    (key, value) ∈ assign key value m := by
  apply mem_of_lookup
  rw [lookup_assign, if_pos (beq_self_eq_true key)]

theorem mem_assign_of_ne {key : α} {value : β} {m : List (α × β)} {x : α × β} (h : x ∈ m)
    (hne : x.1 ≠ key) : x ∈ assign key value m := by
  induction m with
  | nil => cases h
  | cons head rest ih =>
    obtain ⟨k, v⟩ := head
    rw [assign]
    split
    · next e =>
      obtain rfl := eq_of_beq e
      rcases List.mem_cons.1 h with rfl | h
      · exact absurd rfl hne
      · exact List.mem_cons_of_mem _ h
    · rcases List.mem_cons.1 h with rfl | h
      · exact List.mem_cons_self
      · exact List.mem_cons_of_mem _ (ih h)

theorem map_fst_assign (key : α) (value : β) (m : List (α × β)) :
    (assign key value m).map (·.1) =
      if key ∈ m.map (·.1) then m.map (·.1) else m.map (·.1) ++ [key] := by
  induction m with
  | nil => simp [assign]
  | cons x m ih =>
    obtain ⟨k, v⟩ := x
    by_cases hk : k = key
    · simp [assign, hk]
    · have hk' : ¬ key = k := Ne.symm hk
      rw [assign, if_neg (by simpa using hk), List.map_cons, ih]
      simp only [List.map_cons, List.mem_cons, hk', false_or]
      split <;> simp

theorem length_assign_le (key : α) (value : β) (m : List (α × β)) :
    (assign key value m).length ≤ m.length + 1 := by
  have hkeys := congrArg List.length (map_fst_assign key value m)
  rw [List.length_map] at hkeys
  rw [hkeys]
  split
  · rw [List.length_map]
    omega
  · simp

theorem mem_iff_lookup {m : List (α × β)} (h : (m.map (·.1)).Nodup) {key : α} {value : β} :
    (key, value) ∈ m ↔ m.lookup key = some value := by
  refine ⟨fun hm => ?_, mem_of_lookup⟩
  cases hl : m.lookup key with
  | none => exact absurd (List.lookup_eq_none_iff.1 hl _ hm) (by simp)
  | some v =>
    have e := List.inj_on_of_nodup_map h hm (mem_of_lookup hl) rfl
    rw [(Prod.mk.inj e).2]

/-- Pairs with the same keys in the same order are the same if the same is found in them. -/
theorem eq_of_lookup {m m' : List (α × β)} (hkeys : m.map (·.1) = m'.map (·.1))
    (h : (m'.map (·.1)).Nodup) (hlookup : ∀ key ∈ m'.map (·.1), m.lookup key = m'.lookup key) :
    m = m' := by
  induction m generalizing m' with
  | nil => exact (List.map_eq_nil_iff.1 hkeys.symm).symm
  | cons x m ih =>
    cases m' with
    | nil => cases hkeys
    | cons y m' =>
      obtain ⟨k, v⟩ := x
      obtain ⟨k', v'⟩ := y
      rw [List.map_cons, List.map_cons] at hkeys
      obtain ⟨rfl, hrest⟩ := List.cons.inj hkeys
      rw [List.map_cons, List.nodup_cons] at h
      have hv : v = v' := by simpa using hlookup k (by simp)
      have hm : m = m' := by
        apply ih hrest h.2
        intro key hkey
        have hne : (key == k) = false := beq_eq_false_iff_ne.2 fun e => h.1 (e ▸ hkey)
        simpa [List.lookup_cons, hne] using hlookup key (by simp [hkey])
      rw [hv, hm]

theorem nodup_assign {m : List (α × β)} (h : (m.map (·.1)).Nodup) (key : α) (value : β) :
    ((assign key value m).map (·.1)).Nodup := by
  rw [map_fst_assign]
  split
  · exact h
  · next hk => exact List.nodup_append.2 ⟨h, by simp, by simpa using fun a v ha e => hk (by
      rw [← e]
      exact List.mem_map_of_mem ha)⟩

/-- A value that is put under a key takes the place of what was there. -/
theorem mem_assign_iff {m : List (α × β)} (h : (m.map (·.1)).Nodup) {key k : α} {value v : β} :
    (k, v) ∈ assign key value m ↔ (k = key ∧ v = value) ∨ (k ≠ key ∧ (k, v) ∈ m) := by
  rw [mem_iff_lookup (nodup_assign h key value), mem_iff_lookup h, lookup_assign]
  by_cases hk : k = key
  · simp [hk, eq_comm]
  · simp [hk]

theorem assign_of_notMem {key : α} {m : List (α × β)} (h : key ∉ m.map (·.1)) (value : β) :
    assign key value m = m ++ [(key, value)] := by
  induction m with
  | nil => rfl
  | cons x m ih =>
    obtain ⟨k, v⟩ := x
    rw [List.map_cons, List.mem_cons, not_or] at h
    have hk : (k == key) = false := beq_eq_false_iff_ne.2 (Ne.symm h.1)
    simp [assign, hk, ih h.2]

/-- Pairs with different keys are a map as they are. -/
theorem ofPairs_of_nodup {pairs : List (α × β)} (h : (pairs.map (·.1)).Nodup) :
    ofPairs pairs = pairs := by
  have build : ∀ (pairs m : List (α × β)), ((m ++ pairs).map (·.1)).Nodup →
      pairs.foldl (fun m x => assign x.1 x.2 m) m = m ++ pairs := by
    intro pairs
    induction pairs with
    | nil => simp
    | cons x pairs ih =>
      intro m hm
      obtain ⟨k, v⟩ := x
      have hk : k ∉ m.map (·.1) := by
        rw [List.map_append, List.map_cons, List.nodup_append] at hm
        exact fun hk => hm.2.2 k hk k List.mem_cons_self rfl
      simp only [List.foldl_cons, assign_of_notMem hk]
      rw [ih]
      · simp
      · simpa using hm
  exact build pairs [] (by simpa using h)

/-! ### Pairs put over a map -/

/-- Of the pairs with a key the last one counts. -/
theorem lookup_foldl_assign (pairs m : List (α × β)) (key : α) :
    (pairs.foldl (fun m x => assign x.1 x.2 m) m).lookup key =
      (pairs.reverse.lookup key).or (m.lookup key) := by
  induction pairs generalizing m with
  | nil => simp
  | cons x pairs ih =>
    rw [List.foldl_cons, ih, lookup_assign, List.reverse_cons, List.lookup_append, Option.or_assoc]
    congr 1
    rw [List.lookup_cons]
    cases hk : key == x.1 <;> simp

theorem mem_foldl_assign {pairs m : List (α × β)} {x : α × β}
    (h : x ∈ pairs.foldl (fun m x => assign x.1 x.2 m) m) : x ∈ pairs ∨ x ∈ m := by
  induction pairs generalizing m with
  | nil => exact .inr h
  | cons y pairs ih =>
    rcases ih h with h | h
    · exact .inl (List.mem_cons_of_mem _ h)
    · rcases mem_assign h with rfl | h
      · exact .inl List.mem_cons_self
      · exact .inr h

theorem nodup_foldl_assign (pairs : List (α × β)) {m : List (α × β)} (h : (m.map (·.1)).Nodup) :
    ((pairs.foldl (fun m x => assign x.1 x.2 m) m).map (·.1)).Nodup := by
  induction pairs generalizing m with
  | nil => exact h
  | cons x pairs ih => exact ih (nodup_assign h x.1 x.2)

/-- Keys that are there already stay, in the order that they have. -/
theorem map_fst_foldl_assign {pairs m : List (α × β)} (h : ∀ x ∈ pairs, x.1 ∈ m.map (·.1)) :
    (pairs.foldl (fun m x => assign x.1 x.2 m) m).map (·.1) = m.map (·.1) := by
  induction pairs generalizing m with
  | nil => rfl
  | cons x pairs ih =>
    have hkeys : (assign x.1 x.2 m).map (·.1) = m.map (·.1) := by
      rw [map_fst_assign, if_pos (h x List.mem_cons_self)]
    rw [List.foldl_cons, ih fun y hy => hkeys ▸ h y (List.mem_cons_of_mem _ hy), hkeys]

theorem mem_of_mem_ofPairs {pairs : List (α × β)} {x : α × β} (h : x ∈ ofPairs pairs) :
    x ∈ pairs := by
  simpa using mem_foldl_assign h

theorem nodup_ofPairs (pairs : List (α × β)) : ((ofPairs pairs).map (·.1)).Nodup :=
  nodup_foldl_assign pairs List.nodup_nil

theorem lookup_ofPairs (pairs : List (α × β)) (key : α) :
    (ofPairs pairs).lookup key = pairs.reverse.lookup key := by
  rw [ofPairs, lookup_foldl_assign, List.lookup_nil, Option.or_none]

/-! ### Pairs left out -/

/-- Where keys come once, leaving pairs out leaves a key its value or takes it away. -/
theorem lookup_filter {m : List (α × β)} (h : (m.map (·.1)).Nodup) (p : α × β → Bool) (key : α) :
    (m.filter p).lookup key = (m.lookup key).filter fun v => p (key, v) := by
  have hsub : ((m.filter p).map (·.1)).Nodup := h.sublist (List.filter_sublist.map _)
  refine Option.ext fun v => ?_
  rw [← mem_iff_lookup hsub, List.mem_filter, Option.filter_eq_some_iff, ← mem_iff_lookup h]

/-- Pairs may be left out by their keys, whether or not keys come once. -/
theorem lookup_filter_fst {p : α → Bool} {key : α} (h : p key) (m : List (α × β)) :
    (m.filter fun x => p x.1).lookup key = m.lookup key := by
  induction m with
  | nil => rfl
  | cons x m ih =>
    obtain ⟨k, v⟩ := x
    by_cases hk : key = k
    · subst hk
      simp [h]
    · have hk' : (key == k) = false := by simpa using hk
      by_cases hp : p k
      · simp [hp, List.lookup_cons, hk', ih]
      · simp [hp, List.lookup_cons, hk', ih]

theorem lookup_reverse {m : List (α × β)} (h : (m.map (·.1)).Nodup) (key : α) :
    m.reverse.lookup key = m.lookup key := by
  have hback : (m.reverse.map (·.1)).Nodup := by
    rw [List.map_reverse]
    exact List.nodup_reverse.2 h
  refine Option.ext fun v => ?_
  rw [← mem_iff_lookup hback, ← mem_iff_lookup h, List.mem_reverse]

end Pairs

theorem lookup_map_values {α β γ : Type} [BEq α] (f : β → γ) (m : List (α × β)) (key : α) :
    (m.map fun x => (x.1, f x.2)).lookup key = (m.lookup key).map f := by
  induction m with
  | nil => rfl
  | cons x m ih =>
    obtain ⟨k, v⟩ := x
    rw [List.map_cons, List.lookup_cons, List.lookup_cons]
    cases key == k with
    | true => rfl
    | false => exact ih

theorem exists_mem_of_forall₂ {α β : Type} {R : α → β → Prop} {l : List α} {l' : List β}
    (h : List.Forall₂ R l l') {a : α} (ha : a ∈ l) : ∃ b ∈ l', R a b := by
  induction h with
  | nil => cases ha
  | cons hab _ ih =>
    rcases List.mem_cons.1 ha with rfl | ha
    · exact ⟨_, List.mem_cons_self, hab⟩
    · obtain ⟨b, hb, hr⟩ := ih ha
      exact ⟨b, List.mem_cons_of_mem _ hb, hr⟩

end Restyle
