import Restyle.Cache
import Restyle.Proofs.Pairs

/-!
Where the entries of a cache come from: no operation makes an entry but a set, and a set makes one.
-/
namespace Restyle

namespace Cache

variable {α : Type}

@[simp] theorem compact_capacity (c : Cache α) (now : Clock) :
    (c.compact now).capacity = c.capacity := by
  unfold compact
  simp only
  split <;> rfl

@[simp] theorem set_capacity (c : Cache α) (now : Clock) (key : String) (value : α)
    (life : Lifetime) : (c.set now key value life).capacity = c.capacity := by
  unfold set
  simp only
  split <;> simp

@[simp] theorem get_capacity (c : Cache α) (now : Clock) (key : String) :
    (c.get now key).2.capacity = c.capacity := by
  unfold get
  split
  · rfl
  · split <;> rfl

theorem mem_of_mem_sweep {c : Cache α} {now : Clock} {x : String × CacheEntry α}
    (h : x ∈ (c.sweep now).entries) : x ∈ c.entries :=
  (List.mem_filter.1 h).1

theorem mem_of_mem_compact {c : Cache α} {now : Clock} {x : String × CacheEntry α}
    (h : x ∈ (c.compact now).entries) : x ∈ c.entries := by
  unfold compact at h
  simp only at h
  split at h
  · exact mem_of_mem_sweep (List.mem_filter.1 h).1
  · exact mem_of_mem_sweep h

theorem mem_of_mem_get {c : Cache α} {now : Clock} {key : String} {x : String × CacheEntry α}
    (h : x ∈ (c.get now key).2.entries) : x ∈ c.entries := by
  unfold get at h
  split at h
  · exact h
  · split at h
    · exact (List.mem_filter.1 h).1
    · exact h

theorem mem_set {c : Cache α} {now : Clock} {key : String} {value : α} {life : Lifetime}
    {x : String × CacheEntry α} (h : x ∈ (c.set now key value life).entries) :
    x = (key, ⟨value, now, life⟩) ∨ x ∈ c.entries := by
  unfold set at h
  rcases mem_assign h with h | h
  · exact .inl h
  · split at h
    · exact .inr (mem_of_mem_compact h)
    · exact .inr h

theorem mem_of_get_some {c : Cache α} {now : Clock} {key : String} {value : α}
    (h : (c.get now key).1 = some value) : ∃ e, (key, e) ∈ c.entries ∧ e.value = value := by
  unfold get at h
  split at h
  · simp at h
  · next e he =>
    split at h
    · simp at h
    · exact ⟨e, mem_of_lookup he, Option.some.inj h⟩

/-- What was just set is found, unless its time is over at once. -/
theorem get_set (c : Cache α) (now : Clock) (key : String) (value : α) (life : Lifetime)
    (h : life.isOver (now.since now) = false) :
    ((c.set now key value life).get now key).1 = some value := by
  have hl : (c.set now key value life).entries.lookup key = some ⟨value, now, life⟩ := by
    unfold set
    simp [lookup_assign]
  simp [get, hl, CacheEntry.isOver, h]

end Cache

namespace Capacity

/-- Whether the cache can tell when it is full, and then how many entries have to go. -/
def IsUsable : Capacity → Prop
  | count _ => True
  | unbounded => True
  | _ => False

end Capacity

namespace Cache

variable {α : Type}

theorem sweepFault?_eq_none {c : Cache α} (h : ∀ x ∈ c.entries, x.2.life.fault? = none) :
    c.sweepFault? = none := by
  unfold sweepFault?
  exact List.findSome?_eq_none_iff.2 h

theorem lookupFault?_eq_none {c : Cache α} (h : ∀ x ∈ c.entries, x.2.life.fault? = none)
    (key : String) : c.lookupFault? key = none := by
  unfold lookupFault?
  cases he : c.entries.lookup key with
  | none => rfl
  | some e => exact h _ (mem_of_lookup he)

theorem setFault?_eq_none {c : Cache α} (hc : c.capacity.IsUsable)
    (h : ∀ x ∈ c.entries, x.2.life.fault? = none) (now : Clock) : c.setFault? now = none := by
  unfold setFault?
  cases hk : c.capacity with
  | count n => simp [sweepFault?_eq_none h]
  | unbounded => simp [sweepFault?_eq_none h]
  | fraction q => simp [hk, Capacity.IsUsable] at hc
  | unusable kind => simp [hk, Capacity.IsUsable] at hc

end Cache

end Restyle
