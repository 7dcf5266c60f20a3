import Mathlib.Data.List.Pairwise
import Restyle.Proofs.CacheRun

/-!
How many entries a cache has right after a set, and which of them it gave up for it. There are never
more than the limit says, also where the limit was lowered since the last set; and where entries go
whose time is not over, all others went before them and none that stays is older.
-/
namespace Restyle

namespace Cache

variable {α : Type}

/-! ### The oldest entries -/

/-- The entries from the oldest to the youngest. -/
def byAge (c : Cache α) : List (String × CacheEntry α) :=
  c.entries.mergeSort fun a b => decide (a.2.stored.seconds ≤ b.2.stored.seconds)

theorem oldest_eq (c : Cache α) : c.oldest = c.byAge.map (·.1) := rfl

theorem byAge_perm (c : Cache α) : c.byAge.Perm c.entries := List.mergeSort_perm ..

theorem mem_byAge {c : Cache α} {x : String × CacheEntry α} : x ∈ c.byAge ↔ x ∈ c.entries :=
  c.byAge_perm.mem_iff

theorem byAge_pairwise (c : Cache α) :
    c.byAge.Pairwise fun a b => a.2.stored.seconds ≤ b.2.stored.seconds := by
  have hsorted : c.byAge.Pairwise fun a b =>
      decide (a.2.stored.seconds ≤ b.2.stored.seconds) = true := by
    refine List.pairwise_mergeSort ?_ ?_ c.entries
    · intro x y z hxy hyz
      rw [decide_eq_true_eq] at hxy hyz ⊢
      exact hxy.trans hyz
    · intro x y
      rw [Bool.or_eq_true, decide_eq_true_eq, decide_eq_true_eq]
      exact le_total _ _
  exact hsorted.imp fun h => of_decide_eq_true h

theorem byAge_nodup {c : Cache α} (h : c.keys.Nodup) : (c.byAge.map (·.1)).Nodup :=
  ((c.byAge_perm.map _).nodup_iff).2 h

/-- An entry is among the `k` oldest if its key is. -/
theorem mem_take_byAge {c : Cache α} (h : c.keys.Nodup) {x : String × CacheEntry α}
    (hx : x ∈ c.entries) (k : Nat) : x.1 ∈ c.oldest.take k ↔ x ∈ c.byAge.take k := by
  rw [oldest_eq, ← List.map_take]
  constructor
  · intro hkey
    obtain ⟨y, hy, hsame⟩ := List.mem_map.1 hkey
    have heq : y = x := List.inj_on_of_nodup_map (byAge_nodup h) (List.mem_of_mem_take hy)
      (mem_byAge.2 hx) hsame
    exact heq ▸ hy
  · intro hmem
    exact List.mem_map_of_mem hmem

theorem mem_drop_byAge {c : Cache α} (h : c.keys.Nodup) {x : String × CacheEntry α}
    (hx : x ∈ c.entries) {k : Nat} (hk : x.1 ∉ c.oldest.take k) : x ∈ c.byAge.drop k := by
  have hsplit : x ∈ c.byAge.take k ++ c.byAge.drop k := by
    rw [List.take_append_drop]
    exact mem_byAge.2 hx
  rcases List.mem_append.1 hsplit with hmem | hmem
  · exact absurd ((mem_take_byAge h hx k).2 hmem) hk
  · exact hmem

/-- None of the `k` oldest entries is younger than another one. -/
theorem stored_le_of_oldest {c : Cache α} (h : c.keys.Nodup) {x y : String × CacheEntry α}
    (hx : x ∈ c.entries) (hy : y ∈ c.entries) {k : Nat} (hold : x.1 ∈ c.oldest.take k)
    (hyoung : y.1 ∉ c.oldest.take k) : x.2.stored.seconds ≤ y.2.stored.seconds := by
  have hsorted := c.byAge_pairwise
  rw [← List.take_append_drop k c.byAge] at hsorted
  exact (List.pairwise_append.1 hsorted).2.2 x ((mem_take_byAge h hx k).1 hold) y
    (mem_drop_byAge h hy hyoung)

/-- Without the `k` oldest there are `k` entries less. -/
theorem length_without_oldest {c : Cache α} (h : c.keys.Nodup) (k : Nat) :
    (c.entries.filter fun e => !(c.oldest.take k).contains e.1).length = c.entries.length - k := by
  have hgone : ∀ x ∈ c.byAge.take k, x.1 ∈ c.oldest.take k := by
    intro x hx
    exact (mem_take_byAge h (mem_byAge.1 (List.mem_of_mem_take hx)) k).2 hx
  have hkept : ∀ x ∈ c.byAge.drop k, x.1 ∉ c.oldest.take k := by
    intro x hx hkey
    have hold := (mem_take_byAge h (mem_byAge.1 (List.mem_of_mem_drop hx)) k).1 hkey
    have hdisjoint := List.disjoint_take_drop (byAge_nodup h).of_map (Nat.le_refl k)
    exact hdisjoint hold hx
  have hfilter : (c.byAge.filter fun e => !(c.oldest.take k).contains e.1) = c.byAge.drop k := by
    conv_lhs => rw [← List.take_append_drop k c.byAge]
    rw [List.filter_append, List.filter_eq_nil_iff.2, List.filter_eq_self.2, List.nil_append]
    · intro x hx
      simpa using hkept x hx
    · intro x hx
      simpa using hgone x hx
  rw [← (c.byAge_perm.filter _).length_eq, hfilter, List.length_drop, c.byAge_perm.length_eq]

/-! ### Room for one more -/

/-- A cache that has made room has none, or less than the limit says. -/
theorem length_roomy_lt {c : Cache α} (h : c.keys.Nodup) (now : Clock) {n : Int}
    (hn : c.capacity = .count n) :
    (c.roomy now).entries.length = 0 ∨ ((c.roomy now).entries.length : Int) < n := by
  have hcap : (c.sweep now).capacity = .count n := hn
  unfold roomy compact
  by_cases hfull : c.isFull
  · rw [if_pos hfull]
    simp only
    by_cases hstill : (c.sweep now).isFull
    · rw [if_pos hstill, length_without_oldest (nodup_sweep h now)]
      simp only [excess, hcap, slack]
      omega
    · rw [if_neg hstill]
      simp only [isFull, hcap, Capacity.isReached, decide_eq_true_eq] at hstill
      omega
  · rw [if_neg hfull]
    simp only [isFull, hn, Capacity.isReached, decide_eq_true_eq] at hfull
    omega

/-- Whether the cache gives up an entry whose time is not over to make room for a set. -/
def GivesUp (c : Cache α) (now : Clock) (x : String × CacheEntry α) : Prop :=
  x ∈ c.entries ∧ x.2.isOver now = false ∧ x ∉ (c.roomy now).entries

theorem GivesUp.evicts {c : Cache α} {now : Clock} {x : String × CacheEntry α}
    (h : c.GivesUp now x) (key : String) (value : α) (life : Lifetime) :
    c.Evicts x.1 ⟨now, .set key value life⟩ := by
  obtain ⟨hmem, hfresh, hgone⟩ := h
  have hset : (⟨now, .set key value life⟩ : Event α).act = .set key value life := rfl
  by_contra hstays
  exact hgone ((mem_roomy hset).2 ⟨hmem, hstays, fun _ => hfresh⟩)

/-- After any history a set does not fail, and then there are no more entries than the limit says,
or the one that was set. Where an entry goes for it whose time is not over, there were too many of
that kind; all that stay are of that kind too and none of them is older. -/
theorem set_run_bounded {n : Capacity} (hn : n.IsUsable) {events : List (Event α)}
    (h : ∀ e ∈ events, e.act.IsUsable) (now : Clock) (key : String) (value : α) (life : Lifetime) :
    let c := (empty n).run events
    let after := c.step ⟨now, .set key value life⟩
    c.setFault? now = none ∧
    (∀ y, y ∈ after.entries ↔
      y = (key, ⟨value, now, life⟩) ∨ y.1 ≠ key ∧ y ∈ (c.roomy now).entries) ∧
    (∀ m, c.capacity = .count m → (after.entries.length : Int) ≤ max 1 m) ∧
    (∀ x, c.GivesUp now x →
      (∃ m, c.capacity = .count m ∧ m ≤ ((c.size now).1 : Int)) ∧
      ∀ y ∈ (c.roomy now).entries,
        y.2.isOver now = false ∧ x.2.stored.seconds ≤ y.2.stored.seconds) := by
  intro c after
  have hnodup : c.keys.Nodup := nodup_run (nodup_empty n) events
  have hroomy : (c.roomy now).keys.Nodup := nodup_roomy hnodup now
  refine ⟨fault?_run hn h ⟨now, .set key value life⟩, ?_, ?_, ?_⟩
  · rintro ⟨k, y⟩
    rw [Prod.mk.injEq]
    exact mem_assign_iff hroomy
  · intro m hm
    have hlength : after.entries.length ≤ (c.roomy now).entries.length + 1 := length_assign_le ..
    rcases length_roomy_lt hnodup now hm with hnone | hless
    · omega
    · omega
  · intro x hx
    have hset : (⟨now, .set key value life⟩ : Event α).act = .set key value life := rfl
    have hevicts := hx.evicts key value life
    obtain ⟨m, hm, hsize, -⟩ := hevicts.2
    refine ⟨⟨m, hm, hsize⟩, fun y hy => ?_⟩
    obtain ⟨hfull, hover, hyoung⟩ := (evicts_iff hset).1 hevicts
    obtain ⟨hin, hstays, hfresh⟩ := (mem_roomy hset).1 hy
    have hxs : x ∈ (c.sweep now).entries := mem_sweep.2 ⟨hx.1, hx.2.1⟩
    have hys : y ∈ (c.sweep now).entries := mem_sweep.2 ⟨hin, hfresh hfull⟩
    refine ⟨hfresh hfull, stored_le_of_oldest (nodup_sweep hnodup now) hxs hys hyoung ?_⟩
    intro hkey
    exact hstays ((evicts_iff hset).2 ⟨hfull, hover, hkey⟩)

/-- Twelve entries, of which the first is soon over and the last is set once more; then the limit is
lowered. -/
def lowered : List (Event Nat) :=
  ⟨⟨0⟩, .set "a" 0 (.seconds 1)⟩ ::
    (["b", "c", "d", "e", "f", "g", "h", "i", "j", "k", "l"].map fun key =>
      ⟨⟨1⟩, .set key 1 .endless⟩) ++
    [⟨⟨2⟩, .set "l" 2 .endless⟩, ⟨⟨3⟩, .limit (.count 11)⟩]

theorem lowered_isUsable : ∀ e ∈ lowered, e.act.IsUsable := by
  intro e he
  rcases List.mem_append.1 he with he | he
  · rcases List.mem_cons.1 he with rfl | he
    · rfl
    · obtain ⟨key, -, rfl⟩ := List.mem_map.1 he
      rfl
  · rcases List.mem_pair.1 he with rfl | rfl
    · rfl
    · trivial

/-- The first entry is over and the ten before the last are older than it: they all go. -/
theorem set_run_bounded_lowered :
    Capacity.IsUsable (.count 20) ∧ (∀ e ∈ lowered, e.act.IsUsable) ∧
    let c := (empty (.count 20)).run lowered
    let after := c.step ⟨⟨4⟩, .set "m" 3 .endless⟩
    c.capacity = .count 11 ∧ c.keys.length = 12 ∧ (c.roomy ⟨4⟩).keys = ["l"] ∧
    c.GivesUp ⟨4⟩ ("c", ⟨1, ⟨1⟩, .endless⟩) ∧ (after.entries.length : Int) ≤ 11 ∧
    ∀ y ∈ (c.roomy ⟨4⟩).entries, y.2.isOver ⟨4⟩ = false ∧ 1 ≤ y.2.stored.seconds := by
  have hn : Capacity.IsUsable (.count 20) := trivial
  refine ⟨hn, lowered_isUsable, ?_⟩
  intro c after
  obtain ⟨-, -, hbound, hgone⟩ := set_run_bounded hn lowered_isUsable ⟨4⟩ "m" 3 .endless
  have hcapacity : c.capacity = .count 11 := rfl
  have hold : (c.sweep ⟨4⟩).oldest =
      ["b", "c", "d", "e", "f", "g", "h", "i", "j", "k", "l"] := by
    rw [oldest, List.mergeSort_of_pairwise (by decide +kernel)]
    decide +kernel
  have hroomy : (c.roomy ⟨4⟩).keys = ["l"] := by
    rw [roomy, if_pos (by decide), compact]
    simp only [hold]
    decide +kernel
  have hgives : c.GivesUp ⟨4⟩ ("c", ⟨1, ⟨1⟩, .endless⟩) := by
    refine ⟨.tail _ (.tail _ (.head _)), rfl, fun hmem => ?_⟩
    have hkey : "c" ∈ (c.roomy ⟨4⟩).keys := List.mem_map_of_mem hmem
    rw [hroomy] at hkey
    exact absurd hkey (by decide)
  exact ⟨hcapacity, rfl, hroomy, hgives, hbound 11 hcapacity, (hgone _ hgives).2⟩

end Cache

end Restyle
