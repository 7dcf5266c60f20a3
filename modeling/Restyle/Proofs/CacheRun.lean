import Mathlib.Data.List.Induction
import Restyle.Proofs.CacheEntries
import Restyle.Proofs.Rounding

/-!
What a cache finds after any history. A value is found only if it is what was last set under the
key and its time is not over; and where such a value is not found, a later set met a cache that was
full of entries whose time was not over, and gave it up with the oldest of them.
-/
namespace Restyle

namespace Lifetime

/-- Whether an entry of this age is still good. -/
def Lasts : Lifetime → Rat → Prop
  | seconds n, age => age ≤ n
  | endless, _ => True
  | _, _ => False

theorem isOver_eq_false_iff {l : Lifetime} (h : l.fault? = none) (age : Rat) :
    l.isOver age = false ↔ l.Lasts age := by
  cases l with
  | seconds n => simp [isOver, Lasts]
  | endless => simp [isOver, Lasts]
  | instant => simp [isOver, Lasts]
  | unusable kind => cases h

theorem Lasts.mono {l : Lifetime} {age age' : Rat} (h : l.Lasts age) (hle : age' ≤ age) :
    l.Lasts age' := by
  cases l with
  | seconds n => exact hle.trans h
  | endless => trivial
  | instant => exact h
  | unusable kind => exact h

end Lifetime

namespace Cache

variable {α : Type}

/-! ### Histories -/

/-- What may be done to a cache. -/
inductive Act (α : Type) where
  | set (key : String) (value : α) (life : Lifetime)
  | get (key : String)
  | has (key : String)
  | delete (key : String)
  | clear
  | size
  | limit (capacity : Capacity)

/-- Something that is done, and when. -/
structure Event (α : Type) where
  time : Clock
  act : Act α

def step (c : Cache α) (e : Event α) : Cache α :=
  match e.act with
  | .set key value life => c.set e.time key value life
  | .get key => (c.get e.time key).2
  | .has key => (c.has e.time key).2
  | .delete key => c.delete key
  | .clear => c.clear
  | .size => (c.size e.time).2
  | .limit capacity => { c with capacity }

def run (c : Cache α) (events : List (Event α)) : Cache α := events.foldl step c

/-- Whether an act leaves nothing of what was set under the key. -/
def Act.Resets (key : String) : Act α → Prop
  | set k _ _ => k = key
  | delete k => k = key
  | clear => True
  | _ => False

/-- Whether the lifetime or the limit of an act can be compared with numbers. -/
def Act.IsUsable : Act α → Prop
  | set _ _ life => life.fault? = none
  | limit capacity => capacity.IsUsable
  | _ => True

/-- Events in the order of their times, none of them later than now. -/
structure IsHistory (events : List (Event α)) (now : Clock) : Prop where
  rising : events.Pairwise fun e e' => e.time.seconds ≤ e'.time.seconds
  passed : ∀ e ∈ events, e.time.seconds ≤ now.seconds
  usable : ∀ e ∈ events, e.act.IsUsable

/-- The last set of a key in a history: nothing later sets it, deletes it or clears the cache. -/
structure IsLastSet (events : List (Event α)) (key : String) (value : α) (life : Lifetime)
    (before : List (Event α)) (time : Clock) (after : List (Event α)) : Prop where
  split : events = before ++ ⟨time, .set key value life⟩ :: after
  untouched : ∀ e ∈ after, ¬ e.act.Resets key

/-- A set that finds no less entries that are good than the cache may have, and drops the key as
one of the oldest of them. -/
def Evicts (c : Cache α) (key : String) (e : Event α) : Prop :=
  (∃ k value life, e.act = .set k value life) ∧ ∃ n : Int, c.capacity = .count n ∧
    n ≤ (c.size e.time).1 ∧
    key ∈ (c.sweep e.time).oldest.take ((c.size e.time).1 - n + slack).toNat

/-- Whether one of the events drops the key from a full cache. -/
def Evicted (c : Cache α) (key : String) (events : List (Event α)) : Prop :=
  ∃ before e after, events = before ++ e :: after ∧ (c.run before).Evicts key e

@[simp] theorem run_nil (c : Cache α) : c.run [] = c := rfl

@[simp] theorem run_append (c : Cache α) (first second : List (Event α)) :
    c.run (first ++ second) = (c.run first).run second := List.foldl_append

@[simp] theorem run_singleton (c : Cache α) (e : Event α) : c.run [e] = c.step e := rfl

theorem evicted_snoc {c : Cache α} {key : String} {events : List (Event α)} {e : Event α} :
    c.Evicted key (events ++ [e]) ↔ c.Evicted key events ∨ (c.run events).Evicts key e := by
  constructor
  · rintro ⟨before, x, after, hsplit, hx⟩
    rcases List.eq_nil_or_concat after with rfl | ⟨after, y, rfl⟩
    · obtain ⟨rfl, e'⟩ := List.append_inj' hsplit rfl
      rw [← List.singleton_inj.1 e'] at hx
      exact .inr hx
    · rw [List.concat_eq_append, ← List.cons_append, ← List.append_assoc] at hsplit
      exact .inl ⟨before, x, after, (List.append_inj' hsplit rfl).1, hx⟩
  · rintro (⟨before, x, after, rfl, hx⟩ | hx)
    · exact ⟨before, x, after ++ [e], by simp, hx⟩
    · exact ⟨events, e, [], rfl, hx⟩

theorem IsLastSet.run_eq {events : List (Event α)} {key : String} {value : α} {life : Lifetime}
    {before after : List (Event α)} {time : Clock}
    (h : IsLastSet events key value life before time after) (c : Cache α) :
    c.run events = (c.run (before ++ [⟨time, .set key value life⟩])).run after := by
  rw [← run_append, h.split, List.append_assoc, List.singleton_append]

/-! ### What one event leaves -/

theorem mem_compact {c : Cache α} {now : Clock} {x : String × CacheEntry α} :
    x ∈ (c.compact now).entries ↔ x ∈ (c.sweep now).entries ∧
      ¬ ((c.sweep now).isFull ∧ x.1 ∈ (c.sweep now).oldest.take (c.sweep now).excess) := by
  unfold compact
  simp only
  split
  · next h => simp [List.mem_filter, h]
  · next h => simp [h]

theorem mem_sweep {c : Cache α} {now : Clock} {x : String × CacheEntry α} :
    x ∈ (c.sweep now).entries ↔ x ∈ c.entries ∧ x.2.isOver now = false := by
  simp [sweep, List.mem_filter]

theorem length_sweep_le (c : Cache α) (now : Clock) :
    (c.sweep now).entries.length ≤ c.entries.length := List.length_filter_le _ _

/-- The cache in which a set finds its place. -/
def roomy (c : Cache α) (now : Clock) : Cache α := if c.isFull then c.compact now else c

/-- Making room evicts exactly what a full cache gives up. -/
theorem evicts_iff {c : Cache α} {e : Event α} {key k : String} {value : α} {life : Lifetime}
    (he : e.act = .set k value life) :
    c.Evicts key e ↔ c.isFull ∧ (c.sweep e.time).isFull ∧
      key ∈ (c.sweep e.time).oldest.take (c.sweep e.time).excess := by
  have hle := length_sweep_le c e.time
  unfold Evicts isFull excess
  rw [he]
  have hcap : (c.sweep e.time).capacity = c.capacity := rfl
  rw [hcap]
  constructor
  · rintro ⟨-, n, hn, hsize, hkey⟩
    simp only [size] at hsize hkey
    rw [hn]
    refine ⟨?_, ?_, hkey⟩
    · simp only [Capacity.isReached, decide_eq_true_eq]
      omega
    · simpa [Capacity.isReached] using hsize
  · rintro ⟨-, hfull, hkey⟩
    refine ⟨⟨_, _, _, rfl⟩, ?_⟩
    cases hc : c.capacity with
    | count n =>
      rw [hc] at hfull hkey
      exact ⟨n, rfl, by simpa [Capacity.isReached, size] using hfull, hkey⟩
    | unbounded => simp [hc] at hkey
    | fraction q => simp [hc] at hkey
    | unusable kind => simp [hc] at hkey

theorem mem_roomy {c : Cache α} {e : Event α} {k : String} {value : α} {life : Lifetime}
    (he : e.act = .set k value life) {x : String × CacheEntry α} :
    x ∈ (c.roomy e.time).entries ↔ x ∈ c.entries ∧ ¬ c.Evicts x.1 e ∧
      (c.isFull → x.2.isOver e.time = false) := by
  rw [evicts_iff he]
  unfold roomy
  split
  · next h => simp only [mem_compact, mem_sweep, h]; tauto
  · next h => simp [h]

theorem nodup_sweep {c : Cache α} (h : c.keys.Nodup) (now : Clock) : (c.sweep now).keys.Nodup :=
  (List.filter_sublist.map _).nodup h

theorem nodup_roomy {c : Cache α} (h : c.keys.Nodup) (now : Clock) : (c.roomy now).keys.Nodup := by
  unfold roomy compact
  simp only
  split
  · split
    · exact (List.filter_sublist.map _).nodup (nodup_sweep h now)
    · exact nodup_sweep h now
  · exact h

theorem nodup_get {c : Cache α} (h : c.keys.Nodup) (now : Clock) (key : String) :
    (c.get now key).2.keys.Nodup := by
  unfold get
  split
  · exact h
  · split
    · exact (List.filter_sublist.map _).nodup h
    · exact h

theorem nodup_step {c : Cache α} (h : c.keys.Nodup) (e : Event α) : (c.step e).keys.Nodup := by
  unfold step
  cases e.act with
  | set key value life => exact nodup_assign (nodup_roomy h e.time) _ _
  | get key => exact nodup_get h e.time key
  | has key => exact nodup_get h e.time key
  | delete key => exact (List.filter_sublist.map _).nodup h
  | clear => exact List.nodup_nil
  | size => exact nodup_sweep h e.time
  | limit capacity => exact h

theorem nodup_empty (n : Capacity) : (empty n : Cache α).keys.Nodup := List.nodup_nil

theorem nodup_run {c : Cache α} (h : c.keys.Nodup) (events : List (Event α)) :
    (c.run events).keys.Nodup := by
  induction events generalizing c with
  | nil => exact h
  | cons e rest ih => exact ih (nodup_step h e)

/-- An entry after an event was made by it, or was there before and is none that it drops. -/
theorem mem_of_mem_step {c : Cache α} (hc : c.keys.Nodup) {e : Event α} {key : String}
    {x : CacheEntry α} (h : (key, x) ∈ (c.step e).entries) :
    (e = ⟨x.stored, .set key x.value x.life⟩) ∨
      ((key, x) ∈ c.entries ∧ ¬ e.act.Resets key ∧ ¬ c.Evicts key e) := by
  obtain ⟨now, act⟩ := e
  have hkeep (hmem : (key, x) ∈ c.entries) (hr : ¬ act.Resets key)
      (hs : ∀ k value life, act ≠ .set k value life) :
      (key, x) ∈ c.entries ∧ ¬ act.Resets key ∧ ¬ c.Evicts key ⟨now, act⟩ :=
    ⟨hmem, hr, fun ⟨⟨k, value, life, he⟩, _⟩ => hs k value life he⟩
  cases act with
  | set k value life =>
    rcases (mem_assign_iff (nodup_roomy hc now)).1 h with ⟨rfl, rfl⟩ | ⟨hne, hmem⟩
    · exact .inl rfl
    · obtain ⟨hmem, hev, -⟩ := (mem_roomy (e := ⟨now, .set k value life⟩) rfl).1 hmem
      exact .inr ⟨hmem, Ne.symm hne, hev⟩
  | get k => exact .inr (hkeep (mem_of_mem_get h) id (by simp))
  | has k => exact .inr (hkeep (mem_of_mem_get h) id (by simp))
  | delete k =>
    have hm := List.mem_filter.1 h
    exact .inr (hkeep hm.1 (fun e => by simp [Act.Resets] at e; simp [e] at hm) (by simp))
  | clear => cases h
  | size => exact .inr (hkeep (mem_of_mem_sweep h) id (by simp))
  | limit capacity => exact .inr (hkeep h id (by simp))

theorem get_of_mem {c : Cache α} (hc : c.keys.Nodup) {now : Clock} {key : String}
    {x : CacheEntry α} (h : (key, x) ∈ c.entries) (hx : x.isOver now = false) :
    (c.get now key).1 = some x.value := by
  simp [get, (mem_iff_lookup hc).1 h, hx]

theorem mem_and_fresh_of_get_some {c : Cache α} {now : Clock} {key : String} {value : α}
    (h : (c.get now key).1 = some value) :
    ∃ x, (key, x) ∈ c.entries ∧ x.isOver now = false ∧ x.value = value := by
  unfold get at h
  split at h
  · cases h
  · next x hx =>
    split at h
    · cases h
    · next hover => exact ⟨x, mem_of_lookup hx, by simpa using hover, Option.some.inj h⟩

/-- An entry whose time is not over is there after a look-up. -/
theorem mem_get {c : Cache α} (hc : c.keys.Nodup) {now : Clock} {key : String} {x : CacheEntry α}
    (h : (key, x) ∈ c.entries) (hx : x.isOver now = false) (k : String) :
    (key, x) ∈ (c.get now k).2.entries := by
  unfold get
  split
  · exact h
  · next y hy =>
    split
    · next hover =>
      refine List.mem_filter.2 ⟨h, ?_⟩
      by_contra hk
      obtain rfl : key = k := by simpa using hk
      rw [(mem_iff_lookup hc).1 h] at hy
      rw [Option.some.inj hy, hover] at hx
      cases hx
    · exact h

/-- An entry whose time is not over is there after an event that neither resets nor evicts it. -/
theorem mem_step {c : Cache α} (hc : c.keys.Nodup) {e : Event α} {key : String} {x : CacheEntry α}
    (h : (key, x) ∈ c.entries) (hx : x.isOver e.time = false) (hr : ¬ e.act.Resets key)
    (hev : ¬ c.Evicts key e) : (key, x) ∈ (c.step e).entries := by
  obtain ⟨now, act⟩ := e
  cases act with
  | set k value life =>
    have hroomy := (mem_roomy (e := ⟨now, .set k value life⟩) rfl).2 ⟨h, hev, fun _ => hx⟩
    exact (mem_assign_iff (nodup_roomy hc now)).2 (.inr ⟨Ne.symm hr, hroomy⟩)
  | get k => exact mem_get hc h hx k
  | has k => exact mem_get hc h hx k
  | delete k => exact List.mem_filter.2 ⟨h, by simpa using Ne.symm hr⟩
  | clear => exact absurd trivial hr
  | size => exact mem_sweep.2 ⟨h, hx⟩
  | limit capacity => exact h

/-! ### What a history leaves -/

/-- Every entry is the last set of its key, and nothing later has evicted it. -/
theorem isLastSet_of_mem_run {n : Capacity} {events : List (Event α)} {key : String}
    {x : CacheEntry α} (h : (key, x) ∈ ((empty n).run events).entries) :
    ∃ before after, IsLastSet events key x.value x.life before x.stored after ∧
      ¬ ((empty n).run (before ++ [⟨x.stored, .set key x.value x.life⟩])).Evicted key after := by
  induction events using List.reverseRecOn with
  | nil => cases h
  | append_singleton events e ih =>
    rw [run_append, run_singleton] at h
    rcases mem_of_mem_step (nodup_run (nodup_empty n) events) h with rfl | ⟨hmem, hr, hev⟩
    · refine ⟨events, [], ⟨rfl, by simp⟩, ?_⟩
      rintro ⟨before, e, after, hsplit, -⟩
      simp at hsplit
    · obtain ⟨before, after, hlast, hnot⟩ := ih hmem
      refine ⟨before, after ++ [e], ⟨by simp [hlast.split], ?_⟩, ?_⟩
      · intro e' he'
        rcases List.mem_append.1 he' with he' | he'
        · exact hlast.untouched e' he'
        · rwa [List.mem_singleton.1 he']
      · rw [evicted_snoc, not_or]
        refine ⟨hnot, ?_⟩
        rwa [← hlast.run_eq]

theorem mem_step_set (c : Cache α) (now : Clock) (key : String) (value : α) (life : Lifetime) :
    (key, ⟨value, now, life⟩) ∈ (c.step ⟨now, .set key value life⟩).entries :=
  mem_assign_self key _ _

/-- What was set stays as long as its time is not over and nothing resets or evicts it. -/
theorem mem_run {c : Cache α} (hc : c.keys.Nodup) {key : String} {x : CacheEntry α}
    {events : List (Event α)} (h : (key, x) ∈ c.entries)
    (hr : ∀ e ∈ events, ¬ e.act.Resets key) (hx : ∀ e ∈ events, x.isOver e.time = false)
    (hev : ¬ c.Evicted key events) : (key, x) ∈ (c.run events).entries := by
  induction events using List.reverseRecOn with
  | nil => exact h
  | append_singleton events e ih =>
    rw [evicted_snoc, not_or] at hev
    rw [run_append, run_singleton]
    have hmem := ih (fun e' he' => hr e' (by simp [he'])) (fun e' he' => hx e' (by simp [he']))
      hev.1
    exact mem_step (nodup_run hc events) hmem (hx e (by simp)) (hr e (by simp)) hev.2

section

variable {events : List (Event α)} {key : String} {value value' : α} {life life' : Lifetime}
  {before before' after after' : List (Event α)} {time time' : Clock}

/-- No set of the key comes after the last one. -/
theorem IsLastSet.not_later (h : IsLastSet events key value life before time after)
    {rest : List (Event α)}
    (hrest : (⟨time, .set key value life⟩ : Event α) :: after =
      rest ++ ⟨time', .set key value' life'⟩ :: after') : rest = [] := by
  cases rest with
  | nil => rfl
  | cons e rest =>
    have hmem : (⟨time', .set key value' life'⟩ : Event α) ∈ after := by
      rw [(List.cons.inj hrest).2]
      simp
    exact absurd rfl (h.untouched _ hmem)

/-- A history has one last set of a key. -/
theorem IsLastSet.unique (h : IsLastSet events key value life before time after)
    (h' : IsLastSet events key value' life' before' time' after') :
    before = before' ∧ time = time' ∧ value = value' ∧ life = life' ∧ after = after' := by
  have hsplit := h.split.symm.trans h'.split
  have hbefore : before = before' := by
    obtain ⟨rest, hb, hrest⟩ | ⟨rest, hb, hrest⟩ := List.append_eq_append_iff.1 hsplit
    · rw [hb, h.not_later hrest, List.append_nil]
    · rw [hb, h'.not_later hrest, List.append_nil]
  subst hbefore
  obtain ⟨hset, hafter⟩ := List.cons.inj (List.append_cancel_left hsplit)
  obtain ⟨htime, hact⟩ := Event.mk.inj hset
  obtain ⟨-, hvalue, hlife⟩ := Act.set.inj hact
  exact ⟨rfl, htime, hvalue, hlife, hafter⟩

end

/-! ### Nothing fails -/

/-- What an event would fail with. -/
def fault? (c : Cache α) (e : Event α) : Option Fault :=
  match e.act with
  | .set _ _ _ => c.setFault? e.time
  | .get key => c.lookupFault? key
  | .has key => c.lookupFault? key
  | .size => c.sweepFault?
  | _ => none

theorem capacity_run {n : Capacity} (hn : n.IsUsable) {events : List (Event α)}
    (h : ∀ e ∈ events, e.act.IsUsable) : ((empty n).run events).capacity.IsUsable := by
  induction events using List.reverseRecOn with
  | nil => exact hn
  | append_singleton events e ih =>
    have hprev := ih fun e' he' => h e' (by simp [he'])
    have he := h e (by simp)
    rw [run_append, run_singleton]
    obtain ⟨now, act⟩ := e
    cases act with
    | set k value life => simpa [step] using hprev
    | get k => simpa [step] using hprev
    | has k => simpa [step, has] using hprev
    | limit capacity => exact he
    | delete k => exact hprev
    | clear => exact hprev
    | size => exact hprev

theorem life_run {n : Capacity} {events : List (Event α)} (h : ∀ e ∈ events, e.act.IsUsable)
    {x : String × CacheEntry α} (hx : x ∈ ((empty n).run events).entries) :
    x.2.life.fault? = none := by
  obtain ⟨key, x⟩ := x
  obtain ⟨before, after, hlast, -⟩ := isLastSet_of_mem_run hx
  exact h ⟨x.stored, .set key x.value x.life⟩ (by simp [hlast.split])

theorem fault?_run {n : Capacity} (hn : n.IsUsable) {events : List (Event α)}
    (h : ∀ e ∈ events, e.act.IsUsable) (e : Event α) : ((empty n).run events).fault? e = none := by
  have hlife := fun x (hx : x ∈ ((empty n).run events).entries) => life_run h hx
  unfold fault?
  split
  · exact setFault?_eq_none (capacity_run hn h) hlife _
  · exact lookupFault?_eq_none hlife _
  · exact lookupFault?_eq_none hlife _
  · exact sweepFault?_eq_none hlife
  · rfl

/-! ### What is found -/

/-- What was last set is not over at any time before it is looked for, if it is not over then. -/
theorem IsLastSet.lasts {events : List (Event α)} {now : Clock} (h : IsHistory events now)
    {key : String} {value : α} {life : Lifetime} {before after : List (Event α)} {time : Clock}
    (hlast : IsLastSet events key value life before time after) (hl : life.Lasts (now.since time)) :
    life.isOver (now.since time) = false ∧
      ∀ e ∈ after, life.isOver (e.time.since time) = false := by
  have hfault : life.fault? = none := h.usable ⟨time, .set key value life⟩ (by simp [hlast.split])
  refine ⟨(Lifetime.isOver_eq_false_iff hfault _).2 hl, fun e he => ?_⟩
  have hrising := h.rising
  rw [hlast.split] at hrising
  have hfirst := (List.pairwise_cons.1 (List.pairwise_append.1 hrising).2.1).1 e he
  have hnow := h.passed e (by simp [hlast.split, he])
  exact (Lifetime.isOver_eq_false_iff hfault _).2 (hl.mono (Clock.since_mono hfirst hnow))

/-- In any history of a cache whose clock does not go back nothing fails, and a look-up finds a
value only if it was set last under the key and its time is not over. Where such a value was set, it
is found unless a later set met a cache full of entries whose time was not over and gave it up. -/
theorem get_run_iff {n : Capacity} (hn : n.IsUsable) {events : List (Event α)} {now : Clock}
    (h : IsHistory events now) (key : String) :
    (∀ before e after, events = before ++ e :: after →
      ((empty n).run before).fault? e = none) ∧
    ((empty n).run events).lookupFault? key = none ∧
    (∀ value, (((empty n).run events).get now key).1 = some value →
      ∃ life before time after, IsLastSet events key value life before time after ∧
        life.Lasts (now.since time)) ∧
    (∀ value life before time after, IsLastSet events key value life before time after →
      life.Lasts (now.since time) →
      ((((empty n).run events).get now key).1 = some value ↔
        ¬ ((empty n).run (before ++ [⟨time, .set key value life⟩])).Evicted key after) ∧
      ((((empty n).run events).get now key).1 = none ↔
        ((empty n).run (before ++ [⟨time, .set key value life⟩])).Evicted key after)) := by
  have hnodup : ((empty n).run events).keys.Nodup := nodup_run (nodup_empty n) events
  refine ⟨?_, fault?_run hn h.usable ⟨now, .get key⟩, ?_, ?_⟩
  · rintro before e after rfl
    exact fault?_run hn (fun e' he' => h.usable e' (by simp [he'])) e
  · intro value hget
    obtain ⟨x, hmem, hx, rfl⟩ := mem_and_fresh_of_get_some hget
    obtain ⟨before, after, hlast, -⟩ := isLastSet_of_mem_run hmem
    exact ⟨x.life, before, x.stored, after, hlast,
      (Lifetime.isOver_eq_false_iff (life_run h.usable hmem) _).1 hx⟩
  · intro value life before time after hlast hl
    obtain ⟨hnow, hafter⟩ := hlast.lasts h hl
    have kept (hev : ¬ ((empty n).run (before ++ [⟨time, .set key value life⟩])).Evicted key
        after) : (((empty n).run events).get now key).1 = some value := by
      have hmem : (key, ⟨value, time, life⟩) ∈ ((empty n).run events).entries := by
        rw [hlast.run_eq]
        refine mem_run (nodup_run (nodup_empty n) _) ?_ hlast.untouched hafter hev
        rw [run_append, run_singleton]
        exact mem_step_set ..
      exact get_of_mem hnodup hmem hnow
    have gone (hev : ((empty n).run (before ++ [⟨time, .set key value life⟩])).Evicted key after) :
        (((empty n).run events).get now key).1 = none := by
      by_contra hget
      obtain ⟨value', hget⟩ := Option.ne_none_iff_exists'.1 hget
      obtain ⟨x, hmem, -, rfl⟩ := mem_and_fresh_of_get_some hget
      obtain ⟨before', after', hlast', hnot⟩ := isLastSet_of_mem_run hmem
      obtain ⟨rfl, rfl, rfl, rfl, rfl⟩ := hlast.unique hlast'
      exact hnot hev
    refine ⟨⟨fun hget hev => ?_, kept⟩, ⟨fun hget => ?_, gone⟩⟩
    · rw [gone hev] at hget
      cases hget
    · by_contra hev
      rw [kept hev] at hget
      cases hget

/-- A cache for one entry that takes a second one while the first is good. -/
def crowded : List (Event Nat) :=
  [⟨⟨0⟩, .set "a" 1 (.seconds 5)⟩, ⟨⟨3⟩, .get "a"⟩, ⟨⟨4⟩, .set "b" 2 (.seconds 5)⟩]

theorem crowded_isHistory : IsHistory crowded ⟨5⟩ where
  rising := by decide
  passed := by decide
  usable := by
    intro e he
    simp only [crowded, List.mem_cons, List.not_mem_nil, or_false] at he
    rcases he with rfl | rfl | rfl <;> first | rfl | trivial

theorem get_run_iff_crowded :
    Capacity.IsUsable (.count 1) ∧ IsHistory crowded ⟨5⟩ ∧
    (((empty (.count 1)).run crowded).get ⟨5⟩ "a").1 = none ∧
    (((empty (.count 1)).run crowded).get ⟨5⟩ "b").1 = some 2 := by
  refine ⟨trivial, crowded_isHistory, ?_, ?_⟩
  · obtain ⟨-, -, -, h⟩ := get_run_iff (n := .count 1) trivial crowded_isHistory "a"
    have hlast : IsLastSet crowded "a" 1 (.seconds 5) [] ⟨0⟩
        [⟨⟨3⟩, .get "a"⟩, ⟨⟨4⟩, .set "b" 2 (.seconds 5)⟩] := by
      refine ⟨rfl, ?_⟩
      simp [Act.Resets]
    refine (h 1 _ _ _ _ hlast (show _ ≤ _ by decide +kernel)).2.2 ?_
    refine ⟨[⟨⟨3⟩, .get "a"⟩], ⟨⟨4⟩, .set "b" 2 (.seconds 5)⟩, [], rfl, ⟨_, _, _, rfl⟩, 1,
      ?_, ?_, ?_⟩
    · decide +kernel
    · decide +kernel
    · decide +kernel
  · obtain ⟨-, -, -, h⟩ := get_run_iff (n := .count 1) trivial crowded_isHistory "b"
    have hlast : IsLastSet crowded "b" 2 (.seconds 5)
        [⟨⟨0⟩, .set "a" 1 (.seconds 5)⟩, ⟨⟨3⟩, .get "a"⟩] ⟨4⟩ [] := ⟨rfl, by simp⟩
    refine (h 2 _ _ _ _ hlast (show _ ≤ _ by decide +kernel)).1.2 ?_
    rintro ⟨before, e, after, hsplit, -⟩
    simp at hsplit

end Cache

end Restyle
