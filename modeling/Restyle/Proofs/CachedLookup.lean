import Restyle.Workspace.Resolver
import Restyle.Proofs.CacheEntries
import Restyle.Proofs.CaptureKey

/-!
Looking for sources with a cache and without one, on a tree that does not change. Whatever is asked
before, a cached answer is the right answer for some capture with the same key; so caching goes
unseen exactly when captures with one key have one source.
-/
namespace Restyle.Resolver

/-- What may happen between two look-ups: another look-up, a new detection, or the passing of time. -/
inductive Request where
  | find (c : Capture)
  | findPayload (v : Value)
  | refresh
  | wait (now : Clock)

/-- What a request gives. -/
inductive Answer where
  | source (found : Option SourceInfo)
  | refused (f : Fault)
  | detection (d : Option Detection)
  | silence

/-- The look-ups with the cache on or off. -/
def caching (r : Resolver) (on : Bool) : Resolver :=
  { r with settings := assign "cache_results" (.bool on) r.settings }

/-- Answers a request at a time. -/
def ask (t : Tree) : Resolver × Clock → Request → Answer × (Resolver × Clock)
  | (r, now), .find c => (.source (r.findCapture t now c).1, (r.findCapture t now c).2, now)
  | (r, now), .findPayload v =>
    match r.find t now v with
    | .ok (s, r') => (.source s, r', now)
    | .error f => (.refused f, r, now)
  | (r, now), .refresh => (.detection (r.refresh t).detected, r.refresh t, now)
  | (r, _), .wait now => (.silence, r, now)

/-- Where earlier requests lead. -/
def after (t : Tree) (s : Resolver × Clock) (before : List Request) : Resolver × Clock :=
  before.foldl (fun s q => (ask t s q).2) s

/-- What a request gives after earlier ones. -/
def answer (t : Tree) (s : Resolver × Clock) (before : List Request) (q : Request) : Answer :=
  (ask t (after t s before) q).1

/-- The capture that a request looks for. -/
def Request.capture? : Request → Option Capture
  | find c => some c
  | findPayload (.table fields) => (Capture.ofPayload (.table fields)).toOption
  | _ => none

/-- The source that is found when nothing is kept. A capture that has no key has none. -/
def seek (r : Resolver) (t : Tree) (c : Capture) : Option SourceInfo :=
  match (r.detect t).framework?, c.key with
  | some f, .ok _ => r.locate f t c
  | _, _ => none

/-- A request without a cache. -/
def direct (r : Resolver) (t : Tree) (q : Request) : Answer :=
  match q with
  | .find c => .source (r.seek t c)
  | .findPayload v =>
    match v with
    | .table fields =>
      match Capture.ofPayload (.table fields) with
      | .ok c => .source (r.seek t c)
      | .error f => .refused f
    | _ => .source none
  | .refresh => .detection (r.detect t).detected
  | .wait _ => .silence

/-- Nothing has been asked yet. -/
structure IsNew (r : Resolver) : Prop where
  undetected : r.detected = none
  nothingKept : r.cache.entries = []

/-- How long what is found is kept. -/
def life (r : Resolver) : Lifetime := .ofValue (r.settings.value "cache_ttl")

/-- What holds of a resolver that began as `r` when the captures `past` have been looked for: an
entry is the source of a past capture with its key. -/
structure Follows (r : Resolver) (t : Tree) (past : List Capture) (r' : Resolver) : Prop where
  root : r'.root = r.root
  settings : r'.settings = r.settings
  scan : r'.scan = r.scan
  choice : r'.choice = r.choice
  detected : r'.detected = none ∨ r'.detected = (r.detect t).detected
  capacity : r'.cache.capacity = r.cache.capacity
  entries : ∀ x ∈ r'.cache.entries, x.2.life = r.life ∧
    ∃ a ∈ past, a.key = .ok x.1 ∧ (r.seek t a).map .source = some x.2.value

theorem detect_of_new {r : Resolver} (h : r.detected = none) (t : Tree) :
    (r.detect t).detected =
      r.root.bind fun root => if t.isDirectory root then some (Detection.detect t root) else none := by
  unfold detect
  cases hr : r.root with
  | none => simp [h]
  | some root =>
    simp only [h, Option.bind_some]
    split <;> simp [h]

/-- A detection changes what is known of the framework, nothing else. -/
theorem detect_eq (r : Resolver) (t : Tree) :
    r.detect t = { r with detected := (r.detect t).detected } := by
  unfold detect
  split
  · split <;> rfl
  · rfl

@[simp] theorem detect_root (r : Resolver) (t : Tree) : (r.detect t).root = r.root := by
  rw [detect_eq]

@[simp] theorem detect_settings (r : Resolver) (t : Tree) :
    (r.detect t).settings = r.settings := by
  rw [detect_eq]

@[simp] theorem detect_scan (r : Resolver) (t : Tree) : (r.detect t).scan = r.scan := by
  rw [detect_eq]

@[simp] theorem detect_choice (r : Resolver) (t : Tree) : (r.detect t).choice = r.choice := by
  rw [detect_eq]

@[simp] theorem detect_cache (r : Resolver) (t : Tree) : (r.detect t).cache = r.cache := by
  rw [detect_eq]

theorem detect_of_detected {r : Resolver} {d : Detection} (h : r.detected = some d) (t : Tree) :
    r.detect t = r := by
  unfold detect
  simp [h]

namespace Follows

variable {r r' : Resolver} {t : Tree} {past : List Capture}

theorem start (h : r.IsNew) : Follows r t [] r where
  root := rfl
  settings := rfl
  scan := rfl
  choice := rfl
  detected := .inl h.undetected
  capacity := rfl
  entries := by simp [h.nothingKept]

theorem mono (h : Follows r t past r') (more : List Capture) :
    Follows r t (past ++ more) r' where
  root := h.root
  settings := h.settings
  scan := h.scan
  choice := h.choice
  detected := h.detected
  capacity := h.capacity
  entries := by
    intro x hx
    obtain ⟨hl, a, ha, hk, hs⟩ := h.entries x hx
    exact ⟨hl, a, List.mem_append_left _ ha, hk, hs⟩

theorem detect_detected (hn : r.detected = none) (h : Follows r t past r') :
    (r'.detect t).detected = (r.detect t).detected := by
  cases hd : r'.detected with
  | none => rw [detect_of_new hd, detect_of_new hn, h.root]
  | some d =>
    rw [detect_of_detected hd]
    rcases h.detected with e | e
    · simp [hd] at e
    · exact e

theorem detect (hn : r.detected = none) (h : Follows r t past r') :
    Follows r t past (r'.detect t) where
  root := by rw [detect_root, h.root]
  settings := by rw [detect_settings, h.settings]
  scan := by rw [detect_scan, h.scan]
  choice := by rw [detect_choice, h.choice]
  detected := .inr (h.detect_detected hn)
  capacity := by rw [detect_cache, h.capacity]
  entries := by
    rw [detect_cache]
    exact h.entries

theorem framework? (hn : r.detected = none) (h : Follows r t past r') :
    (r'.detect t).framework? = (r.detect t).framework? := by
  rw [Resolver.framework?, h.detect_detected hn, Resolver.framework?]

theorem locate (h : Follows r t past r') (f : Framework) (c : Capture) :
    r'.locate f t c = r.locate f t c := by
  unfold Resolver.locate files
  rw [h.choice, h.root, h.scan]

/-- Another cache whose entries come from the old one. -/
theorem withCache (h : Follows r t past r') {cache : Cache Cached}
    (hc : cache.capacity = r'.cache.capacity)
    (he : ∀ x ∈ cache.entries, x ∈ r'.cache.entries) :
    Follows r t past { r' with cache } where
  root := h.root
  settings := h.settings
  scan := h.scan
  choice := h.choice
  detected := h.detected
  capacity := hc.trans h.capacity
  entries := fun x hx => h.entries x (he x hx)

theorem fault?_eq_none (h : Follows r t past r') (hl : r.life.fault? = none) :
    ∀ x ∈ r'.cache.entries, x.2.life.fault? = none := by
  intro x hx
  rw [(h.entries x hx).1, hl]

end Follows

theorem source_map (s : Option SourceInfo) : (s.map Cached.source).bind Cached.source? = s := by
  cases s <;> rfl

section Steps

variable {r r' : Resolver} {t : Tree} {past : List Capture}

theorem seek_of_framework {f : Framework} (hf : (r.detect t).framework? = some f) {c : Capture}
    {key : String} (hk : c.key = .ok key) : r.seek t c = r.locate f t c := by
  unfold seek
  rw [hf, hk]

/-- Keeping what was found for a capture. -/
theorem keep_follows (h : Follows r t past r') (hc : r.cache.capacity.IsUsable)
    (hl : r.life.fault? = none) (now : Clock) {c : Capture} {key : String} (hk : c.key = .ok key) :
    (r'.keep now key ((r.seek t c).map .source)).1.bind Cached.source? = r.seek t c ∧
      Follows r t (past ++ [c]) (r'.keep now key ((r.seek t c).map .source)).2 := by
  unfold keep
  cases hs : r.seek t c with
  | none => exact ⟨rfl, h.mono [c]⟩
  | some s =>
    have hset := Cache.setFault?_eq_none (h.capacity ▸ hc) (h.fault?_eq_none hl) now
    simp only [Option.map_some, hset]
    refine ⟨rfl, ?_⟩
    have hm := h.mono [c]
    refine { hm with capacity := ?_, entries := ?_ }
    · rw [Cache.set_capacity, h.capacity]
    · intro x hx
      rcases Cache.mem_set hx with rfl | hx
      · refine ⟨?_, c, by simp, hk, by rw [hs]; rfl⟩
        rw [h.settings]
        rfl
      · exact hm.entries x hx

/-- What is kept under the key of a capture is the source of an earlier one with that key. -/
theorem lookUp_follows (h : Follows r t past r') (hc : r.cache.capacity.IsUsable)
    (hl : r.life.fault? = none) (hon : r.settings.isOn "cache_results" = true) (now : Clock)
    {c : Capture} {key : String} (hk : c.key = .ok key) :
    ((r'.lookUp now key ((r.seek t c).map .source)).1.bind Cached.source? = r.seek t c ∨
      ∃ a ∈ past, a.key = c.key ∧
        (r'.lookUp now key ((r.seek t c).map .source)).1.bind Cached.source? = r.seek t a) ∧
      Follows r t (past ++ [c]) (r'.lookUp now key ((r.seek t c).map .source)).2 := by
  have hon' : r'.settings.isOn "cache_results" = true := by rw [h.settings, hon]
  have hlook : (r'.cache.lookupFault? key).isSome = false := by
    rw [Cache.lookupFault?_eq_none (h.fault?_eq_none hl)]
    rfl
  have hg := h.withCache (Cache.get_capacity r'.cache now key) fun x hx => Cache.mem_of_mem_get hx
  unfold lookUp
  rw [if_pos hon', if_neg (by simp [hlook])]
  cases hget : r'.cache.get now key with
  | mk v cache =>
    rw [hget] at hg
    cases v with
    | some v =>
      have hv : (r'.cache.get now key).1 = some v := by rw [hget]
      obtain ⟨e, he, rfl⟩ := Cache.mem_of_get_some hv
      obtain ⟨-, a, ha, hak, has⟩ := h.entries _ he
      refine ⟨.inr ⟨a, ha, hak.trans hk.symm, ?_⟩, hg.mono [c]⟩
      have hsource := source_map (r.seek t a)
      rw [has] at hsource
      exact hsource
    | none =>
      obtain ⟨hfound, hf⟩ := keep_follows hg hc hl now hk
      exact ⟨.inl hfound, hf⟩

/-- Without a cache the source is found anew, and nothing is kept. -/
theorem findCapture_off (hn : r.detected = none) (h : Follows r t past r')
    (hoff : r.settings.isOn "cache_results" = false) (now : Clock) (c : Capture) :
    (r'.findCapture t now c).1 = r.seek t c ∧
      Follows r t past (r'.findCapture t now c).2 := by
  have hd := h.detect hn
  have hf := h.framework? hn
  unfold findCapture
  cases hr : (r.detect t).framework? with
  | none =>
    rw [hr] at hf
    simp only [hf, seek, hr]
    exact ⟨trivial, hd⟩
  | some f =>
    rw [hr] at hf
    cases hk : c.key with
    | error e =>
      simp only [hf, seek, hr, hk]
      exact ⟨trivial, hd⟩
    | ok key =>
      have hoff' : (r'.detect t).settings.isOn "cache_results" = false := by rw [hd.settings, hoff]
      simp only [hf, hd.locate, ← seek_of_framework hr hk, lookUp]
      rw [if_neg (by rw [hoff']; simp)]
      exact ⟨source_map _, hd⟩

/-- With a cache the source is that of the capture, or of an earlier one with its key. -/
theorem findCapture_on (hn : r.detected = none) (hc : r.cache.capacity.IsUsable)
    (hl : r.life.fault? = none) (h : Follows r t past r')
    (hon : r.settings.isOn "cache_results" = true) (now : Clock) (c : Capture) :
    ((r'.findCapture t now c).1 = r.seek t c ∨
      ∃ a ∈ past, a.key = c.key ∧ (r'.findCapture t now c).1 = r.seek t a) ∧
      Follows r t (past ++ [c]) (r'.findCapture t now c).2 := by
  have hd := h.detect hn
  have hf := h.framework? hn
  unfold findCapture
  cases hr : (r.detect t).framework? with
  | none =>
    rw [hr] at hf
    simp only [hf, seek, hr]
    exact ⟨.inl trivial, hd.mono [c]⟩
  | some f =>
    rw [hr] at hf
    cases hk : c.key with
    | error e =>
      have hs : r.seek t c = none := by simp only [seek, hr, hk]
      simp only [hf, hs]
      exact ⟨.inl trivial, hd.mono [c]⟩
    | ok key =>
      simp only [hf, hd.locate, ← seek_of_framework hr hk]
      have hstep := lookUp_follows hd hc hl hon now hk
      rw [hk] at hstep
      exact hstep

theorem refresh_follows (hn : r.detected = none) (h : Follows r t past r') :
    (r'.refresh t).detected = (r.detect t).detected ∧ Follows r t past (r'.refresh t) := by
  have hnone : Follows r t past { r' with detected := none } := { h with detected := .inl rfl }
  have hd := hnone.detect hn
  have he := hnone.detect_detected hn
  unfold refresh
  simp only
  split
  · exact ⟨he, { hd with entries := by simp [Cache.clear] }⟩
  · exact ⟨he, hd⟩

/-- A payload names a capture, or is refused, or is no table and names nothing. -/
theorem findPayload_cases (t : Tree) (v : Value) :
    (∃ c, (Request.findPayload v).capture? = some c ∧
      (∀ s, ask t s (.findPayload v) = ask t s (.find c)) ∧
      ∀ r : Resolver, r.direct t (.findPayload v) = r.direct t (.find c)) ∨
    (Request.findPayload v).capture? = none ∧
      ((∃ f, (∀ s, ask t s (.findPayload v) = (.refused f, s)) ∧
        ∀ r : Resolver, r.direct t (.findPayload v) = .refused f) ∨
      (∀ s, ask t s (.findPayload v) = (.source none, s.1.detect t, s.2)) ∧
        ∀ r : Resolver, r.direct t (.findPayload v) = .source none) := by
  by_cases hv : ∃ fields, v = .table fields
  · obtain ⟨fields, rfl⟩ := hv
    cases hp : Capture.ofPayload (.table fields) with
    | ok c =>
      exact .inl ⟨c, by simp [Request.capture?, hp, Except.toOption],
        fun s => by simp [ask, find, hp, Except.map], fun r => by simp [direct, hp]⟩
    | error f =>
      exact .inr ⟨by simp [Request.capture?, hp, Except.toOption],
        .inl ⟨f, fun s => by simp [ask, find, hp, Except.map], fun r => by simp [direct, hp]⟩⟩
  · have hne : ∀ fields, v ≠ .table fields := fun fields e => hv ⟨fields, e⟩
    refine .inr ⟨?_, .inr ⟨fun s => ?_, fun r => ?_⟩⟩
    · unfold Request.capture?
      split <;> simp_all
    · have hf : s.1.find t s.2 v = .ok (none, s.1.detect t) := by
        unfold find
        split
        · next fields => exact absurd rfl (hne fields)
        · rfl
      simp only [ask, hf]
    · simp only [direct]

theorem direct_of_capture (r : Resolver) (t : Tree) {q : Request} {c : Capture}
    (hq : q.capture? = some c) : r.direct t q = .source (r.seek t c) := by
  cases q with
  | find c' =>
    obtain rfl := Option.some.inj hq
    rfl
  | findPayload v =>
    rcases findPayload_cases t v with ⟨c', hc', -, hd⟩ | ⟨hnone, -⟩
    · rw [hc'] at hq
      obtain rfl := Option.some.inj hq
      exact hd r
    · simp [hnone] at hq
  | refresh => cases hq
  | wait now' => cases hq

/-- An answer is the one without a cache, or for a look-up the source of a past capture with the
same key. -/
def Plausible (r : Resolver) (t : Tree) (past : List Capture) (q : Request) (a : Answer) : Prop :=
  a = r.direct t q ∨
    ∃ c p, q.capture? = some c ∧ p ∈ past ∧ p.key = c.key ∧ a = .source (r.seek t p)

/-- One request with a cache. -/
theorem ask_on (hn : r.detected = none) (hc : r.cache.capacity.IsUsable)
    (hl : r.life.fault? = none) (hon : r.settings.isOn "cache_results" = true)
    (h : Follows r t past r') (now : Clock) (q : Request) :
    Plausible r t past q (ask t (r', now) q).1 ∧
      Follows r t (past ++ q.capture?.toList) (ask t (r', now) q).2.1 := by
  have none_past (r'' : Resolver) (hq : q.capture? = none) (hf : Follows r t past r'') :
      Follows r t (past ++ q.capture?.toList) r'' := by
    rw [hq]
    exact hf.mono []
  have find (c : Capture) :
      Plausible r t past (.find c) (ask t (r', now) (.find c)).1 ∧
        Follows r t (past ++ [c]) (ask t (r', now) (.find c)).2.1 := by
    obtain ⟨hs, hf⟩ := findCapture_on hn hc hl h hon now c
    refine ⟨?_, hf⟩
    rcases hs with hs | ⟨a, ha, hk, hs⟩
    · exact .inl (by simp only [ask, direct, hs])
    · exact .inr ⟨c, a, rfl, ha, hk, by simp only [ask, hs]⟩
  cases q with
  | find c => exact find c
  | findPayload v =>
    rcases findPayload_cases t v with ⟨c, hq, ha, hd⟩ | ⟨hq, ⟨f, ha, hd⟩ | ⟨ha, hd⟩⟩
    · obtain ⟨hp, hf⟩ := find c
      rw [ha, hq]
      refine ⟨?_, hf⟩
      rcases hp with e | ⟨c', p, hc', hp⟩
      · exact .inl (e.trans (hd r).symm)
      · exact .inr ⟨c', p, hq.trans hc', hp⟩
    · rw [ha]
      exact ⟨.inl (hd r).symm, none_past _ hq h⟩
    · rw [ha]
      exact ⟨.inl (hd r).symm, none_past _ hq (h.detect hn)⟩
  | refresh =>
    obtain ⟨hd, hf⟩ := refresh_follows hn h
    exact ⟨.inl (by simp only [ask, direct, hd]), none_past _ rfl hf⟩
  | wait now' => exact ⟨.inl rfl, none_past _ rfl h⟩

/-- One request without a cache. -/
theorem ask_off (hn : r.detected = none) (hoff : r.settings.isOn "cache_results" = false)
    (h : Follows r t [] r') (now : Clock) (q : Request) :
    (ask t (r', now) q).1 = r.direct t q ∧ Follows r t [] (ask t (r', now) q).2.1 := by
  have find (c : Capture) : (ask t (r', now) (.find c)).1 = r.direct t (.find c) ∧
      Follows r t [] (ask t (r', now) (.find c)).2.1 := by
    obtain ⟨hs, hf⟩ := findCapture_off hn h hoff now c
    exact ⟨by simp only [ask, direct, hs], hf⟩
  cases q with
  | find c => exact find c
  | findPayload v =>
    rcases findPayload_cases t v with ⟨c, -, ha, hd⟩ | ⟨-, ⟨f, ha, hd⟩ | ⟨ha, hd⟩⟩
    · rw [ha, hd]
      exact find c
    · rw [ha, hd]
      exact ⟨rfl, h⟩
    · rw [ha, hd]
      exact ⟨rfl, h.detect hn⟩
  | refresh =>
    obtain ⟨hd, hf⟩ := refresh_follows hn h
    exact ⟨by simp only [ask, direct, hd], hf⟩
  | wait now' => exact ⟨rfl, h⟩

theorem after_on (hn : r.detected = none) (hc : r.cache.capacity.IsUsable)
    (hl : r.life.fault? = none) (hon : r.settings.isOn "cache_results" = true)
    (before : List Request) :
    ∀ {past : List Capture} {s : Resolver × Clock}, Follows r t past s.1 →
      Follows r t (past ++ before.filterMap Request.capture?) (after t s before).1 := by
  induction before with
  | nil =>
    intro past s h
    simpa [after] using h
  | cons q before ih =>
    intro past s h
    obtain ⟨-, hf⟩ := ask_on hn hc hl hon h s.2 q
    have hi := ih hf
    have e : past ++ (q :: before).filterMap Request.capture? =
        past ++ q.capture?.toList ++ before.filterMap Request.capture? := by
      cases hq : q.capture? <;> simp [hq]
    rw [e]
    exact hi

theorem after_off (hn : r.detected = none) (hoff : r.settings.isOn "cache_results" = false)
    (before : List Request) :
    ∀ {s : Resolver × Clock}, Follows r t [] s.1 → Follows r t [] (after t s before).1 := by
  induction before with
  | nil =>
    intro s h
    exact h
  | cons q before ih =>
    intro s h
    exact ih (ask_off hn hoff h s.2 q).2

end Steps

theorem value_caching (r : Resolver) (on : Bool) (name : String) (h : name ≠ "cache_results") :
    (r.caching on).settings.value name = r.settings.value name := by
  simp [caching, Settings.value, lookup_assign, h]

theorem isOn_caching (r : Resolver) (on : Bool) :
    (r.caching on).settings.isOn "cache_results" = on := by
  simp [caching, Settings.isOn, Settings.value, lookup_assign, Value.isTruthy]

theorem life_caching (r : Resolver) (on : Bool) : (r.caching on).life = r.life := by
  rw [life, value_caching _ _ _ (by decide), life]

theorem detect_caching (r : Resolver) (on : Bool) (t : Tree) :
    ((r.caching on).detect t).detected = (r.detect t).detected := by
  unfold detect caching
  simp only
  split <;> (try split) <;> simp_all

theorem seek_caching (r : Resolver) (on : Bool) (t : Tree) (c : Capture) :
    (r.caching on).seek t c = r.seek t c := by
  unfold seek framework?
  rw [detect_caching]
  rfl

theorem direct_caching (r : Resolver) (on : Bool) (t : Tree) (q : Request) :
    (r.caching on).direct t q = r.direct t q := by
  unfold direct
  simp only [seek_caching, detect_caching]

theorem isNew_caching {r : Resolver} (h : r.IsNew) (on : Bool) : (r.caching on).IsNew :=
  ⟨h.undetected, h.nothingKept⟩

/-- A look-up without a cache gives the same after all requests. -/
theorem answer_off {r : Resolver} (h : r.IsNew) (t : Tree) (now : Clock) (before : List Request)
    (q : Request) : answer t (r.caching false, now) before q = r.direct t q := by
  have hn := isNew_caching h false
  have hoff := isOn_caching r false
  have hf := after_off hn.undetected hoff before (s := (r.caching false, now))
    (Follows.start (t := t) hn)
  have ha := (ask_off hn.undetected hoff hf (after t (r.caching false, now) before).2 q).1
  rw [direct_caching] at ha
  exact ha

/-- A look-up with a cache gives what it gives without, or the source of an earlier capture with
the same key. -/
theorem answer_on {r : Resolver} (h : r.IsNew) (hc : r.cache.capacity.IsUsable)
    (hl : r.life.fault? = none) (t : Tree) (now : Clock) (before : List Request) (q : Request) :
    Plausible r t (before.filterMap Request.capture?) q
      (answer t (r.caching true, now) before q) := by
  have hn := isNew_caching h true
  have hon := isOn_caching r true
  have hl' : (r.caching true).life.fault? = none := by rw [life_caching, hl]
  have hf := after_on hn.undetected hc hl' hon before (s := (r.caching true, now))
    (Follows.start (t := t) hn)
  have ha := (ask_on hn.undetected hc hl' hon hf (after t (r.caching true, now) before).2 q).1
  simp only [List.nil_append] at ha
  rcases ha with ha | ⟨c, p, hq, hp, hk, ha⟩
  · rw [direct_caching] at ha
    exact .inl ha
  · rw [seek_caching] at ha
    exact .inr ⟨c, p, hq, hp, hk, ha⟩

/-- The source depends on the fields that the key is made of. -/
theorem seek_congr (r : Resolver) (t : Tree) {a b : Capture} (hk : a.key = b.key)
    (h : a.tag = b.tag ∧ a.id = b.id ∧ a.classes = b.classes ∧ a.text = b.text) :
    r.seek t a = r.seek t b := by
  obtain ⟨htag, hid, hclasses, htext⟩ := h
  have hd (f : Framework) : a.descriptorFor f = b.descriptorFor f := by
    unfold Capture.descriptorFor Capture.shown Capture.descriptor
    rw [htag, hid, hclasses, htext]
  unfold seek locate
  simp only [hk, hd]

theorem lookUp_empty {r : Resolver} (h : r.cache.entries = []) (hc : r.cache.capacity.IsUsable)
    (hon : r.settings.isOn "cache_results" = true) (now : Clock) (key : String) (v : Cached) :
    r.lookUp now key (some v) =
      (some v, { r with cache := r.cache.set now key v r.life }) := by
  have hlook : r.cache.lookupFault? key = none := by simp [Cache.lookupFault?, h]
  have hget : r.cache.get now key = (none, r.cache) := by simp [Cache.get, h]
  have hset : r.cache.setFault? now = none := Cache.setFault?_eq_none hc (by simp [h]) now
  simp only [lookUp, hon, hlook, hget, keep, hset]
  rfl

theorem lookUp_set {r : Resolver} (cache : Cache Cached) (hl : r.life.fault? = none)
    (hlast : r.life.isOver 0 = false) (hon : r.settings.isOn "cache_results" = true) (now : Clock)
    (key : String) (v : Cached) (found : Option Cached) :
    ({ r with cache := cache.set now key v r.life }.lookUp now key found).1 = some v := by
  have hnow : r.life.isOver (now.since now) = false := by
    have hz : now.since now = 0 := by
      rw [Clock.since, Rat.sub_self]
      rfl
    rw [hz, hlast]
  have hget := Cache.get_set cache now key v r.life hnow
  have hlook : (cache.set now key v r.life).lookupFault? key = none := by
    have he : (cache.set now key v r.life).entries.lookup key = some ⟨v, now, r.life⟩ := by
      simp [Cache.set, lookup_assign]
    simp [Cache.lookupFault?, he, hl]
  simp only [lookUp, hon, hlook]
  cases hg : (cache.set now key v r.life).get now key with
  | mk w cache' =>
    rw [hg] at hget
    simp only at hget
    simp [hget]

/-- What was found for a capture is given for another one with its key, at once. -/
theorem findCapture_repeat {r : Resolver} (h : r.IsNew) (hc : r.cache.capacity.IsUsable)
    (hl : r.life.fault? = none) (hlast : r.life.isOver 0 = false)
    (hon : r.settings.isOn "cache_results" = true) (t : Tree) (now : Clock) {a b : Capture}
    (hk : a.key = b.key) {s : SourceInfo} (hs : r.seek t a = some s) :
    ((r.findCapture t now a).2.findCapture t now b).1 = some s := by
  have hd := (Follows.start (t := t) h).detect h.undetected
  cases hf : (r.detect t).framework? with
  | none => simp [seek, hf] at hs
  | some f =>
    cases hkey : a.key with
    | error e => simp [seek, hf, hkey] at hs
    | ok key =>
      have hb : b.key = .ok key := hk ▸ hkey
      have hloc : r.locate f t a = some s := by rw [← seek_of_framework hf hkey, hs]
      have hempty : (r.detect t).cache.entries = [] := by rw [detect_cache, h.nothingKept]
      have hcap : (r.detect t).cache.capacity.IsUsable := by rw [detect_cache]; exact hc
      have hon' : (r.detect t).settings.isOn "cache_results" = true := by rw [detect_settings, hon]
      have hlife : (r.detect t).life = r.life := by rw [life, detect_settings, life]
      let kept : Resolver := { r.detect t with
        cache := (r.detect t).cache.set now key (.source s) (r.detect t).life }
      have hfirst : (r.findCapture t now a).2 = kept := by
        simp only [findCapture, hf, hkey, hd.locate, hloc, Option.map_some,
          lookUp_empty hempty hcap hon', kept]
      have hkept : kept.detect t = kept := by
        obtain ⟨d, hdet, -⟩ := Option.map_eq_some_iff.1 hf
        have hdet' : kept.detected = some d := hdet
        exact detect_of_detected hdet' t
      have hsecond (found : Option Cached) : (kept.lookUp now key found).1 = some (.source s) :=
        lookUp_set _ (hlife ▸ hl) (hlife ▸ hlast) hon' now key _ found
      have hfk : kept.framework? = some f := hf
      rw [hfirst]
      simp only [findCapture, hkept, hfk, hb, hsecond]
      rfl

/-- From a new resolver on, caching goes unseen in all runs exactly when captures with one key have
one source. In any run an answer that caching changes is the source of an earlier capture with the
same key, and none is changed when all captures are of words that are joined the same way. -/
theorem caching_unseen_iff {r : Resolver} (hnew : r.IsNew) (hcap : r.cache.capacity.IsUsable)
    (hlife : r.life.fault? = none) (hlast : r.life.isOver 0 = false) (t : Tree) (now : Clock) :
    ((∀ before q, answer t (r.caching true, now) before q =
        answer t (r.caching false, now) before q) ↔
      ∀ a b : Capture, a.key = b.key → r.seek t a = r.seek t b) ∧
    (∀ before q,
      answer t (r.caching true, now) before q = answer t (r.caching false, now) before q ∨
      ∃ c p, q.capture? = some c ∧ p ∈ before.filterMap Request.capture? ∧ p.key = c.key ∧
        answer t (r.caching true, now) before q = .source (r.seek t p)) ∧
    (∀ (j : Capture.Joints) before q,
      (∀ c ∈ (before ++ [q]).filterMap Request.capture?, c.IsJoined j) →
      answer t (r.caching true, now) before q = answer t (r.caching false, now) before q) := by
  have hon (before : List Request) (q : Request) :=
    answer_on hnew hcap hlife t now before q
  have hoff (before : List Request) (q : Request) := answer_off hnew t now before q
  -- A changed answer comes from an earlier capture; if that has the same source, nothing changed.
  have unchanged (before : List Request) (q : Request)
      (h : ∀ c p, q.capture? = some c → p ∈ before.filterMap Request.capture? → p.key = c.key →
        r.seek t p = r.seek t c) :
      answer t (r.caching true, now) before q = answer t (r.caching false, now) before q := by
    rw [hoff]
    rcases hon before q with ha | ⟨c, p, hq, hp, hk, ha⟩
    · exact ha
    · rw [ha, direct_of_capture r t hq, h c p hq hp hk]
  refine ⟨⟨?_, ?_⟩, ?_, ?_⟩
  · intro hsame
    have same {a b : Capture} {s : SourceInfo} (hk : a.key = b.key) (hs : r.seek t a = some s) :
        r.seek t b = some s := by
      have hs' : (r.caching true).seek t a = some s := by rw [seek_caching, hs]
      have hrep := findCapture_repeat (isNew_caching hnew true) hcap
        (by rw [life_caching, hlife]) (by rw [life_caching, hlast]) (isOn_caching r true) t now
        hk hs'
      have hb := hsame [.find a] (.find b)
      rw [hoff] at hb
      simp only [answer, after, List.foldl_cons, List.foldl_nil, ask, direct, hrep,
        Answer.source.injEq] at hb
      exact hb.symm
    intro a b hk
    cases ha : r.seek t a with
    | some s => exact (same hk ha).symm
    | none =>
      cases hb : r.seek t b with
      | none => rfl
      | some s => rw [same hk.symm hb] at ha; cases ha
  · intro hkeys before q
    exact unchanged before q fun c p _ _ hk => hkeys p c hk
  · intro before q
    rcases hon before q with ha | h
    · exact .inl (by rw [ha, hoff])
    · exact .inr h
  · intro j before q hj
    refine unchanged before q fun c p hq hp hk => ?_
    have hc : c.IsJoined j := hj c (by simp [hq])
    have hp : p.IsJoined j := hj p (by
      rw [List.filterMap_append]
      exact List.mem_append_left _ hp)
    exact seek_congr r t hk (Capture.eq_of_key_eq hp hc hk)

/-- A page with two paragraphs whose ids differ in a sign. -/
def twinPage : Tree :=
  ⟨[(["w"], .directory), (["w", "index.html"], .file "<p id=\"a-b\">\n<p id=\"a_b\">".toUTF8)]⟩

def twinReader : Resolver :=
  { root := some ["w"], settings := Section.resolution.defaults, scan := some ⟨[], .atMost 10⟩
    choice := .first, detected := none, cache := .empty (.count 100) }

def dashed : Capture := .ofDescriptor { tag := "p", id := some "a-b", classes := none, text := none }

def underlined : Capture :=
  .ofDescriptor { tag := "p", id := some "a_b", classes := none, text := none }

private def joinedBy (sign : JoinSign) : Capture.Joints := ⟨sign, sign, sign, sign⟩

private def dash : JoinSign := ⟨'-', by decide, by decide, by decide, by decide⟩

private def underline : JoinSign := ⟨'_', by decide, by decide, by decide, by decide⟩

private theorem dashed_isJoined : dashed.IsJoined (joinedBy dash) where
  tag := by decide
  id := by decide
  classes := trivial
  text := trivial
  short := by
    intro s hs
    cases hs

private theorem underlined_isJoined : underlined.IsJoined (joinedBy underline) where
  tag := by decide
  id := by decide
  classes := trivial
  text := trivial
  short := by
    intro s hs
    cases hs

theorem dashed_key : dashed.key = underlined.key :=
  Capture.key_eq_of_fieldKey_eq dashed_isJoined underlined_isJoined (by decide) (by decide)
    (by decide) (by decide)

theorem twinReader_isNew : twinReader.IsNew := ⟨rfl, rfl⟩

theorem twin_lines : (twinReader.seek twinPage dashed).map (·.line) = some 1 ∧
    (twinReader.seek twinPage underlined).map (·.line) = some 2 := by
  decide +kernel

/-- The two paragraphs looked for one after the other: with a cache the second is taken for the
first. -/
theorem caching_seen_on_twins :
    answer twinPage (twinReader.caching true, ⟨0⟩) [.find dashed] (.find underlined) ≠
      answer twinPage (twinReader.caching false, ⟨0⟩) [.find dashed] (.find underlined) := by
  obtain ⟨h1, h2⟩ := twin_lines
  obtain ⟨s, hs, hline⟩ := Option.map_eq_some_iff.1 h1
  have hs' : (twinReader.caching true).seek twinPage dashed = some s := by rw [seek_caching, hs]
  have hrep := findCapture_repeat (isNew_caching twinReader_isNew true) trivial
    (by rw [life_caching]; rfl) (by rw [life_caching]; decide) (isOn_caching twinReader true)
    twinPage ⟨0⟩ dashed_key hs'
  rw [answer_off twinReader_isNew]
  simp only [answer, after, List.foldl_cons, List.foldl_nil, ask, direct, hrep]
  intro e
  rw [← Answer.source.inj e] at h2
  simp [hline] at h2

theorem caching_unseen_iff_twins :
    (twinReader.IsNew ∧ twinReader.cache.capacity.IsUsable ∧ twinReader.life.fault? = none ∧
      twinReader.life.isOver 0 = false) ∧
    ¬ (∀ before q, answer twinPage (twinReader.caching true, ⟨0⟩) before q =
      answer twinPage (twinReader.caching false, ⟨0⟩) before q) ∧
    answer twinPage (twinReader.caching true, ⟨0⟩) [.find dashed, .refresh] (.find dashed) =
      answer twinPage (twinReader.caching false, ⟨0⟩) [.find dashed, .refresh] (.find dashed) := by
  have h := caching_unseen_iff twinReader_isNew trivial rfl (by decide) twinPage ⟨0⟩
  refine ⟨⟨twinReader_isNew, trivial, rfl, by decide⟩, ?_, ?_⟩
  · intro hsame
    have hlines := congrArg (·.map (·.line)) (h.1.1 hsame dashed underlined dashed_key)
    rw [twin_lines.1, twin_lines.2] at hlines
    simp at hlines
  · refine h.2.2 (joinedBy dash) _ _ ?_
    intro c hc
    have e : c = dashed ∨ c = dashed := by
      simpa [Request.capture?, eq_comm] using hc
    rcases e with e | e <;> exact e ▸ dashed_isJoined

end Restyle.Resolver
