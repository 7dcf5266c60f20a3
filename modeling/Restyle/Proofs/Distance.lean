import Restyle.Component.Graph
import Restyle.Proofs.Pairs

/-!
How far components are from each other. The walk in breadth finds each component that is reached
once, with the least number of usages that lead to it; and the depth of a component is how far it is
from the last of the roots that reach it.
-/
namespace Restyle.Component

theorem nodup_eraseDups {α : Type} [BEq α] [LawfulBEq α] (l : List α) : l.eraseDups.Nodup := by
  induction hn : l.length using Nat.strongRecOn generalizing l with
  | _ n ih =>
    cases l with
    | nil => simp
    | cons a l =>
      have hlt : (l.filter fun b => !b == a).length < n := by
        have hle := List.length_filter_le (fun b => !b == a) l
        rw [List.length_cons] at hn
        omega
      rw [List.eraseDups_cons, List.nodup_cons]
      refine ⟨?_, ih _ hlt _ rfl⟩
      intro ha
      have hf := (List.mem_filter.1 (List.mem_eraseDups.1 ha)).2
      simp at hf

namespace Graph

/-- From `start` to a component by so many usages. -/
inductive Reaches (g : Graph) (start : String) : Nat → String → Prop
  | start : Reaches g start 0 start
  | uses {d : Nat} {a b : String} (before : Reaches g start d a) (child : b ∈ g.children a) :
      Reaches g start (d + 1) b

/-- The least number of usages that lead from `start` to a component. -/
structure IsDistance (g : Graph) (start name : String) (d : Nat) : Prop where
  reached : g.Reaches start d name
  least : ∀ d', g.Reaches start d' name → d ≤ d'

variable {g : Graph} {start name : String}

theorem IsDistance.unique {d d' : Nat} (h : g.IsDistance start name d)
    (h' : g.IsDistance start name d') : d = d' :=
  Nat.le_antisymm (h.least d' h'.reached) (h'.least d h.reached)

theorem mem_edges_of_mem_children {a b : String} (h : b ∈ g.children a) :
    b ∈ g.edges.map (·.2) := by
  obtain ⟨e, he, rfl⟩ := List.mem_map.1 (List.mem_eraseDups.1 h)
  exact List.mem_map_of_mem (List.mem_filter.1 he).1

/-! ### The walk -/

/-- What holds all along the walk, of the components that it has left behind and of those in the
queue. -/
structure Search (g : Graph) (start : String) (done queue : List (String × Nat)) : Prop where
  begun : (start, 0) ∈ done ++ queue
  reached : ∀ x ∈ done ++ queue, g.Reaches start x.2 x.1
  once : ((done ++ queue).map (·.1)).Nodup
  closed : ∀ x ∈ done, ∀ c ∈ g.children x.1, ∃ d ≤ x.2 + 1, (c, d) ∈ done ++ queue
  rising : (done ++ queue).Pairwise fun x y => x.2 ≤ y.2
  /-- The queue spans two distances at most. -/
  near : ∀ x ∈ done ++ queue, ∀ y ∈ queue, x.2 ≤ y.2 + 1

variable {done queue : List (String × Nat)} {n : String} {d : Nat}

theorem Search.begin (g : Graph) (start : String) : g.Search start [] [(start, 0)] where
  begun := by simp
  reached x hx := by
    obtain rfl := List.mem_singleton.1 hx
    exact .start
  once := by simp
  closed x hx := absurd hx List.not_mem_nil
  rising := by simp
  near x hx y hy := by
    obtain rfl := List.mem_singleton.1 hx
    exact Nat.zero_le _

/-- The components that are used by one and were not seen before. -/
def unseen (g : Graph) (seen : List String) (name : String) : List String :=
  (g.children name).filter fun c => !seen.contains c

theorem mem_unseen {seen : List String} {c : String} :
    c ∈ g.unseen seen name ↔ c ∈ g.children name ∧ c ∉ seen := by
  simp [unseen]

theorem Search.step (h : g.Search start done ((n, d) :: queue)) :
    g.Search start (done ++ [(n, d)])
      (queue ++ (g.unseen ((done ++ (n, d) :: queue).map (·.1)) n).map fun c => (c, d + 1)) := by
  let new := g.unseen ((done ++ (n, d) :: queue).map (·.1)) n
  have hall : (done ++ [(n, d)]) ++ (queue ++ new.map fun c => (c, d + 1)) =
      (done ++ (n, d) :: queue) ++ new.map fun c => (c, d + 1) := by simp
  have hnew : ∀ x ∈ new.map fun c => (c, d + 1), x.1 ∈ new ∧ x.2 = d + 1 := by
    intro x hx
    obtain ⟨c, hc, rfl⟩ := List.mem_map.1 hx
    exact ⟨hc, rfl⟩
  have hbound : ∀ x ∈ done ++ (n, d) :: queue, x.2 ≤ d + 1 :=
    fun x hx => h.near x hx (n, d) List.mem_cons_self
  have hn := h.reached (n, d) (List.mem_append_right _ List.mem_cons_self)
  have hlater : ∀ y ∈ queue ++ new.map fun c => (c, d + 1), d ≤ y.2 := by
    intro y hy
    rcases List.mem_append.1 hy with hy | hy
    · have hq := (List.pairwise_append.1 h.rising).2.1
      exact (List.pairwise_cons.1 hq).1 y hy
    · have he := (hnew y hy).2
      omega
  refine ⟨?_, ?_, ?_, ?_, ?_, ?_⟩
  · rw [hall]
    exact List.mem_append_left _ h.begun
  · intro x hx
    rw [hall] at hx
    rcases List.mem_append.1 hx with hx | hx
    · exact h.reached x hx
    · obtain ⟨hc, he⟩ := hnew x hx
      rw [he]
      exact .uses hn (mem_unseen.1 hc).1
  · rw [hall, List.map_append, List.nodup_append]
    have hnames : (new.map fun c => (c, d + 1)).map (·.1) = new := by
      simp [Function.comp_def]
    rw [hnames]
    refine ⟨h.once, (nodup_eraseDups _).filter _, ?_⟩
    intro a ha b hb hab
    exact (mem_unseen.1 hb).2 (hab ▸ ha)
  · intro x hx c hc
    rw [hall]
    rcases List.mem_append.1 hx with hx | hx
    · obtain ⟨d', hd', hm⟩ := h.closed x hx c hc
      exact ⟨d', hd', List.mem_append_left _ hm⟩
    · obtain rfl := List.mem_singleton.1 hx
      by_cases hseen : c ∈ (done ++ (n, d) :: queue).map (·.1)
      · obtain ⟨y, hy, rfl⟩ := List.mem_map.1 hseen
        exact ⟨y.2, hbound y hy, List.mem_append_left _ hy⟩
      · refine ⟨d + 1, Nat.le_refl _, List.mem_append_right _ ?_⟩
        exact List.mem_map.2 ⟨c, mem_unseen.2 ⟨hc, hseen⟩, rfl⟩
  · rw [hall, List.pairwise_append]
    refine ⟨h.rising, ?_, ?_⟩
    · rw [List.pairwise_map]
      exact List.pairwise_of_forall fun _ _ => Nat.le_refl _
    · intro x hx y hy
      rw [(hnew y hy).2]
      exact hbound x hx
  · intro x hx y hy
    have hy' := hlater y hy
    rw [hall] at hx
    rcases List.mem_append.1 hx with hx | hx
    · have hx' := hbound x hx
      omega
    · have he := (hnew x hx).2
      omega

/-- A step of the walk marks what it adds to the queue. -/
theorem names_step (new : List String) :
    ((done ++ [(n, d)]) ++ (queue ++ new.map fun c => (c, d + 1))).map (·.1) =
      (done ++ (n, d) :: queue).map (·.1) ++ new := by
  simp [Function.comp_def]

/-- Beside `start` each component that is found is the end of a usage. -/
theorem Search.length_le (h : g.Search start done queue) :
    (done ++ queue).length ≤ g.edges.length + 1 := by
  have hsub : (done ++ queue).map (·.1) ⊆ start :: g.edges.map (·.2) := by
    intro a ha
    obtain ⟨x, hx, rfl⟩ := List.mem_map.1 ha
    have hr := h.reached x hx
    generalize x.1 = a, x.2 = d at hr
    cases hr with
    | start => exact List.mem_cons_self
    | uses before child => exact List.mem_cons_of_mem _ (mem_edges_of_mem_children child)
  have hle := h.once.length_le_of_subset hsub
  simpa using hle

theorem Search.walkFrom {fuel : Nat} (h : g.Search start done queue)
    (hfuel : done.length + fuel = g.edges.length + 1) :
    g.Search start (done ++ g.walkFrom fuel ((done ++ queue).map (·.1)) queue) [] := by
  induction fuel generalizing done queue with
  | zero =>
    have hle := h.length_le
    rw [List.length_append] at hle
    have hq : queue = [] := List.eq_nil_of_length_eq_zero (by omega)
    subst hq
    simpa [Graph.walkFrom] using h
  | succ fuel ih =>
    cases queue with
    | nil => simpa [Graph.walkFrom] using h
    | cons x queue =>
      obtain ⟨n, d⟩ := x
      have hnext := ih h.step (by rw [List.length_append, List.length_singleton]; omega)
      rw [names_step, List.append_assoc] at hnext
      exact hnext

theorem walk_search (g : Graph) (start : String) : g.Search start (g.walk start) [] := by
  have hfuel : ([] : List (String × Nat)).length + (g.edges.length + 1) = g.edges.length + 1 := by
    simp
  have h := (Search.begin g start).walkFrom hfuel
  simpa [walk] using h

/-- When nothing is left in the queue no component is nearer than it was found. -/
theorem Search.found (h : g.Search start done []) (hr : g.Reaches start d name) :
    ∃ d' ≤ d, (name, d') ∈ done := by
  induction hr with
  | start => exact ⟨0, Nat.le_refl 0, by simpa using h.begun⟩
  | @uses d a b before child ih =>
    obtain ⟨d', hd', ha⟩ := ih
    obtain ⟨d'', hd'', hb⟩ := h.closed (a, d') ha b child
    exact ⟨d'', Nat.le_trans hd'' (Nat.succ_le_succ hd'), by simpa using hb⟩

/-- The walk gives each component that is reached, with its distance. -/
theorem mem_walk_iff : (name, d) ∈ g.walk start ↔ g.IsDistance start name d := by
  have h := g.walk_search start
  have hone {d d' : Nat} (hd : (name, d) ∈ g.walk start) (hd' : (name, d') ∈ g.walk start) :
      d = d' := by
    have honce : ((g.walk start).map (·.1)).Nodup := by simpa using h.once
    have heq := List.inj_on_of_nodup_map honce hd hd' rfl
    exact (Prod.mk.inj heq).2
  constructor
  · intro hm
    refine ⟨h.reached _ (by simpa using hm), ?_⟩
    intro d' hr
    obtain ⟨d'', hle, hm''⟩ := h.found hr
    exact (hone hm hm'') ▸ hle
  · intro hd
    obtain ⟨d', hle, hm⟩ := h.found hd.reached
    have hge := hd.least d' (h.reached _ (by simpa using hm))
    rwa [Nat.le_antisymm hge hle]

theorem exists_isDistance (h : g.Reaches start d name) : ∃ d', g.IsDistance start name d' := by
  obtain ⟨d', -, hm⟩ := (g.walk_search start).found h
  exact ⟨d', mem_walk_iff.1 hm⟩

theorem lookup_walk : (g.walk start).lookup name = some d ↔ g.IsDistance start name d := by
  constructor
  · intro h
    exact mem_walk_iff.1 (mem_of_lookup h)
  · intro h
    cases hl : (g.walk start).lookup name with
    | some d' => rw [(mem_walk_iff.1 (mem_of_lookup hl)).unique h]
    | none =>
      have hne := List.lookup_eq_none_iff.1 hl _ (mem_walk_iff.2 h)
      simp at hne

theorem lookup_walk_eq_none : (g.walk start).lookup name = none ↔ ∀ d, ¬ g.Reaches start d name := by
  constructor
  · intro hl d hr
    obtain ⟨d', hd'⟩ := exists_isDistance hr
    rw [lookup_walk.2 hd'] at hl
    cases hl
  · intro h
    cases hl : (g.walk start).lookup name with
    | none => rfl
    | some d => exact absurd (lookup_walk.1 hl).reached (h d)

/-! ### Depths -/

/-- Whether of all roots that reach a component `r` comes last. -/
def IsLastRoot (g : Graph) (name : String) (r : Node) : Prop :=
  ∃ before after, g.roots = before ++ r :: after ∧ (∃ d, g.Reaches r.name d name) ∧
    ∀ r' ∈ after, ∀ d, ¬ g.Reaches r'.name d name

theorem exists_isLastRoot {r : Node} (hr : r ∈ g.roots) (h : g.Reaches r.name d name) :
    ∃ r', g.IsLastRoot name r' := by
  let reaches (r : Node) : Bool := ((g.walk r.name).lookup name).isSome
  have hreaches (r : Node) : reaches r = true ↔ ∃ d, g.Reaches r.name d name := by
    simp only [reaches, Option.isSome_iff_ne_none, ne_eq, lookup_walk_eq_none, not_forall, not_not]
  cases hf : g.roots.reverse.find? reaches with
  | none =>
    have hno := List.find?_eq_none.1 hf r (List.mem_reverse.2 hr)
    exact absurd ((hreaches r).2 ⟨d, h⟩) hno
  | some r' =>
    obtain ⟨hr', before, after, hsplit, hbefore⟩ := List.find?_eq_some_iff_append.1 hf
    refine ⟨r', after.reverse, before.reverse, ?_, (hreaches r').1 hr', ?_⟩
    · have hroots := congrArg List.reverse hsplit
      simpa using hroots
    · intro x hx d hd
      have hno := hbefore x (List.mem_reverse.1 hx)
      rw [(hreaches x).2 ⟨d, hd⟩] at hno
      cases hno

theorem IsLastRoot.mem {r : Node} (h : g.IsLastRoot name r) : r ∈ g.roots := by
  obtain ⟨before, after, hroots, -⟩ := h
  simp [hroots]

theorem IsLastRoot.reaches {r : Node} (h : g.IsLastRoot name r) : ∃ d, g.Reaches r.name d name := by
  obtain ⟨before, after, -, hreaches, -⟩ := h
  exact hreaches

/-- The depth of a component is its distance from the last root that reaches it. -/
theorem IsLastRoot.depth {r : Node} (h : g.IsLastRoot name r) :
    g.IsDistance r.name name (g.depth name) := by
  obtain ⟨before, after, hroots, ⟨d, hd⟩, hafter⟩ := h
  obtain ⟨d', hd'⟩ := exists_isDistance hd
  have hnone : after.filterMap (fun r => (g.walk r.name).lookup name) = [] := by
    rw [List.filterMap_eq_nil_iff]
    intro r hr
    exact lookup_walk_eq_none.2 (hafter r hr)
  have hdepth : g.depth name = d' := by
    have hr := lookup_walk.2 hd'
    simp [Graph.depth, hroots, List.filterMap_append, hr, hnone]
  rw [hdepth]
  exact hd'

/-! ### The returned hierarchy -/

variable {f : Framework} {t : Tree} {files : List Path} {h : Hierarchy}

/-- A hierarchy is returned for one of the roots of its own graph. -/
theorem exists_root_of_hierarchies (hh : (hierarchies f t files).head? = some h) :
    ∃ r ∈ h.graph.roots, r.name = h.root := by
  have hm := List.mem_of_mem_head? hh
  obtain ⟨r, hr, rfl⟩ := List.mem_map.1 hm
  exact ⟨r, hr, rfl⟩

/-- Each component below the returned root has the depth that the last root gives it which reaches
it. So all depths are distances from the returned root exactly when no later root reaches a component
at another distance; components that use each other do no harm, and neither does a component with
many users as long as they are below one root. -/
theorem depth_isDistance_iff (hh : (hierarchies f t files).head? = some h) :
    (∀ name d, h.graph.IsDistance h.root name d →
      ∃ r, h.graph.IsLastRoot name r ∧ h.graph.IsDistance r.name name (h.graph.depth name)) ∧
    (∀ name d, h.graph.IsDistance h.root name d →
      (∀ r ∈ h.graph.roots, r.name ≠ h.root → ∀ d', ¬ h.graph.Reaches r.name d' name) →
      h.graph.depth name = d) ∧
    ((∀ name d, h.graph.IsDistance h.root name d → h.graph.depth name = d) ↔
      ∀ name d r, h.graph.IsDistance h.root name d → h.graph.IsLastRoot name r →
        h.graph.IsDistance r.name name d) := by
  obtain ⟨root, hroot, hname⟩ := exists_root_of_hierarchies hh
  have hlast : ∀ name d, h.graph.IsDistance h.root name d → ∃ r, h.graph.IsLastRoot name r := by
    intro name d hd
    rw [← hname] at hd
    exact exists_isLastRoot hroot hd.reached
  refine ⟨?_, ?_, ?_, ?_⟩
  · intro name d hd
    obtain ⟨r, hr⟩ := hlast name d hd
    exact ⟨r, hr, hr.depth⟩
  · intro name d hd halone
    obtain ⟨r, hr⟩ := hlast name d hd
    have hsame : r.name = h.root := by
      by_contra hne
      obtain ⟨d', hd'⟩ := hr.reaches
      exact halone r hr.mem hne d' hd'
    have hdepth := hr.depth
    rw [hsame] at hdepth
    exact hdepth.unique hd
  · intro hright name d r hd hr
    rw [← hright name d hd]
    exact hr.depth
  · intro hsame name d hd
    obtain ⟨r, hr⟩ := hlast name d hd
    exact hr.depth.unique (hsame name d r hd hr)

end Graph

/-- The last of four components is a root of its own, and uses one that the first one reaches through
another. -/
def sharedTree : Tree :=
  ⟨[(["w"], .directory),
    (["w", "A.jsx"], .file "function A() { return <B /> }\n".toUTF8),
    (["w", "B.jsx"], .file "function B() { return <C /> }\n".toUTF8),
    (["w", "C.jsx"], .file "function C() { return <B /> }\n".toUTF8),
    (["w", "D.jsx"], .file "function D() { return <C /> }\n".toUTF8)]⟩

def sharedFiles : List Path :=
  [["w", "A.jsx"], ["w", "B.jsx"], ["w", "C.jsx"], ["w", "D.jsx"]]

def sharedHierarchy : Hierarchy where
  framework := .react
  graph :=
    { nodes := [⟨"A", ["w", "A.jsx"]⟩, ⟨"B", ["w", "B.jsx"]⟩, ⟨"C", ["w", "C.jsx"]⟩,
        ⟨"D", ["w", "D.jsx"]⟩]
      edges := [("A", "B"), ("B", "C"), ("C", "B"), ("D", "C")] }
  root := "A"

theorem head?_hierarchies_sharedTree :
    (hierarchies .react sharedTree sharedFiles).head? = some sharedHierarchy := by
  decide +kernel

theorem depth_isDistance_iff_shared :
    (hierarchies .react sharedTree sharedFiles).head? = some sharedHierarchy ∧
    (∃ r, sharedHierarchy.graph.IsLastRoot "C" r ∧
      sharedHierarchy.graph.IsDistance r.name "C" (sharedHierarchy.graph.depth "C")) ∧
    ((∀ name d, sharedHierarchy.graph.IsDistance "A" name d →
        sharedHierarchy.graph.depth name = d) ↔
      ∀ name d r, sharedHierarchy.graph.IsDistance "A" name d →
        sharedHierarchy.graph.IsLastRoot name r →
        sharedHierarchy.graph.IsDistance r.name name d) := by
  have h := Graph.depth_isDistance_iff head?_hierarchies_sharedTree
  have hc : sharedHierarchy.graph.IsDistance "A" "C" 2 := Graph.mem_walk_iff.1 (by decide)
  exact ⟨head?_hierarchies_sharedTree, h.1 "C" 2 hc, h.2.2⟩

/-- Two usages lead from the returned root to a component that has depth one. -/
theorem depth_shared_not_isDistance :
    ∃ h, (hierarchies .react sharedTree sharedFiles).head? = some h ∧
      h.graph.IsDistance h.root "C" 2 ∧ h.graph.depth "C" = 1 := by
  refine ⟨sharedHierarchy, head?_hierarchies_sharedTree, ?_, by decide⟩
  exact Graph.mem_walk_iff.1 (by decide)

end Restyle.Component
