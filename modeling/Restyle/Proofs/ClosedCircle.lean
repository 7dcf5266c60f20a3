import Mathlib.Data.Finset.Max
import Restyle.Proofs.GraphTraversal
import Restyle.Proofs.UsageGraph

/-!
What the roots of a graph of components do not show. A root is a component that no other one uses, so
that components which use each other, and which nothing else uses, stand below no root. Where there
is no such circle every component stands below a root; where there are some, what is lost stands
below one of them.
-/
namespace Restyle.Component

namespace Graph

/-- Components that reach each other by their usages and that nothing outside uses. -/
structure IsClosedCircle (g : Graph) (circle : List String) : Prop where
  inhabited : circle ≠ []
  joined : ∀ a ∈ circle, ∀ b ∈ circle, ∃ d, g.Reaches a d b
  used : ∀ a ∈ circle, ∃ user, a ∈ g.children user
  inside : ∀ a ∈ circle, ∀ user, a ∈ g.children user → user ∈ circle

/-- Whether a component stands below a root, or is one. -/
def IsShown (g : Graph) (name : String) : Prop := ∃ r ∈ g.roots, ∃ d, g.Reaches r.name d name

/-- Whether a component stands below a closed circle, or is in one. -/
def IsBelowCircle (g : Graph) (name : String) : Prop :=
  ∃ circle, g.IsClosedCircle circle ∧ ∃ a ∈ circle, ∃ d, g.Reaches a d name

/-- Whether the roots of a graph show all components but for closed circles. -/
structure ShowsOutsideCircles (g : Graph) : Prop where
  shown : ∀ n ∈ g.nodes, g.IsShown n.name ∨ g.IsBelowCircle n.name
  lost : ∀ circle, g.IsClosedCircle circle → ∀ a ∈ circle, ¬ g.IsShown a
  all : (∀ n ∈ g.nodes, g.IsShown n.name) ↔ ∀ circle, ¬ g.IsClosedCircle circle
  rooted : g.nodes ≠ [] → (∀ circle, ¬ g.IsClosedCircle circle) → g.roots ≠ []

variable {g : Graph} {a b c : String} {circle : List String} {d d' : Nat}

theorem Reaches.trans (hab : g.Reaches a d b) (hbc : g.Reaches b d' c) :
    g.Reaches a (d + d') c := by
  induction hbc with
  | start => exact hab
  | uses before child ih => exact .uses ih child

/-- No way leads into a closed circle from outside. -/
theorem IsClosedCircle.mem_of_reaches (h : g.IsClosedCircle circle) (hr : g.Reaches a d b)
    (hb : b ∈ circle) : a ∈ circle := by
  induction hr with
  | start => exact hb
  | uses before child ih => exact ih (h.inside _ hb _ child)

section Usage

variable {k : Telling} {t : Tree} {files : List Path}

theorem IsUsageOf.exists_node (hg : g.IsUsageOf k t files) (h : b ∈ g.children a) :
    (∃ n ∈ g.nodes, n.name = a) ∧ ∃ n ∈ g.nodes, n.name = b := by
  obtain ⟨file, -, huser, hused, -⟩ := (hg.child a b).1 h
  exact ⟨(hg.known a).2 huser, (hg.known b).2 hused⟩

theorem IsUsageOf.parent_eq_none_iff (hg : g.IsUsageOf k t files) :
    g.parent a = none ↔ ∀ user, a ∉ g.children user := by
  rw [hg.alone]
  constructor
  · intro h user hc
    obtain ⟨file, hfile, huses⟩ := (hg.child user a).1 hc
    exact h file hfile user huses
  · intro h file hfile user huses
    exact h user ((hg.child user a).2 ⟨file, hfile, huses⟩)

theorem IsUsageOf.mem_roots_iff (hg : g.IsUsageOf k t files) {n : Node} :
    n ∈ g.roots ↔ n ∈ g.nodes ∧ ∀ user, n.name ∉ g.children user := by
  rw [hg.root, hg.parent_eq_none_iff]

/-- The components of a closed circle are lost. -/
theorem IsClosedCircle.not_isShown (hg : g.IsUsageOf k t files) (h : g.IsClosedCircle circle)
    (ha : a ∈ circle) : ¬ g.IsShown a := by
  intro hshown
  obtain ⟨r, hr, d, hreach⟩ := hshown
  obtain ⟨user, huser⟩ := h.used r.name (h.mem_of_reaches hreach ha)
  exact (hg.mem_roots_iff.1 hr).2 user huser

/-! ### Users above a component -/

open Classical in
/-- The components that reach one. -/
noncomputable def above (g : Graph) (name : String) : Finset String :=
  (g.nodes.map (·.name)).toFinset.filter fun a => ∃ d, g.Reaches a d name

theorem mem_above : a ∈ g.above b ↔ (∃ n ∈ g.nodes, n.name = a) ∧ ∃ d, g.Reaches a d b := by
  simp [above]

theorem above_subset (hr : g.Reaches a d b) : g.above a ⊆ g.above b := by
  intro c hc
  obtain ⟨hnode, d', hca⟩ := mem_above.1 hc
  exact mem_above.2 ⟨hnode, d' + d, hca.trans hr⟩

/-- Where no root reaches a component, whatever reaches it is used in turn. -/
theorem IsUsageOf.exists_user (hg : g.IsUsageOf k t files) (hlost : ¬ g.IsShown b)
    (ha : a ∈ g.above b) : ∃ user, a ∈ g.children user := by
  obtain ⟨⟨n, hn, rfl⟩, hreach⟩ := mem_above.1 ha
  by_contra hno
  have hroot : n ∈ g.roots := hg.mem_roots_iff.2 ⟨hn, not_exists.1 hno⟩
  exact hlost ⟨n, hroot, hreach⟩

/-- Of what reaches a lost component, one that is itself reached by as few as possible stands in a
closed circle. -/
theorem IsUsageOf.isClosedCircle_above (hg : g.IsUsageOf k t files) (hlost : ¬ g.IsShown b)
    (ha : a ∈ g.above b) (hleast : ∀ c ∈ g.above b, (g.above a).card ≤ (g.above c).card) :
    g.IsClosedCircle (g.above a).toList := by
  obtain ⟨hnode, d, hab⟩ := mem_above.1 ha
  have hself : a ∈ g.above a := mem_above.2 ⟨hnode, 0, .start⟩
  have hsub : g.above a ⊆ g.above b := above_subset hab
  have hback : ∀ c ∈ g.above a, ∃ d, g.Reaches a d c := by
    intro c hc
    obtain ⟨-, d', hca⟩ := mem_above.1 hc
    -- what reaches `c` reaches `a`, and is not less
    have hsame : g.above c = g.above a :=
      Finset.eq_of_subset_of_card_le (above_subset hca) (hleast c (hsub hc))
    exact (mem_above.1 (hsame ▸ hself)).2
  refine ⟨?_, ?_, ?_, ?_⟩
  · exact List.ne_nil_of_mem (Finset.mem_toList.2 hself)
  · intro c hc e he
    obtain ⟨-, d₁, hca⟩ := mem_above.1 (Finset.mem_toList.1 hc)
    obtain ⟨d₂, hae⟩ := hback e (Finset.mem_toList.1 he)
    exact ⟨d₁ + d₂, hca.trans hae⟩
  · intro c hc
    exact hg.exists_user hlost (hsub (Finset.mem_toList.1 hc))
  · intro c hc user huser
    obtain ⟨-, d₁, hca⟩ := mem_above.1 (Finset.mem_toList.1 hc)
    exact Finset.mem_toList.2 (mem_above.2 ⟨(hg.exists_node huser).1, d₁ + 1, hca.cons huser⟩)

theorem IsUsageOf.isShown_or_isBelowCircle (hg : g.IsUsageOf k t files) {n : Node}
    (hn : n ∈ g.nodes) : g.IsShown n.name ∨ g.IsBelowCircle n.name := by
  by_cases hlost : g.IsShown n.name
  · exact .inl hlost
  · have hself : n.name ∈ g.above n.name := mem_above.2 ⟨⟨n, hn, rfl⟩, 0, .start⟩
    obtain ⟨a, ha, hleast⟩ :=
      Finset.exists_min_image (g.above n.name) (fun a => (g.above a).card) ⟨_, hself⟩
    have hcircle := hg.isClosedCircle_above hlost ha hleast
    obtain ⟨hnode, hreach⟩ := mem_above.1 ha
    have hmem : a ∈ (g.above a).toList := Finset.mem_toList.2 (mem_above.2 ⟨hnode, 0, .start⟩)
    exact .inr ⟨_, hcircle, a, hmem, hreach⟩

theorem IsUsageOf.showsOutsideCircles (hg : g.IsUsageOf k t files) : g.ShowsOutsideCircles := by
  have hshown : (∀ circle, ¬ g.IsClosedCircle circle) → ∀ n ∈ g.nodes, g.IsShown n.name := by
    intro hnone n hn
    rcases hg.isShown_or_isBelowCircle hn with hshown | hbelow
    · exact hshown
    · obtain ⟨circle, hcircle, -⟩ := hbelow
      exact absurd hcircle (hnone circle)
  refine ⟨?_, ?_, ⟨?_, hshown⟩, ?_⟩
  · intro n hn
    exact hg.isShown_or_isBelowCircle hn
  · intro circle hcircle a ha
    exact hcircle.not_isShown hg ha
  · intro hall circle hcircle
    obtain ⟨a, ha⟩ := List.exists_mem_of_ne_nil _ hcircle.inhabited
    obtain ⟨user, huser⟩ := hcircle.used a ha
    obtain ⟨n, hn, rfl⟩ := (hg.exists_node huser).2
    exact hcircle.not_isShown hg ha (hall n hn)
  · intro hnodes hnone
    obtain ⟨n, hn⟩ := List.exists_mem_of_ne_nil _ hnodes
    obtain ⟨r, hr, -⟩ := hshown hnone n hn
    exact List.ne_nil_of_mem hr

end Usage

end Graph

/-- The graph of all that is told of files. -/
def Telling.graph (k : Telling) (t : Tree) (files : List Path) : Graph :=
  Graph.ofSources (k.sources t files)

theorem Telling.graph_isUsageOf (k : Telling) (t : Tree) (files : List Path) :
    (k.graph t files).IsUsageOf k t files :=
  Graph.isUsageOf_sources k t files

/-- Whatever tells names, usages and declarations, the roots of the graph show every component that
does not stand below a closed circle, and none of those in one. So the hierarchies of a framework
have all components that its files declare if there is no closed circle, and only then. -/
theorem shown_outside_circles (t : Tree) (files : List Path) :
    (∀ k : Telling, (k.graph t files).ShowsOutsideCircles) ∧
    ∀ f : Framework,
      (∀ name, (Telling.ofFramework t files f).Known t files name →
        ∃ h ∈ hierarchies f t files, ∃ d, h.graph.Reaches h.root d name) ↔
      ∀ circle, ¬ ((Telling.ofFramework t files f).graph t files).IsClosedCircle circle := by
  refine ⟨fun k => (k.graph_isUsageOf t files).showsOutsideCircles, fun f => ?_⟩
  have husage := (Telling.ofFramework t files f).graph_isUsageOf t files
  have hhierarchies : hierarchies f t files =
      ((Telling.ofFramework t files f).graph t files).roots.map fun r =>
        { framework := f, graph := (Telling.ofFramework t files f).graph t files, root := r.name } :=
    rfl
  rw [← husage.showsOutsideCircles.all, hhierarchies]
  constructor
  · intro h n hn
    obtain ⟨_, hh, hreach⟩ := h n.name ((husage.known _).1 ⟨n, hn, rfl⟩)
    obtain ⟨r, hr, rfl⟩ := List.mem_map.1 hh
    exact ⟨r, hr, hreach⟩
  · intro h name hname
    obtain ⟨n, hn, rfl⟩ := (husage.known name).2 hname
    obtain ⟨r, hr, hreach⟩ := h n hn
    exact ⟨_, List.mem_map_of_mem hr, hreach⟩

/-- Two components that use each other, and nothing else. -/
def circleTree : Tree :=
  ⟨[(["w"], .directory),
    (["w", "A.jsx"], .file "function A() { return <B /> }\n".toUTF8),
    (["w", "B.jsx"], .file "function B() { return <A /> }\n".toUTF8)]⟩

def circleFiles : List Path := [["w", "A.jsx"], ["w", "B.jsx"]]

/-- Both are components of the graph, and there is no root at all. -/
theorem circle_has_no_root :
    ((Telling.ofFramework circleTree circleFiles .react).graph circleTree circleFiles).nodes =
      [⟨"A", ["w", "A.jsx"]⟩, ⟨"B", ["w", "B.jsx"]⟩] ∧
    hierarchies .react circleTree circleFiles = [] := by
  decide +kernel

end Restyle.Component
