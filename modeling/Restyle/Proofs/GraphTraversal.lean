import Restyle.Proofs.Distance
import Restyle.Proofs.IntText
import Restyle.Workspace.Results

/-!
Two ways lead through a graph of components, in breadth and into depth. Both are told here without a
bound on their steps, each as a relation between what was seen before and what is given. Whatever
cycles the graph has and however many users a component has, both end, and each gives the components
that the start reaches, each of them once. The way in breadth is a loop; on the way into depth calls
nest, so that a graph that is too deep is not laid out.
-/
namespace Restyle

mutual

/-- The texts that stand under a key, anywhere in a value. -/
def Value.textsUnder (key : String) : Value → List String
  | .list items => textsInItems key items
  | .tableOf _ fields => textsInFields key fields
  | _ => []

def Value.textsInItems (key : String) : List Value → List String
  | [] => []
  | v :: rest => v.textsUnder key ++ textsInItems key rest

def Value.textsInFields (key : String) : List (String × Value) → List String
  | [] => []
  | (k, v) :: rest =>
    (if k == key then (match v with | .str s => [s] | _ => []) else []) ++
      v.textsUnder key ++ textsInFields key rest

end

namespace Component

mutual

/-- The components of an outline, each before those below it. -/
def Outline.names : Outline → List String
  | .node name below => name :: namesOf below

def Outline.namesOf : List Outline → List String
  | [] => []
  | o :: rest => o.names ++ namesOf rest

end

theorem textsUnder_ofOption (key : String) (s : Option String) :
    (Value.ofOption .str s).textsUnder key = [] := by
  cases s <;> rfl

mutual

/-- Serialised, each component of an outline is one table. -/
theorem Hierarchy.textsUnder_outlineValue (h : Hierarchy) :
    (o : Outline) → (h.outlineValue o).textsUnder "component_name" = o.names
  | .node name below => by
    have hbelow := h.textsInItems_outlineValues below
    simp [outlineValue, Outline.names, Value.textsUnder, Value.textsInFields, Value.ofNat,
      textsUnder_ofOption, hbelow]

theorem Hierarchy.textsInItems_outlineValues (h : Hierarchy) :
    (os : List Outline) →
      Value.textsInItems "component_name" (h.outlineValues os) = Outline.namesOf os
  | [] => rfl
  | o :: rest => by
    rw [outlineValues, Value.textsInItems, Outline.namesOf, h.textsUnder_outlineValue o,
      h.textsInItems_outlineValues rest]

end

namespace Graph

/-- Whether a list gives the components that `start` reaches and no others, each once. -/
structure Covers (g : Graph) (start : String) (names : List String) : Prop where
  once : names.Nodup
  mem_iff : ∀ name, name ∈ names ↔ ∃ d, g.Reaches start d name

/-- In breadth: while something is in the queue its first component is given, and those that it uses
and that were not seen before join the queue at its end. -/
inductive Walks (g : Graph) : List String → List (String × Nat) → List (String × Nat) → Prop
  | done {seen : List String} : Walks g seen [] []
  | visit {seen : List String} {n : String} {d : Nat} {queue found : List (String × Nat)}
      (rest : Walks g (seen ++ g.unseen seen n)
        (queue ++ (g.unseen seen n).map fun c => (c, d + 1)) found) :
      Walks g seen ((n, d) :: queue) ((n, d) :: found)

/-- Into depth: of the components that are still to do, those that were met meanwhile are left out,
and each other one gets below it what it uses, before the next one has its turn. The last list are
the components that were seen in the end. -/
inductive Outlines (g : Graph) : List String → List String → List Outline → List String → Prop
  | done {seen : List String} : Outlines g seen [] [] seen
  | skip {seen todo after : List String} {c : String} {os : List Outline} (met : c ∈ seen)
      (rest : Outlines g seen todo os after) : Outlines g seen (c :: todo) os after
  | enter {seen todo mid after : List String} {c : String} {below os : List Outline}
      (new : c ∉ seen) (inner : Outlines g (seen ++ [c]) (g.children c) below mid)
      (rest : Outlines g mid todo os after) :
      Outlines g seen (c :: todo) (.node c below :: os) after

variable {g : Graph} {start name : String}

/-! ### In breadth -/

theorem Search.walks {done queue : List (String × Nat)} {fuel : Nat}
    (h : g.Search start done queue) (hfuel : done.length + fuel = g.edges.length + 1) :
    g.Walks ((done ++ queue).map (·.1)) queue
      (g.walkFrom fuel ((done ++ queue).map (·.1)) queue) := by
  induction fuel generalizing done queue with
  | zero =>
    have hle := h.length_le
    rw [List.length_append] at hle
    have hq : queue = [] := List.eq_nil_of_length_eq_zero (by omega)
    subst hq
    exact .done
  | succ fuel ih =>
    cases queue with
    | nil => exact .done
    | cons x queue =>
      obtain ⟨n, d⟩ := x
      have hnext := ih h.step (by rw [List.length_append, List.length_singleton]; omega)
      rw [names_step] at hnext
      exact .visit hnext

theorem walk_walks (g : Graph) (start : String) : g.Walks [start] [(start, 0)] (g.walk start) :=
  (Search.begin g start).walks (by simp)

theorem walk_covers (g : Graph) (start : String) : g.Covers start ((g.walk start).map (·.1)) where
  once := by simpa using (g.walk_search start).once
  mem_iff name := by
    constructor
    · intro h
      obtain ⟨x, hx, rfl⟩ := List.mem_map.1 h
      exact ⟨x.2, (mem_walk_iff.1 hx).reached⟩
    · intro h
      obtain ⟨d, hd⟩ := h
      obtain ⟨d', hd'⟩ := exists_isDistance hd
      exact List.mem_map_of_mem (mem_walk_iff.2 hd')

/-! ### Into depth -/

variable {seen todo after : List String} {os : List Outline}

/-- What was seen in the end was seen before or is in the outlines. -/
theorem Outlines.after_eq (h : g.Outlines seen todo os after) :
    after = seen ++ Outline.namesOf os := by
  induction h with
  | done => simp [Outline.namesOf]
  | skip met rest ih => exact ih
  | enter new inner rest ihInner ihRest =>
    rw [ihRest, ihInner]
    simp [Outline.namesOf, Outline.names]

theorem Outlines.nodup (h : g.Outlines seen todo os after) (hseen : seen.Nodup) : after.Nodup := by
  induction h with
  | done => exact hseen
  | skip met rest ih => exact ih hseen
  | enter new inner rest ihInner ihRest =>
    have hmarked := hseen.concat new
    rw [List.concat_eq_append] at hmarked
    exact ihRest (ihInner hmarked)

theorem Outlines.seen_subset (h : g.Outlines seen todo os after) : seen ⊆ after := by
  rw [h.after_eq]
  exact List.subset_append_left _ _

/-- Nothing that was to do is left out. -/
theorem Outlines.todo_subset (h : g.Outlines seen todo os after) : todo ⊆ after := by
  induction h with
  | done => exact List.nil_subset _
  | skip met rest ih => exact List.cons_subset.2 ⟨rest.seen_subset met, ih⟩
  | enter new inner rest ihInner ihRest =>
    refine List.cons_subset.2 ⟨rest.seen_subset (inner.seen_subset ?_), ihRest⟩
    exact List.mem_append_right _ (List.mem_singleton.2 rfl)

theorem Reaches.cons {a b c : String} {d : Nat} (hb : b ∈ g.children a) (h : g.Reaches b d c) :
    g.Reaches a (d + 1) c := by
  induction h with
  | start => exact .uses .start hb
  | uses before child ih => exact .uses ih child

theorem Outlines.reached (h : g.Outlines seen todo os after) (hname : name ∈ Outline.namesOf os) :
    ∃ c ∈ todo, ∃ d, g.Reaches c d name := by
  induction h with
  | done => simp [Outline.namesOf] at hname
  | skip met rest ih =>
    obtain ⟨b, hb, hr⟩ := ih hname
    exact ⟨b, List.mem_cons_of_mem _ hb, hr⟩
  | @enter seen todo mid after c below os new inner rest ihInner ihRest =>
    simp only [Outline.namesOf, Outline.names, List.cons_append, List.mem_cons,
      List.mem_append] at hname
    rcases hname with rfl | hbelow | hos
    · exact ⟨name, List.mem_cons_self, 0, .start⟩
    · obtain ⟨b, hb, d, hr⟩ := ihInner hbelow
      exact ⟨c, List.mem_cons_self, d + 1, hr.cons hb⟩
    · obtain ⟨b, hb, hr⟩ := ihRest hos
      exact ⟨b, List.mem_cons_of_mem _ hb, hr⟩

/-- What a component of the outlines uses has been seen in the end, if not below it then before. -/
theorem Outlines.closed (h : g.Outlines seen todo os after) (hname : name ∈ Outline.namesOf os) :
    g.children name ⊆ after := by
  induction h with
  | done => simp [Outline.namesOf] at hname
  | skip met rest ih => exact ih hname
  | enter new inner rest ihInner ihRest =>
    simp only [Outline.namesOf, Outline.names, List.cons_append, List.mem_cons,
      List.mem_append] at hname
    rcases hname with rfl | hbelow | hos
    · exact List.Subset.trans inner.todo_subset rest.seen_subset
    · exact List.Subset.trans (ihInner hbelow) rest.seen_subset
    · exact ihRest hos

theorem Outlines.covers (h : g.Outlines [] [start] os after) :
    g.Covers start (Outline.namesOf os) := by
  have hafter : after = Outline.namesOf os := by simpa using h.after_eq
  refine ⟨hafter ▸ h.nodup List.nodup_nil, fun name => ⟨?_, ?_⟩⟩
  · intro hname
    obtain ⟨c, hc, hr⟩ := h.reached hname
    rwa [List.mem_singleton.1 hc] at hr
  · intro hreached
    obtain ⟨d, hd⟩ := hreached
    rw [← hafter]
    induction hd with
    | start => exact h.todo_subset (List.mem_singleton.2 rfl)
    | uses before child ih => exact h.closed (hafter ▸ ih) child

/-! ### The bound is never met -/

/-- How many of the components that may come are still unseen. -/
def room (all seen : List String) : Nat := (all.filter fun c => !seen.contains c).length

theorem room_le_of_subset {all seen seen' : List String} (h : seen ⊆ seen') :
    room all seen' ≤ room all seen := by
  refine List.Sublist.length_le (List.monotone_filter_right _ ?_)
  intro c hc
  simp only [Bool.not_eq_true', List.contains_eq_mem, decide_eq_false_iff_not] at hc ⊢
  exact fun hm => hc (h hm)

theorem room_lt_of_new {all seen : List String} {c : String} (hc : c ∈ all) (hnew : c ∉ seen) :
    room all (seen ++ [c]) < room all seen := by
  have hsplit : (all.filter fun b => !(seen ++ [c]).contains b) =
      (all.filter fun b => !seen.contains b).filter fun b => !b == c := by
    rw [List.filter_filter]
    refine List.filter_congr fun b _ => ?_
    simp [Bool.and_comm, Bool.beq_eq_decide_eq]
  rw [room, hsplit]
  refine List.length_filter_lt_length_iff_exists.2 ⟨c, List.mem_filter.2 ⟨hc, ?_⟩, by simp⟩
  simpa using hnew

/-- The turn of one of the components that another one uses. -/
def outlineStep (g : Graph) (fuel : Nat) (r : List Outline × List String) (c : String) :
    List Outline × List String :=
  if r.2.contains c then r
  else (r.1 ++ [(g.outlineFrom fuel r.2 c).1], (g.outlineFrom fuel r.2 c).2)

theorem outlineFrom_succ (g : Graph) (fuel : Nat) (seen : List String) (name : String) :
    g.outlineFrom (fuel + 1) seen name =
      let r := (g.children name).foldl (g.outlineStep fuel) ([], seen ++ [name])
      (.node name r.1, r.2) := rfl

/-- Whether with so much fuel the outline of every component that is entered anew with no more room
than that is the one without a bound. -/
def Suffices (g : Graph) (all : List String) (fuel : Nat) : Prop :=
  ∀ seen, ∀ c ∈ all, c ∉ seen → room all seen ≤ fuel → ∃ below mid,
    g.outlineFrom fuel seen c = (.node c below, mid) ∧
    g.Outlines (seen ++ [c]) (g.children c) below mid

theorem Suffices.foldl {all : List String} {fuel : Nat} (h : g.Suffices all fuel)
    (done : List Outline) (htodo : todo ⊆ all) (hroom : room all seen ≤ fuel) :
    ∃ os after, todo.foldl (g.outlineStep fuel) (done, seen) = (done ++ os, after) ∧
      g.Outlines seen todo os after := by
  induction todo generalizing done seen with
  | nil => exact ⟨[], seen, by simp, .done⟩
  | cons c todo ih =>
    obtain ⟨hc, htodo⟩ := List.cons_subset.1 htodo
    rw [List.foldl_cons]
    by_cases hmet : c ∈ seen
    · obtain ⟨os, after, hfold, hrest⟩ := ih done htodo hroom
      refine ⟨os, after, ?_, .skip hmet hrest⟩
      simpa [outlineStep, hmet] using hfold
    · obtain ⟨below, mid, hc, hinner⟩ := h seen c hc hmet hroom
      have hseen : seen ⊆ mid :=
        List.Subset.trans (List.subset_append_left _ _) hinner.seen_subset
      obtain ⟨os, after, hfold, hrest⟩ :=
        ih (done ++ [.node c below]) htodo (Nat.le_trans (room_le_of_subset hseen) hroom)
      refine ⟨.node c below :: os, after, ?_, .enter hmet hinner hrest⟩
      simpa [outlineStep, hmet, hc] using hfold

theorem suffices_all {all : List String} (hall : ∀ c, g.children c ⊆ all) (fuel : Nat) :
    g.Suffices all fuel := by
  induction fuel with
  | zero =>
    intro seen c hc hnew hroom
    have hlt := room_lt_of_new hc hnew
    omega
  | succ fuel ih =>
    intro seen c hc hnew hroom
    have hlt := room_lt_of_new hc hnew
    obtain ⟨below, mid, hfold, hinner⟩ :=
      ih.foldl [] (hall c) (Nat.le_of_lt_succ (Nat.lt_of_lt_of_le hlt hroom))
    refine ⟨below, mid, ?_, hinner⟩
    simp [outlineFrom_succ, hfold]

/-- Each component that may come is the start or the end of a usage, and the fuel is their number. -/
theorem outline_outlines (g : Graph) (start : String) :
    ∃ after, g.Outlines [] [start] [g.outline start] after := by
  let all := start :: g.edges.map (·.2)
  have hall : ∀ c, g.children c ⊆ all := fun c b hb =>
    List.mem_cons_of_mem _ (mem_edges_of_mem_children hb)
  have hroom : room all [] ≤ g.edges.length + 1 := by simp [room, all]
  obtain ⟨below, mid, hout, hinner⟩ :=
    suffices_all hall _ [] start List.mem_cons_self List.not_mem_nil hroom
  refine ⟨mid, ?_⟩
  rw [outline, hout]
  exact .enter List.not_mem_nil hinner .done

theorem outline_covers (g : Graph) (start : String) :
    g.Covers start (g.outline start).names := by
  obtain ⟨after, hout⟩ := g.outline_outlines start
  have hcovers := hout.covers
  rwa [Outline.namesOf, Outline.namesOf, List.append_nil] at hcovers

end Graph

/-! ### How deep the outline is -/

mutual

theorem Outline.height_le_length_names : (o : Outline) → o.height ≤ o.names.length
  | .node name below => by
    have hbelow := heightOf_le_length_namesOf below
    rw [height, names, List.length_cons]
    omega

theorem Outline.heightOf_le_length_namesOf :
    (os : List Outline) → Outline.heightOf os ≤ (Outline.namesOf os).length
  | [] => Nat.le_refl _
  | o :: rest => by
    have ho := o.height_le_length_names
    have hrest := heightOf_le_length_namesOf rest
    rw [heightOf, namesOf, List.length_append]
    omega

end

namespace Hierarchy

theorem toValue_eq_ok {h : Hierarchy} (hroom : 2 * (h.graph.outline h.root).height ≤ maxCalls) :
    h.toValue = .ok (h.outlineValue (h.graph.outline h.root)) :=
  if_pos hroom

theorem toValue_eq_error {h : Hierarchy} (hdeep : maxCalls < 2 * (h.graph.outline h.root).height) :
    h.toValue = .error .callsTooDeep :=
  if_neg (Nat.not_le.2 hdeep)

/-- Whatever its shape, a graph in which few components are reached is laid out. -/
theorem exists_toValue_of_walk {h : Hierarchy}
    (hfew : 2 * (h.graph.walk h.root).length ≤ maxCalls) : ∃ v, h.toValue = .ok v := by
  have hwalk := h.graph.walk_covers h.root
  have hout := h.graph.outline_covers h.root
  have hperm : (h.graph.outline h.root).names.Perm ((h.graph.walk h.root).map (·.1)) :=
    (List.perm_ext_iff_of_nodup hout.once hwalk.once).2 fun name =>
      (hout.mem_iff name).trans (hwalk.mem_iff name).symm
  have hlength := hperm.length_eq
  rw [List.length_map] at hlength
  have hheight := (h.graph.outline h.root).height_le_length_names
  exact ⟨_, toValue_eq_ok (by omega)⟩

/-- Seen from any of its components a graph is walked to the end, in breadth and into depth. The
walk gives each component that is reached once, with its distance, the nearest first. The serialised
hierarchy has one table for each, but there is one only if the components of the outline do not
stand too deep below each other: the calls that lay it out nest, two for each level. -/
theorem traversals_cover (h : Hierarchy) :
    (h.graph.Walks [h.root] [(h.root, 0)] (h.graph.walk h.root) ∧
      h.graph.Covers h.root ((h.graph.walk h.root).map (·.1)) ∧
      (∀ x ∈ h.graph.walk h.root, h.graph.IsDistance h.root x.1 x.2) ∧
      (h.graph.walk h.root).Pairwise fun x y => x.2 ≤ y.2) ∧
    (∃ after, h.graph.Outlines [] [h.root] [h.graph.outline h.root] after) ∧
      ((∃ v, h.toValue = .ok v ∧ h.graph.Covers h.root (v.textsUnder "component_name")) ↔
        2 * (h.graph.outline h.root).height ≤ maxCalls) ∧
      (h.toValue = .error .callsTooDeep ↔ maxCalls < 2 * (h.graph.outline h.root).height) := by
  have hrising := (h.graph.walk_search h.root).rising
  rw [List.append_nil] at hrising
  refine ⟨⟨h.graph.walk_walks h.root, h.graph.walk_covers h.root,
    fun x hx => Graph.mem_walk_iff.1 hx, hrising⟩, h.graph.outline_outlines h.root, ?_⟩
  rcases Nat.lt_or_ge maxCalls (2 * (h.graph.outline h.root).height) with hdeep | hroom
  · simp [toValue_eq_error hdeep, hdeep]
  · have hcovers := h.graph.outline_covers h.root
    rw [← h.textsUnder_outlineValue] at hcovers
    simp [toValue_eq_ok hroom, hroom, hcovers]

end Hierarchy

/-! ### A chain -/

/-- The name of a component by its place in a chain. -/
def placeName (k : Nat) : String := String.ofList ('C' :: Number.decimalDigits k)

theorem placeName_injective {j k : Nat} (h : placeName j = placeName k) : j = k :=
  Value.decimalDigits_injective (List.cons.inj (String.ofList_injective h)).2

/-- So many components of which each one uses the next one. -/
def Graph.chain (n : Nat) : Graph where
  nodes := (List.range n).map fun k => ⟨placeName k, ["w", placeName k ++ ".jsx"]⟩
  edges := (List.range (n - 1)).map fun k => (placeName k, placeName (k + 1))

namespace Graph

theorem children_chain {n k : Nat} (hk : k + 1 < n) :
    (chain n).children (placeName k) = [placeName (k + 1)] := by
  have hplace : (fun e : String × String => e.1 == placeName k) ∘
      (fun j => (placeName j, placeName (j + 1))) = fun j => j == k := by
    funext j
    rw [Function.comp_apply, Bool.eq_iff_iff, beq_iff_eq, beq_iff_eq]
    exact ⟨placeName_injective, congrArg placeName⟩
  have hcount : (List.range (n - 1)).count k = 1 := by
    rw [List.count_range, if_pos (by omega)]
  rw [children, chain, List.filter_map, hplace, List.filter_beq, hcount]
  rfl

/-- The outline goes down the chain to its end, since nothing that is behind was seen before. -/
theorem le_height_chain {n k fuel : Nat} (hk : k < n) (hfuel : n ≤ k + fuel)
    (hseen : ∀ j, k ≤ j → placeName j ∉ seen) :
    n ≤ k + ((chain n).outlineFrom fuel seen (placeName k)).1.height := by
  induction fuel generalizing k seen with
  | zero => omega
  | succ fuel ih =>
    rw [outlineFrom_succ]
    dsimp only
    rw [Outline.height]
    rcases Nat.lt_or_ge (k + 1) n with hnext | hlast
    · have hunseen : ∀ j, k + 1 ≤ j → placeName j ∉ seen ++ [placeName k] := by
        intro j hj hm
        rcases List.mem_append.1 hm with hm | hm
        · exact hseen j (by omega) hm
        · have hjk := placeName_injective (List.mem_singleton.1 hm)
          omega
      have hbelow := ih hnext (by omega) hunseen
      rw [children_chain hnext, List.foldl_cons, List.foldl_nil, outlineStep,
        if_neg (by simpa using hunseen (k + 1) (Nat.le_refl _)), List.nil_append,
        Outline.heightOf, Outline.heightOf]
      dsimp only
      omega
    · omega

end Graph

/-- A chain seen from its first component. -/
def Hierarchy.chain (n : Nat) : Hierarchy :=
  { framework := .react, graph := .chain n, root := placeName 0 }

theorem Hierarchy.toValue_chain {n : Nat} (hn : maxCalls < 2 * n) :
    (Hierarchy.chain n).toValue = .error .callsTooDeep := by
  have hheight : n ≤ 0 + ((Graph.chain n).outline (placeName 0)).height :=
    Graph.le_height_chain (by omega)
      (by simp only [Graph.chain, List.length_map, List.length_range]; omega)
      (fun _ _ => List.not_mem_nil)
  refine toValue_eq_error ?_
  change maxCalls < 2 * ((Graph.chain n).outline (placeName 0)).height
  omega

/-- Each component of a chain is reached, but a long one is not laid out. -/
theorem Hierarchy.traversals_miss_deep :
    (∀ k < 1000, (Hierarchy.chain 1000).graph.Reaches (placeName 0) k (placeName k)) ∧
      ¬ ∃ v, (Hierarchy.chain 1000).toValue = .ok v := by
  constructor
  · intro k hk
    induction k with
    | zero => exact .start
    | succ k ih =>
      refine .uses (ih (by omega)) ?_
      rw [chain, Graph.children_chain hk]
      exact List.mem_singleton_self _
  · rw [toValue_chain (by decide)]
    simp

end Component
end Restyle
