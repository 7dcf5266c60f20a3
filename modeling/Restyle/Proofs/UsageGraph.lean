import Mathlib.Data.List.Induction
import Restyle.Proofs.Distance

/-!
The graph of components is the usage relation of the files that were read, whatever tells their
names, usages and declarations: a component is what the first file that declares it says, its
children are the components that the files of its name use, in the order of their first use, and its
parent is the first one that uses it.
-/
namespace Restyle.Component

/-! ### Each item once -/

/-- Whether an item is the first one in a list with a property. -/
def IsFirst {α : Type} (P : α → Prop) (l : List α) (a : α) : Prop :=
  ∃ before after, l = before ++ a :: after ∧ P a ∧ ∀ b ∈ before, ¬ P b

section Once

variable {α β : Type} [BEq α] [LawfulBEq α]

omit [LawfulBEq α] in
/-- A list without repetitions is its first item, and then what is left of the others without it. -/
theorem eraseDups_induction {P : List α → Prop} (nil : P [])
    (cons : ∀ a l, P (l.filter fun b => !b == a) → P (a :: l)) (l : List α) : P l := by
  induction hn : l.length using Nat.strongRecOn generalizing l with
  | _ n ih =>
    cases l with
    | nil => exact nil
    | cons a l =>
      have hle := List.length_filter_le (fun b => !b == a) l
      rw [List.length_cons] at hn
      exact cons a l (ih _ (by omega) _ rfl)

theorem idxOf_lt_of_filter {l : List α} {p : α → Bool} {x y : α} (hx : p x = true)
    (hy : p y = true) (h : (l.filter p).idxOf x < (l.filter p).idxOf y) :
    l.idxOf x < l.idxOf y := by
  induction l with
  | nil => simp at h
  | cons a l ih =>
    cases ha : p a with
    | false =>
      have hax : (a == x) = false := beq_eq_false_iff_ne.2 fun e => by simp [e, hx] at ha
      have hay : (a == y) = false := beq_eq_false_iff_ne.2 fun e => by simp [e, hy] at ha
      rw [List.filter_cons_of_neg (by simp [ha])] at h
      rw [List.idxOf_cons, List.idxOf_cons, hax, hay]
      exact Nat.succ_lt_succ (ih h)
    | true =>
      rw [List.filter_cons_of_pos ha, List.idxOf_cons, List.idxOf_cons] at h
      rw [List.idxOf_cons, List.idxOf_cons]
      cases hay : a == y with
      | true => simp [hay] at h
      | false =>
        cases hax : a == x with
        | true => exact Nat.succ_pos _
        | false =>
          simp only [hax, hay, cond_false] at h
          exact Nat.succ_lt_succ (ih (Nat.lt_of_succ_lt_succ h))

/-- Without repetitions the items stand in the order in which they first came. -/
theorem pairwise_eraseDups (l : List α) :
    l.eraseDups.Pairwise fun a b => l.idxOf a < l.idxOf b := by
  induction l using eraseDups_induction with
  | nil => simp
  | cons a l ih =>
    have hrest : ∀ b ∈ (l.filter fun b => !b == a).eraseDups, (!b == a) = true := fun b hb =>
      (List.mem_filter.1 (List.mem_eraseDups.1 hb)).2
    have hne : ∀ b, (!b == a) = true → (a == b) = false := fun b hb =>
      beq_eq_false_iff_ne.2 fun e => by simp [e] at hb
    rw [List.eraseDups_cons, List.pairwise_cons]
    constructor
    · intro b hb
      rw [List.idxOf_cons_self, List.idxOf_cons, hne b (hrest b hb)]
      exact Nat.succ_pos _
    · refine ih.imp_of_mem ?_
      intro b c hb hc h
      rw [List.idxOf_cons, List.idxOf_cons, hne b (hrest b hb), hne c (hrest c hc)]
      exact Nat.succ_lt_succ (idxOf_lt_of_filter (hrest b hb) (hrest c hc) h)

theorem eraseDups_filter (p : α → Bool) (l : List α) :
    (l.filter p).eraseDups = l.eraseDups.filter p := by
  induction l using eraseDups_induction with
  | nil => simp
  | cons a l ih =>
    rw [List.eraseDups_cons]
    cases ha : p a with
    | true =>
      rw [List.filter_cons_of_pos ha, List.filter_cons_of_pos ha, List.eraseDups_cons, ← ih,
        List.filter_comm]
    | false =>
      -- where `a` goes, taking it out first makes no difference
      have hsame : (l.filter fun b => !b == a).filter p = l.filter p := by
        rw [List.filter_filter]
        refine List.filter_congr fun b _ => ?_
        cases hb : b == a with
        | true => simp [eq_of_beq hb, ha]
        | false => simp
      rw [List.filter_cons_of_neg (by simp [ha]), List.filter_cons_of_neg (by simp [ha]), ← ih,
        hsame]

theorem findSome?_eraseDups (f : α → Option β) (l : List α) :
    l.eraseDups.findSome? f = l.findSome? f := by
  induction l using eraseDups_induction with
  | nil => simp
  | cons a l ih =>
    rw [List.eraseDups_cons, List.findSome?_cons, List.findSome?_cons, ih]
    cases ha : f a with
    | some b => rfl
    | none =>
      clear ih
      induction l with
      | nil => rfl
      | cons c l ih =>
        cases hc : c == a with
        | true => simp [ih, eq_of_beq hc, ha]
        | false => simp [hc, List.findSome?_cons, ih]

theorem eraseDups_flatMap_eraseDups [BEq β] [LawfulBEq β] (f : α → List β) (l : List α) :
    (l.eraseDups.flatMap f).eraseDups = (l.flatMap f).eraseDups := by
  induction l using eraseDups_induction with
  | nil => simp
  | cons a l ih =>
    have hskip : ((l.filter fun b => !b == a).flatMap f).removeAll (f a) =
        (l.flatMap f).removeAll (f a) := by
      clear ih
      induction l with
      | nil => rfl
      | cons c l ih =>
        simp only [List.removeAll, List.filter_flatMap] at ih ⊢
        cases hc : c == a with
        | true =>
          rw [List.filter_cons_of_neg (by simp [hc]), ih, eq_of_beq hc, List.flatMap_cons]
          simp
        | false =>
          rw [List.filter_cons_of_pos (by simp [hc]), List.flatMap_cons, List.flatMap_cons, ih]
    rw [List.eraseDups_cons, List.flatMap_cons, List.flatMap_cons, List.eraseDups_append,
      List.eraseDups_append, ← hskip]
    unfold List.removeAll
    rw [eraseDups_filter, ih, ← eraseDups_filter]

end Once

theorem findSome?_filterMap {α β γ : Type} (f : β → Option γ) (g : α → Option β) (l : List α) :
    (l.filterMap g).findSome? f = l.findSome? fun a => (g a).bind f := by
  rw [← List.head?_filterMap, ← List.head?_filterMap, List.filterMap_filterMap]

theorem flatMap_filterMap {α β γ : Type} (f : β → List γ) (g : α → Option β) (l : List α) :
    (l.filterMap g).flatMap f = l.flatMap fun a => ((g a).map f).getD [] := by
  induction l with
  | nil => rfl
  | cons a l ih =>
    cases h : g a with
    | none => simp [h, ih]
    | some b => simp [h, ih]

/-! ### Files and what they are read as -/

/-- The ways to tell the name that a file goes by, the components that it uses, and whether it
declares the one of its name. -/
structure Telling where
  name : Path → String → Option String
  uses : Path → String → List String
  declares : Path → Bool

namespace Telling

variable (k : Telling) (t : Tree) (files : List Path)

/-- What is told of a file that can be read. -/
def source? (file : Path) : Option Source :=
  match readText t file with
  | .error _ => none
  | .ok content =>
    some { path := file, name := k.name file content, declares := k.declares file
           uses := k.uses file content }

def sources : List Source := files.eraseDups.filterMap (k.source? t)

/-- What the files of a framework tell. -/
def ofFramework (f : Framework) : Telling where
  name file content := nameIn f t file content.toList
  uses file content := usages f (prepared f t files) file content.toList
  declares := Component.declares f

theorem sourcesOf_eq (f : Framework) :
    sourcesOf f t files = (ofFramework t files f).sources t files := rfl

/-- Whether a readable file declares a component. -/
def Declares (file : Path) (name : String) : Prop :=
  k.declares file = true ∧ name ≠ "" ∧
    ∃ content, readText t file = .ok content ∧ k.name file content = some name

def Known (name : String) : Prop := ∃ file ∈ files, k.Declares t file name

/-- Whether a readable file, which goes by the name of a component, uses another one. -/
def Uses (file : Path) (user used : String) : Prop :=
  k.Known t files user ∧ k.Known t files used ∧ used ≠ user ∧
    ∃ content, readText t file = .ok content ∧ k.name file content = some user ∧
      used ∈ k.uses file content

/-- All that the readable files of a name use, in the order of the files and of their usages. -/
def usesOf (name : String) : List String :=
  files.flatMap fun file =>
    match readText t file with
    | .error _ => []
    | .ok content => if k.name file content = some name then k.uses file content else []

end Telling

namespace Graph

/-- Whether a graph is the usage relation of files. -/
structure IsUsageOf (g : Graph) (k : Telling) (t : Tree) (files : List Path) : Prop where
  /-- Of each name that is declared there is one component, with the first file that declares it. -/
  once : (g.nodes.map (·.name)).Nodup
  known : ∀ name, (∃ n ∈ g.nodes, n.name = name) ↔ k.Known t files name
  node : ∀ n, n ∈ g.nodes ↔ IsFirst (k.Declares t · n.name) files n.path
  ordered : g.nodes.Pairwise fun m n => files.idxOf m.path < files.idxOf n.path
  child : ∀ user used, used ∈ g.children user ↔ ∃ file ∈ files, k.Uses t files file user used
  childOnce : ∀ user, (g.children user).Nodup
  firstUse : ∀ user, (g.children user).Pairwise fun a b =>
    (k.usesOf t files user).idxOf a < (k.usesOf t files user).idxOf b
  parent : ∀ user used, g.parent used = some user ↔
    ∃ file, IsFirst (fun file => ∃ user, k.Uses t files file user used) files file ∧
      k.Uses t files file user used
  alone : ∀ used, g.parent used = none ↔ ∀ file ∈ files, ∀ user, ¬ k.Uses t files file user used
  root : ∀ n, n ∈ g.roots ↔ n ∈ g.nodes ∧ g.parent n.name = none
  rootsOrdered : g.roots.Sublist g.nodes

/-! ### Components -/

/-- The component that a source declares. -/
def declared? (s : Source) : Option Node :=
  s.name.bind fun name => if s.declares && name != "" then some ⟨name, s.path⟩ else none

theorem nodesOf_snoc (sources : List Source) (s : Source) :
    nodesOf (sources ++ [s]) =
      match declared? s with
      | some n =>
        if (nodesOf sources).any (·.name == n.name) then nodesOf sources
        else nodesOf sources ++ [n]
      | none => nodesOf sources := by
  rw [nodesOf, List.foldl_append, ← nodesOf, List.foldl_cons, List.foldl_nil]
  unfold declared?
  cases s.name with
  | none => rfl
  | some name =>
    cases h : s.declares && name != "" with
    | false => simp only [Option.bind_some, h, Bool.false_and, Bool.false_eq_true, if_false]
    | true =>
      simp only [Option.bind_some, h, Bool.true_and, if_true]
      cases (nodesOf sources).any (·.name == name) <;> rfl

theorem declared?_filter_eq_some {s : Source} {name : String} {n : Node} :
    (declared? s).filter (·.name == name) = some n ↔
      s.declares = true ∧ name ≠ "" ∧ s.name = some name ∧ n = ⟨name, s.path⟩ := by
  unfold declared?
  rw [Option.filter_eq_some_iff, Option.bind_eq_some_iff]
  constructor
  · rintro ⟨⟨name', hname, hn⟩, he⟩
    split at hn
    · next h =>
      cases hn
      obtain rfl : name' = name := eq_of_beq he
      rw [Bool.and_eq_true, bne_iff_ne] at h
      exact ⟨h.1, h.2, hname, rfl⟩
    · cases hn
  · rintro ⟨hd, hne, hname, rfl⟩
    exact ⟨⟨name, hname, by simp [hd, hne]⟩, beq_self_eq_true name⟩

/-- What a name stands for is what the first source that declares it says. -/
theorem find?_nodesOf (sources : List Source) (name : String) :
    (nodesOf sources).find? (·.name == name) =
      sources.findSome? fun s => (declared? s).filter (·.name == name) := by
  induction sources using List.reverseRecOn with
  | nil => rfl
  | append_singleton sources s ih =>
    rw [nodesOf_snoc, List.findSome?_append, ← ih]
    cases hd : declared? s with
    | none => simp [hd]
    | some n =>
      cases hn : n.name == name with
      | false =>
        simp only [List.findSome?_cons, hd, Option.filter_some, hn]
        split <;> simp [List.find?_append, hn]
      | true =>
        simp only [List.findSome?_cons, hd, Option.filter_some, hn, if_true]
        split
        · next hk =>
          rw [eq_of_beq hn] at hk
          rw [Option.or_of_isSome (List.find?_isSome.2 (List.any_eq_true.1 hk))]
        · rw [List.find?_append]
          simp [hn]

theorem nodup_nodesOf (sources : List Source) : ((nodesOf sources).map (·.name)).Nodup := by
  induction sources using List.reverseRecOn with
  | nil => exact .nil
  | append_singleton sources s ih =>
    rw [nodesOf_snoc]
    split
    · next n _ =>
      split
      · exact ih
      · next hk =>
        rw [List.map_append, List.nodup_append]
        refine ⟨ih, by simp, ?_⟩
        intro a ha b hb e
        obtain ⟨m, hm, rfl⟩ := List.mem_map.1 ha
        obtain rfl := List.mem_singleton.1 hb
        exact hk (List.any_eq_true.2 ⟨m, hm, by simp [e]⟩)
    · exact ih

theorem nodesOf_sublist (sources : List Source) :
    ((nodesOf sources).map (·.path)).Sublist (sources.map (·.path)) := by
  induction sources using List.reverseRecOn with
  | nil => exact .slnil
  | append_singleton sources s ih =>
    rw [nodesOf_snoc, List.map_append]
    split
    · next n hd =>
      split
      · exact ih.trans (List.sublist_append_left _ _)
      · have hpath : n.path = s.path := by
          have hn : (declared? s).filter (·.name == n.name) = some n := by simp [hd]
          rw [(declared?_filter_eq_some.1 hn).2.2.2]
        rw [List.map_append, List.map_singleton, hpath]
        exact ih.append (List.Sublist.refl _)
    · exact ih.trans (List.sublist_append_left _ _)

theorem mem_nodesOf_iff {sources : List Source} {n : Node} :
    n ∈ nodesOf sources ↔ (nodesOf sources).find? (·.name == n.name) = some n := by
  refine ⟨fun hn => ?_, List.mem_of_find?_eq_some⟩
  have hsome : ((nodesOf sources).find? (·.name == n.name)).isSome :=
    List.find?_isSome.2 ⟨n, hn, by simp⟩
  obtain ⟨m, hm⟩ := Option.isSome_iff_exists.1 hsome
  have hname := List.find?_some hm
  rw [hm, List.inj_on_of_nodup_map (nodup_nodesOf sources) (List.mem_of_find?_eq_some hm) hn
    (eq_of_beq hname)]

/-! ### Usages -/

/-- What a source adds to the usages, where some names are known. -/
def usagesIn (known : String → Bool) (s : Source) : List (String × String) :=
  match s.name with
  | some name =>
    if known name then (s.uses.filter fun u => known u && u != name).map fun u => (name, u) else []
  | none => []

/-- What a source of a name uses. -/
def usesAs (name : String) (s : Source) : List String := if s.name = some name then s.uses else []

theorem edges_ofSources (sources : List Source) :
    (ofSources sources).edges =
      sources.flatMap (usagesIn fun n => (nodesOf sources).any (·.name == n)) := rfl

theorem filter_usagesIn (known : String → Bool) (user : String) (s : Source) :
    ((usagesIn known s).filter (·.1 == user)).map (·.2) =
      if known user then (usesAs user s).filter fun used => known used && used != user else [] := by
  have hsame (used : List String) (name : String) :
      ((used.map fun u => (name, u)).filter (·.1 == user)).map (·.2) =
        if name = user then used else [] := by
    rw [List.filter_map]
    split
    · next e => simp [Function.comp_def, e]
    · next e => simp [Function.comp_def, e]
  unfold usagesIn usesAs
  cases s.name with
  | none => simp
  | some name =>
    dsimp only
    by_cases e : name = user
    · subst e
      cases known name with
      | false => rfl
      | true => simp only [if_true, hsame]
    · cases known name <;> simp only [if_true, if_false, Bool.false_eq_true, hsame, e,
        Option.some.injEq, List.filter_nil, List.map_nil, ite_self]

theorem children_ofSources (sources : List Source) (user : String) :
    (ofSources sources).children user =
      if (nodesOf sources).any (·.name == user) then
        (sources.flatMap (usesAs user)).eraseDups.filter fun used =>
          (nodesOf sources).any (·.name == used) && used != user
      else [] := by
  rw [children, edges_ofSources, List.filter_flatMap, List.map_flatMap]
  rw [funext (filter_usagesIn _ user)]
  split
  · rw [← List.filter_flatMap, eraseDups_filter]
  · rw [List.flatMap_eq_nil_iff.2 fun _ _ => rfl]
    rfl

/-- The name under which a source uses a component. -/
def userIn? (known : String → Bool) (used : String) (s : Source) : Option String :=
  s.name.filter fun name => known name && known used && used != name && s.uses.contains used

theorem find?_usagesIn (known : String → Bool) (used : String) (s : Source) :
    ((usagesIn known s).find? (·.2 == used)).map (·.1) = userIn? known used s := by
  have hmap (us : List String) (name : String) :
      ((us.map fun u => (name, u)).find? (·.2 == used)).map (·.1) =
        if us.contains used then some name else none := by
    rw [List.find?_map]
    cases hf : us.find? ((·.2 == used) ∘ fun u => (name, u)) with
    | none =>
      rw [List.find?_eq_none] at hf
      have hno : used ∉ us := fun hu => hf used hu (beq_self_eq_true used)
      simp [hno]
    | some u =>
      have hu : (u == used) = true := List.find?_some (p := (· == used)) hf
      simp [← eq_of_beq hu, List.mem_of_find?_eq_some hf]
  unfold usagesIn userIn?
  cases s.name with
  | none => rfl
  | some name =>
    cases hn : known name with
    | false => simp only [Bool.false_eq_true, if_false, Option.filter_some, hn, Bool.false_and]; rfl
    | true =>
      have hcontains : (s.uses.filter fun u => known u && u != name).contains used =
          (known used && used != name && s.uses.contains used) := by
        rw [Bool.eq_iff_iff, List.contains_iff_mem, List.mem_filter,
          Bool.and_eq_true _ (s.uses.contains _),
          List.contains_iff_mem, and_comm]
      simp only [if_true, hmap, hcontains, Option.filter_some, hn, Bool.true_and]

theorem parent_ofSources (sources : List Source) (used : String) :
    (ofSources sources).parent used =
      sources.findSome? (userIn? (fun n => (nodesOf sources).any (·.name == n)) used) := by
  rw [parent, edges_ofSources, List.find?_flatMap, List.map_findSome?]
  exact congrArg (List.findSome? · sources) (funext fun s => find?_usagesIn _ used s)

end Graph

/-! ### The graph of the files -/

namespace Telling

variable {k : Telling} {t : Tree} {files : List Path}

theorem source?_eq_some {file : Path} {s : Source} :
    k.source? t file = some s ↔ ∃ content, readText t file = .ok content ∧
      s = { path := file, name := k.name file content, declares := k.declares file
            uses := k.uses file content } := by
  unfold source?
  cases readText t file with
  | error f => simp
  | ok content => simp [eq_comm]

theorem declared?_eq_some {file : Path} {name : String} {n : Node} :
    (k.source? t file).bind (fun s => (Graph.declared? s).filter (·.name == name)) = some n ↔
      k.Declares t file name ∧ n = ⟨name, file⟩ := by
  simp only [Option.bind_eq_some_iff, source?_eq_some, Graph.declared?_filter_eq_some]
  constructor
  · rintro ⟨s, ⟨content, hread, rfl⟩, hd, hne, hname, rfl⟩
    exact ⟨⟨hd, hne, content, hread, hname⟩, rfl⟩
  · rintro ⟨⟨hd, hne, content, hread, hname⟩, rfl⟩
    exact ⟨_, ⟨content, hread, rfl⟩, hd, hne, hname, rfl⟩

/-- What is looked for in the sources is looked for in the files, where a file may stand again. -/
theorem findSome?_sources {α : Type} (f : Source → Option α) :
    (k.sources t files).findSome? f = files.findSome? fun file => (k.source? t file).bind f := by
  rw [sources, findSome?_filterMap, findSome?_eraseDups]

/-- A component is what the first file that declares it says. -/
theorem mem_nodes_iff {n : Node} :
    n ∈ Graph.nodesOf (k.sources t files) ↔ IsFirst (k.Declares t · n.name) files n.path := by
  rw [Graph.mem_nodesOf_iff, Graph.find?_nodesOf, findSome?_sources, List.findSome?_eq_some_iff]
  have hnone (file : Path) : (k.source? t file).bind
      (fun s => (Graph.declared? s).filter (·.name == n.name)) = none ↔
        ¬ k.Declares t file n.name := by
    rw [Option.eq_none_iff_forall_ne_some]
    exact ⟨fun h hd => h _ (declared?_eq_some.2 ⟨hd, rfl⟩),
      fun h m hm => h (declared?_eq_some.1 hm).1⟩
  simp only [declared?_eq_some, hnone]
  constructor
  · rintro ⟨before, file, after, hfiles, ⟨hd, hn⟩, hbefore⟩
    have hpath : n.path = file := by rw [hn]
    exact ⟨before, after, hpath ▸ hfiles, hpath ▸ hd, hbefore⟩
  · rintro ⟨before, after, hfiles, hd, hbefore⟩
    exact ⟨before, n.path, after, hfiles, ⟨hd, rfl⟩, hbefore⟩

theorem known_iff {name : String} :
    (Graph.nodesOf (k.sources t files)).any (·.name == name) = true ↔ k.Known t files name := by
  rw [List.any_eq_true, ← List.find?_isSome, Graph.find?_nodesOf, findSome?_sources,
    List.findSome?_isSome_iff]
  constructor
  · rintro ⟨file, hfile, hsome⟩
    obtain ⟨n, hn⟩ := Option.isSome_iff_exists.1 hsome
    exact ⟨file, hfile, (declared?_eq_some.1 hn).1⟩
  · rintro ⟨file, hfile, hd⟩
    exact ⟨file, hfile, Option.isSome_iff_exists.2 ⟨_, declared?_eq_some.2 ⟨hd, rfl⟩⟩⟩

theorem nodes_ordered :
    (Graph.nodesOf (k.sources t files)).Pairwise fun m n =>
      files.idxOf m.path < files.idxOf n.path := by
  have hpaths : (k.sources t files).map (·.path) = files.eraseDups.filter fun file =>
      (k.source? t file).isSome := by
    unfold sources
    induction files.eraseDups with
    | nil => rfl
    | cons file rest ih =>
      cases h : k.source? t file with
      | none => simp [h, ih]
      | some s =>
        obtain ⟨content, -, rfl⟩ := source?_eq_some.1 h
        simp [h, ih]
  have hsub := Graph.nodesOf_sublist (k.sources t files)
  rw [hpaths] at hsub
  have hordered := (pairwise_eraseDups files).sublist (hsub.trans List.filter_sublist)
  rwa [List.pairwise_map] at hordered

theorem mem_usesOf {user used : String} :
    used ∈ k.usesOf t files user ↔ ∃ file ∈ files, ∃ content, readText t file = .ok content ∧
      k.name file content = some user ∧ used ∈ k.uses file content := by
  unfold usesOf
  rw [List.mem_flatMap]
  refine exists_congr fun file => and_congr_right fun _ => ?_
  cases readText t file with
  | error f => simp
  | ok content =>
    by_cases hname : k.name file content = some user <;> simp [hname]

/-- The children of a component are what its files use, each once, without what is no component and
without itself. -/
theorem children_sources (user : String) :
    (Graph.ofSources (k.sources t files)).children user =
      if (Graph.nodesOf (k.sources t files)).any (·.name == user) then
        (k.usesOf t files user).eraseDups.filter fun used =>
          (Graph.nodesOf (k.sources t files)).any (·.name == used) && used != user
      else [] := by
  have hone (file : Path) : ((k.source? t file).map (Graph.usesAs user)).getD [] =
      match readText t file with
      | .error _ => []
      | .ok content => if k.name file content = some user then k.uses file content else [] := by
    unfold source?
    cases readText t file <;> rfl
  have huses : ((k.sources t files).flatMap (Graph.usesAs user)).eraseDups =
      (k.usesOf t files user).eraseDups := by
    rw [sources, flatMap_filterMap, eraseDups_flatMap_eraseDups, funext hone]
    rfl
  rw [Graph.children_ofSources, huses]

theorem mem_children_iff {user used : String} :
    used ∈ (Graph.ofSources (k.sources t files)).children user ↔
      ∃ file ∈ files, k.Uses t files file user used := by
  rw [children_sources]
  constructor
  · intro h
    split at h
    · next hu =>
      obtain ⟨hm, hc⟩ := List.mem_filter.1 h
      rw [Bool.and_eq_true, bne_iff_ne] at hc
      obtain ⟨file, hfile, content, hread, hname, huses⟩ := mem_usesOf.1 (List.mem_eraseDups.1 hm)
      exact ⟨file, hfile, known_iff.1 hu, known_iff.1 hc.1, hc.2, content, hread, hname, huses⟩
    · cases h
  · rintro ⟨file, hfile, huser, hused, hne, content, hread, hname, huses⟩
    rw [if_pos (known_iff.2 huser), List.mem_filter, List.mem_eraseDups, mem_usesOf,
      Bool.and_eq_true, bne_iff_ne]
    exact ⟨⟨file, hfile, content, hread, hname, huses⟩, known_iff.2 hused, hne⟩

theorem children_sublist (user : String) :
    ((Graph.ofSources (k.sources t files)).children user).Sublist
      (k.usesOf t files user).eraseDups := by
  rw [children_sources]
  split
  · exact List.filter_sublist
  · exact List.nil_sublist _

theorem userIn?_eq_some {file : Path} {user used : String} :
    (k.source? t file).bind (Graph.userIn?
        (fun n => (Graph.nodesOf (k.sources t files)).any (·.name == n)) used) = some user ↔
      k.Uses t files file user used := by
  unfold Graph.userIn? Uses
  simp only [Option.bind_eq_some_iff, source?_eq_some, Option.filter_eq_some_iff, Bool.and_eq_true,
    bne_iff_ne, List.contains_iff_mem, known_iff]
  constructor
  · rintro ⟨s, ⟨content, hread, rfl⟩, hname, ⟨⟨huser, hused⟩, hne⟩, huses⟩
    exact ⟨huser, hused, hne, content, hread, hname, huses⟩
  · rintro ⟨huser, hused, hne, content, hread, hname, huses⟩
    exact ⟨_, ⟨content, hread, rfl⟩, hname, ⟨⟨huser, hused⟩, hne⟩, huses⟩

theorem userIn?_eq_none {file : Path} {used : String} :
    (k.source? t file).bind (Graph.userIn?
        (fun n => (Graph.nodesOf (k.sources t files)).any (·.name == n)) used) = none ↔
      ∀ user, ¬ k.Uses t files file user used := by
  rw [Option.eq_none_iff_forall_ne_some]
  exact forall_congr' fun user => not_congr userIn?_eq_some

theorem parent_eq_some_iff {user used : String} :
    (Graph.ofSources (k.sources t files)).parent used = some user ↔
      ∃ file, IsFirst (fun file => ∃ user, k.Uses t files file user used) files file ∧
        k.Uses t files file user used := by
  rw [Graph.parent_ofSources, findSome?_sources, List.findSome?_eq_some_iff]
  simp only [userIn?_eq_some, userIn?_eq_none]
  constructor
  · rintro ⟨before, file, after, hfiles, huses, hbefore⟩
    exact ⟨file, ⟨before, after, hfiles, ⟨user, huses⟩, fun b hb ⟨u, hu⟩ => hbefore b hb u hu⟩,
      huses⟩
  · rintro ⟨file, ⟨before, after, hfiles, -, hbefore⟩, huses⟩
    exact ⟨before, file, after, hfiles, huses, fun b hb u hu => hbefore b hb ⟨u, hu⟩⟩

theorem parent_eq_none_iff {used : String} :
    (Graph.ofSources (k.sources t files)).parent used = none ↔
      ∀ file ∈ files, ∀ user, ¬ k.Uses t files file user used := by
  rw [Graph.parent_ofSources, findSome?_sources, List.findSome?_eq_none_iff]
  simp only [userIn?_eq_none]

end Telling

open Telling in
theorem Graph.isUsageOf_sources (k : Telling) (t : Tree) (files : List Path) :
    (ofSources (k.sources t files)).IsUsageOf k t files where
  once := nodup_nodesOf _
  known name := by
    rw [← known_iff, List.any_eq_true]
    simp only [beq_iff_eq]
    rfl
  node _ := mem_nodes_iff
  ordered := nodes_ordered
  child _ _ := mem_children_iff
  childOnce user := (nodup_eraseDups _).sublist (children_sublist user)
  firstUse user := (pairwise_eraseDups _).sublist (children_sublist user)
  parent _ _ := parent_eq_some_iff
  alone _ := parent_eq_none_iff
  root n := by
    rw [roots, List.mem_filter, Option.isNone_iff_eq_none]
  rootsOrdered := List.filter_sublist

/-- The graph of files is the usage relation of all that is told of them, in whichever way; and a
framework's hierarchies are those of the roots of such a graph, in the order of its components. -/
theorem hierarchies_show_usage (t : Tree) (files : List Path) :
    (∀ k : Telling, (Graph.ofSources (k.sources t files)).IsUsageOf k t files) ∧
    ∀ f : Framework, ∃ g : Graph, g.IsUsageOf (.ofFramework t files f) t files ∧
      hierarchies f t files =
        g.roots.map fun r => { framework := f, graph := g, root := r.name } := by
  refine ⟨fun k => Graph.isUsageOf_sources k t files, fun f => ?_⟩
  refine ⟨_, Graph.isUsageOf_sources (.ofFramework t files f) t files, ?_⟩
  rw [← Telling.sourcesOf_eq]
  rfl

end Restyle.Component
