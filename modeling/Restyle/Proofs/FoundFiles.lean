import Mathlib.Data.List.Infix
import Mathlib.Data.List.Lex
import Mathlib.Data.List.Nodup
import Restyle.Proofs.DerailedDetection
import Restyle.Proofs.ManifestShape
import Restyle.Proofs.ScannedLines

/-!
Which files a scan finds. Directories are gone through one by one, and what is left out hides all
that lies below it; that comes to the files whose names alone say that they are taken, as far as
their directories can be read. Each is found once, in the order of the lists of names, since each
directory is gone through in the order of its names. Nothing is found at all where a directory that
the scan gets to lies as far down as calls may nest.
-/
namespace Restyle

namespace Path

theorem namePrecedes_iff {a b : String} :
    namePrecedes a b = true ↔ List.Lex (· < ·) (Text.codes a.toList) (Text.codes b.toList) := by
  unfold namePrecedes
  rw [List.lex_eq_true_iff_lex]
  simp only [decide_eq_true_eq]

theorem namePrecedes_asymm {a b : String} (h : namePrecedes a b = true) :
    namePrecedes b a = false := by
  rw [namePrecedes_iff] at h
  rw [Bool.eq_false_iff, ne_eq, namePrecedes_iff]
  exact List.lex_asymm Nat.lt_asymm h

/-- Of two names in their order a third one comes behind the first or before the second. -/
theorem namePrecedes_or {a c : String} (h : namePrecedes a c = true) (b : String) :
    namePrecedes a b = true ∨ namePrecedes b c = true := by
  simp only [namePrecedes_iff] at h ⊢
  exact (List.Lex.isOrderConnected (· < ·)).conn _ _ _ h

/-- Different names come one before the other. -/
theorem eq_of_not_namePrecedes {a b : String} (h : namePrecedes a b = false)
    (h' : namePrecedes b a = false) : a = b := by
  rw [Bool.eq_false_iff, ne_eq, namePrecedes_iff] at h h'
  have hcodes := (List.Lex.trichotomous (· < ·)).trichotomous _ _ h h'
  have htext := congrArg (List.flatMap Text.ofCode) hcodes
  rw [Text.flatMap_ofCode_codes, Text.flatMap_ofCode_codes] at htext
  exact String.toList_injective htext

theorem name_cons {p : Path} (hp : p ≠ []) (n : String) : Path.name (n :: p) = p.name := by
  cases p with
  | nil => exact absurd rfl hp
  | cons m p => rfl

end Path

namespace Tree

/-- Whatever lies in the tree lies at a place, and at each place lies one thing. -/
structure IsCatalog (t : Tree) : Prop where
  proper : t.IsProper
  once : (t.entries.map (·.1)).Nodup

/-- Whether a root is a directory below which names lead to a node. -/
def Has (t : Tree) (root rel : Path) (node : Node) : Prop :=
  ∃ q, t.find root = .ok (q, some .directory) ∧ t.node? (q ++ rel) = some node

/-- Whether a root is a directory below which names lead to a file. -/
def HasFile (t : Tree) (root rel : Path) : Prop := ∃ bytes, t.Has root rel (.file bytes)

variable {t : Tree} {dir q p : Path}

theorem Has.ne_nil {root rel : Path} {bytes : ByteArray} (h : t.Has root rel (.file bytes)) :
    rel ≠ [] := by
  rintro rfl
  obtain ⟨r, hr, hfile⟩ := h
  rw [List.append_nil, node?_of_find hr] at hfile
  cases hfile

/-! ### Directories -/

theorem length_le_depth (h : t.node? p ≠ none) : p.length ≤ t.depth := by
  have largest (l : List Nat) (a : Nat) : a ≤ l.foldl max a ∧ ∀ x ∈ l, x ≤ l.foldl max a := by
    induction l generalizing a with
    | nil => simp
    | cons b l ih =>
      obtain ⟨hstart, hrest⟩ := ih (max a b)
      rw [List.foldl_cons]
      refine ⟨by omega, ?_⟩
      intro x hx
      rcases List.mem_cons.1 hx with rfl | hx
      · omega
      · exact hrest x hx
  by_cases hp : p = []
  · simp [hp]
  · rw [node?, if_neg hp] at h
    obtain ⟨n, hn⟩ := Option.ne_none_iff_exists'.1 h
    refine (largest _ 0).2 p.length ?_
    exact List.mem_map.2 ⟨(p, n), mem_of_lookup hn, rfl⟩

/-- No name is in a directory twice. -/
theorem nodup_names (ht : t.IsCatalog) (q : Path) : (t.namesIn q).Nodup := by
  have hlast (p : Path) (n : String) :
      n ∈ (if p.dropLast = q then p.getLast? else none) ↔ p = q ++ [n] := by
    split
    · next h =>
      subst h
      rw [Option.mem_def, List.getLast?_eq_some_iff]
      constructor
      · rintro ⟨before, rfl⟩
        rw [List.dropLast_concat]
      · intro h
        exact ⟨_, h⟩
    · next h =>
      simp only [Option.not_mem_none, false_iff]
      rintro rfl
      rw [List.dropLast_concat] at h
      exact h rfl
  have hnodup : ((t.entries.map (·.1)).filterMap fun p =>
      if p.dropLast = q then p.getLast? else none).Nodup := by
    refine ht.once.filterMap ?_
    intro p p' n hn hn'
    rw [hlast] at hn hn'
    rw [hn, hn']
  rw [List.filterMap_map] at hnodup
  exact (List.mergeSort_perm _ _).nodup_iff.2 hnodup

/-- The names of a directory come in their order. -/
theorem pairwise_namesIn (ht : t.IsCatalog) (q : Path) :
    (t.namesIn q).Pairwise fun m n => Path.namePrecedes m n = true := by
  have hsorted : (t.namesIn q).Pairwise fun m n => (!Path.namePrecedes n m) = true := by
    unfold namesIn
    refine List.pairwise_mergeSort ?_ ?_ _
    · intro a b c hab hbc
      simp only [Bool.not_eq_true'] at hab hbc ⊢
      cases hca : Path.namePrecedes c a with
      | false => rfl
      | true =>
        rcases Path.namePrecedes_or hca b with h | h
        · rw [h] at hbc
          cases hbc
        · rw [h] at hab
          cases hab
    · intro a b
      cases h : Path.namePrecedes b a with
      | false => rfl
      | true => simp [Path.namePrecedes_asymm h]
  refine (hsorted.and (nodup_names ht q)).imp ?_
  rintro m n ⟨hle, hne⟩
  rw [Bool.not_eq_true'] at hle
  cases h : Path.namePrecedes m n with
  | true => rfl
  | false => exact absurd (Path.eq_of_not_namePrecedes h hle) hne

theorem mem_list?_iff {name : String} {node : Node} :
    (name, node) ∈ (t.list? dir).getD [] ↔
      ∃ q, t.find dir = .ok (q, some .directory) ∧ t.node? (q ++ [name]) = some node := by
  constructor
  · intro h
    unfold list? at h
    split at h
    · next q hq =>
      obtain ⟨n, -, hn⟩ := List.mem_filterMap.1 h
      obtain ⟨node', hnode, he⟩ := Option.map_eq_some_iff.1 hn
      obtain ⟨rfl, rfl⟩ := Prod.mk.inj he
      exact ⟨q, hq, hnode⟩
    · cases h
  · rintro ⟨q, hq, hnode⟩
    exact mem_list? hq hnode

theorem pairwise_list? (ht : t.IsCatalog) (dir : Path) :
    ((t.list? dir).getD []).Pairwise fun x y => Path.namePrecedes x.1 y.1 = true := by
  unfold list?
  split
  · next q _ =>
    refine (pairwise_namesIn ht q).filterMap _ ?_
    intro m n hlt x hx y hy
    obtain ⟨_, -, rfl⟩ := Option.map_eq_some_iff.1 hx
    obtain ⟨_, -, rfl⟩ := Option.map_eq_some_iff.1 hy
    exact hlt
  · exact .nil

/-! ### Going down -/

/-- Whether a node is met when directories are listed one after the other, from a first one down. -/
inductive Shows (t : Tree) (node : Node) : Path → Path → Prop
  | here {dir : Path} {name : String} (listed : (name, node) ∈ (t.list? dir).getD []) :
      Shows t node dir [name]
  | inside {dir rel : Path} {name : String}
      (listed : (name, .directory) ∈ (t.list? dir).getD [])
      (below : Shows t node (dir ++ [name]) rel) : Shows t node dir (name :: rel)

variable {node : Node}

theorem Shows.ne_nil {rel : Path} (h : t.Shows node dir rel) : rel ≠ [] := by
  cases h <;> exact List.cons_ne_nil _ _

theorem Shows.has {rel : Path} (ht : t.IsProper) (h : t.Shows node dir rel) :
    t.Has dir rel node ∧ t.isDirectory (dir ++ rel.dropLast) = true := by
  induction h with
  | @here dir name listed =>
    obtain ⟨q, hq, hnode⟩ := mem_list?_iff.1 listed
    refine ⟨⟨q, hq, hnode⟩, ?_⟩
    rw [List.dropLast_singleton, List.append_nil, isDirectory, hq]
  | @inside dir rel name listed below ih =>
    obtain ⟨⟨q', hq', hnode⟩, hread⟩ := ih
    obtain ⟨q, hq, -⟩ := mem_list?_iff.1 listed
    have hplace := isPlace_of_mem_list? ht listed
    have hsame : q' = q ++ [name] := by
      rw [(find_eq hq').1, (find_eq hq).1, Path.resolve_append_of_isPlace dir hplace]
    refine ⟨⟨q, hq, ?_⟩, ?_⟩
    · rw [← hnode, hsame, List.append_assoc, List.singleton_append]
    · rw [List.dropLast_cons_of_ne_nil below.ne_nil]
      rwa [List.append_assoc, List.singleton_append] at hread

/-- What lies above something that is found can be listed. -/
theorem exists_find_above {below : Path} {n? : Option Node}
    (h : t.find (dir ++ below) = .ok (q, n?)) (hbelow : below ≠ []) :
    ∃ r, t.find dir = .ok (r, some .directory) := by
  induction below using List.reverseRecOn generalizing q n? with
  | nil => exact absurd rfl hbelow
  | append_singleton below n ih =>
    rw [← List.append_assoc] at h
    obtain ⟨r, hr⟩ := find_above h
    by_cases hnil : below = []
    · rw [hnil, List.append_nil] at hr
      exact ⟨r, hr⟩
    · exact ih hr hnil

/-- A node is met exactly when it lies there and its directory can be read. -/
theorem shows_iff {rel : Path} (ht : t.IsProper) (hrel : rel ≠ []) :
    t.Shows node dir rel ↔ t.Has dir rel node ∧ t.isDirectory (dir ++ rel.dropLast) = true := by
  constructor
  · intro h
    exact h.has ht
  · rintro ⟨⟨q, hq, hfile⟩, hread⟩
    induction rel generalizing dir q with
    | nil => exact absurd rfl hrel
    | cons name rel ih =>
      cases rel with
      | nil => exact .here (mem_list?_iff.2 ⟨q, hq, hfile⟩)
      | cons m rel =>
        have hplace : Path.IsPlace [name] := by
          intro n hn
          have hmem : n ∈ q ++ name :: m :: rel := by simp [List.mem_singleton.1 hn]
          exact ht (q ++ name :: m :: rel) (by simp [hfile]) n hmem
        have hsplit : dir ++ (name :: m :: rel).dropLast =
            (dir ++ [name]) ++ (m :: rel).dropLast := by simp
        rw [hsplit] at hread
        have hbelow : ∃ r, t.find (dir ++ [name]) = .ok (r, some .directory) := by
          have hfind := isDirectory_iff.1 hread
          by_cases hnil : (m :: rel).dropLast = []
          · rw [hnil, List.append_nil] at hfind
            exact ⟨_, hfind⟩
          · exact exists_find_above hfind hnil
        obtain ⟨r, hr⟩ := hbelow
        have hsame : r = q ++ [name] := by
          rw [(find_eq hr).1, (find_eq hq).1, Path.resolve_append_of_isPlace dir hplace]
        have hnode : t.node? (q ++ [name]) = some .directory := hsame ▸ node?_of_find hr
        refine .inside (mem_list?_iff.2 ⟨q, hq, hnode⟩) (ih (List.cons_ne_nil _ _) hread r hr ?_)
        rw [hsame, List.append_assoc, List.singleton_append]
        exact hfile

end Tree

namespace Scan

/-- Whether a scan gets to what names lead to from a directory, told from the names alone. The
directory lies `depth` directories down, at `below`. -/
structure ReachesFrom (s : Scan) (depth : Nat) (below rel : Path) : Prop where
  near : s.limit.admits (depth + (rel.length - 1)) = true
  kept : ∀ way : Path, way <+: rel → way ≠ [] → ∀ pattern ∈ s.excludes,
    Glob.selects (Path.slashed (below ++ way)) way.name pattern = false

/-- Whether it takes what it gets to there. -/
structure TakesFrom (s : Scan) (includes : List String) (depth : Nat) (below rel : Path) : Prop
    extends ReachesFrom s depth below rel where
  wanted : ∃ pattern ∈ includes, Glob.selects (Path.slashed (below ++ rel)) rel.name pattern = true

/-- Whether a scan gets to what names lead to, told from the names below the root alone: it lies no
deeper than the limit, and neither it nor a directory on the way to it is left out, by the scan or
by the caller. -/
structure Reaches (s : Scan) (more : List String) (rel : Path) : Prop where
  near : s.limit.admits (rel.length - 1) = true
  kept : ∀ way : Path, way <+: rel → way ≠ [] → ∀ pattern, pattern ∈ s.excludes ∨ pattern ∈ more →
    Glob.selects (Path.slashed way) way.name pattern = false

/-- Whether a file is taken, told from the names below the root alone: the scan gets to it, and it
is asked for. -/
structure Takes (s : Scan) (more includes : List String) (rel : Path) : Prop
    extends Reaches s more rel where
  wanted : ∃ pattern ∈ includes, Glob.selects (Path.slashed rel) rel.name pattern = true

/-- Whether a scan gets to a directory as far down as calls may nest. -/
def IsTooDeep (s : Scan) (more : List String) (t : Tree) (root : Path) : Prop :=
  ∃ rel : Path, rel.length = maxCalls ∧ t.Has root rel .directory ∧
    t.isDirectory (root ++ rel.dropLast) = true ∧ s.Reaches more rel

variable {s : Scan} {includes : List String} {t : Tree} {root below : Path} {depth : Nat}

theorem admits_of_le {limit : DepthLimit} {m n : Nat} (h : limit.admits n = true) (hle : m ≤ n) :
    limit.admits m = true := by
  cases limit with
  | atMost k =>
    simp only [DepthLimit.admits, decide_eq_true_eq] at h ⊢
    omega
  | unlimited => rfl

theorem selectedBy_eq_false {patterns : List String} {path name : String} :
    selectedBy patterns path name = false ↔
      ∀ pattern ∈ patterns, Glob.selects path name pattern = false := by
  simp [selectedBy]

theorem reachesFrom_singleton {name : String} :
    s.ReachesFrom depth below [name] ↔ s.limit.admits depth = true ∧
      selectedBy s.excludes (Path.slashed (below ++ [name])) name = false := by
  rw [selectedBy_eq_false]
  constructor
  · intro h
    exact ⟨h.near, h.kept [name] (List.prefix_refl _) (List.cons_ne_nil _ _)⟩
  · rintro ⟨hnear, hkept⟩
    refine ⟨hnear, ?_⟩
    intro way hway hne
    rcases List.prefix_cons_iff.1 hway with rfl | ⟨way', rfl, hway'⟩
    · exact absurd rfl hne
    · obtain rfl := List.prefix_nil.1 hway'
      exact hkept

/-- What lies in a directory is reached if the directory is kept and it is reached from there. -/
theorem reachesFrom_cons {name : String} {rel : Path} (hrel : rel ≠ []) :
    s.ReachesFrom depth below (name :: rel) ↔
      selectedBy s.excludes (Path.slashed (below ++ [name])) name = false ∧
        s.ReachesFrom (depth + 1) (below ++ [name]) rel := by
  have happend (way : Path) : below ++ [name] ++ way = below ++ name :: way := by simp
  have hlength : depth + ((name :: rel).length - 1) = depth + 1 + (rel.length - 1) := by
    have := List.length_pos_of_ne_nil hrel
    rw [List.length_cons]
    omega
  rw [selectedBy_eq_false]
  constructor
  · intro h
    refine ⟨h.kept [name] ⟨rel, rfl⟩ (List.cons_ne_nil _ _), ?_, ?_⟩
    · rw [← hlength]
      exact h.near
    · intro way hway hne
      rw [happend, ← Path.name_cons hne name]
      exact h.kept (name :: way) ((List.prefix_cons_inj name).2 hway) (List.cons_ne_nil _ _)
  · rintro ⟨hkept, h⟩
    refine ⟨?_, ?_⟩
    · rw [hlength]
      exact h.near
    · intro way hway hne
      rcases List.prefix_cons_iff.1 hway with rfl | ⟨way', rfl, hway'⟩
      · exact absurd rfl hne
      · by_cases hnil : way' = []
        · subst hnil
          exact hkept
        · rw [← happend, Path.name_cons hnil]
          exact h.kept way' hway' hnil

theorem takesFrom_singleton {name : String} :
    s.TakesFrom includes depth below [name] ↔ s.ReachesFrom depth below [name] ∧
      selectedBy includes (Path.slashed (below ++ [name])) name = true := by
  rw [selectedBy, List.any_eq_true]
  exact ⟨fun h => ⟨h.toReachesFrom, h.wanted⟩, fun ⟨hreaches, hwanted⟩ => ⟨hreaches, hwanted⟩⟩

/-- What lies in a directory is taken if the directory is kept and it is taken from there. -/
theorem takesFrom_cons {name : String} {rel : Path} (hrel : rel ≠ []) :
    s.TakesFrom includes depth below (name :: rel) ↔
      selectedBy s.excludes (Path.slashed (below ++ [name])) name = false ∧
        s.TakesFrom includes (depth + 1) (below ++ [name]) rel := by
  have happend : below ++ [name] ++ rel = below ++ name :: rel := by simp
  constructor
  · intro h
    obtain ⟨hkept, hreaches⟩ := (reachesFrom_cons hrel).1 h.toReachesFrom
    refine ⟨hkept, hreaches, ?_⟩
    rw [happend, ← Path.name_cons hrel name]
    exact h.wanted
  · rintro ⟨hkept, h⟩
    refine ⟨(reachesFrom_cons hrel).2 ⟨hkept, h.toReachesFrom⟩, ?_⟩
    rw [← happend, Path.name_cons hrel]
    exact h.wanted

variable {found : List Path} {room : Nat}

theorem filesAt_directory {inside : Path → Except Fault (List Path)} {name : String}
    (hkept : selectedBy s.excludes (Path.slashed (below ++ [name])) name = false) :
    s.filesAt includes root below inside (name, .directory) = inside (below ++ [name]) := by
  simp [filesAt, hkept]

/-- Where the files below a directory are found, so they are in the directories in it that are
kept. -/
theorem inside_of_filesFrom (h : s.filesFrom includes t root (room + 1) depth below = .ok found)
    (hnear : s.limit.admits depth = true) {name : String}
    (listed : (name, .directory) ∈ (t.list? (root ++ below)).getD [])
    (hkept : selectedBy s.excludes (Path.slashed (below ++ [name])) name = false) :
    ∃ part, s.filesFrom includes t root room (depth + 1) (below ++ [name]) = .ok part := by
  obtain ⟨part, hpart⟩ := (entries_of_filesFrom hnear h).1 _ listed
  rw [filesAt_directory hkept] at hpart
  exact ⟨part, hpart⟩

/-- The recursion through the directories finds the files that are met and taken. -/
theorem mem_filesFrom {p : Path} (h : s.filesFrom includes t root room depth below = .ok found) :
    p ∈ found ↔ ∃ rel bytes, p = root ++ (below ++ rel) ∧
      t.Shows (.file bytes) (root ++ below) rel ∧ s.TakesFrom includes depth below rel := by
  induction room generalizing depth below found with
  | zero => cases h
  | succ room ih =>
    have happend (name : String) (rel : Path) : below ++ [name] ++ rel = below ++ name :: rel := by
      simp
    have hdir (name : String) : root ++ (below ++ [name]) = root ++ below ++ [name] := by simp
    rw [mem_of_filesFrom h]
    constructor
    · rintro ⟨hnear, ⟨name, node⟩, hlisted, part, hpart, hp⟩
      unfold filesAt at hpart
      dsimp only at hpart
      split at hpart
      · cases hpart
        cases hp
      · next hkept =>
        rw [Bool.not_eq_true] at hkept
        cases node with
        | directory =>
          obtain ⟨rel, bytes, rfl, hshows, htakes⟩ := (ih hpart).1 hp
          refine ⟨name :: rel, bytes, ?_, ?_, ?_⟩
          · rw [happend]
          · rw [hdir] at hshows
            exact .inside hlisted hshows
          · exact (takesFrom_cons hshows.ne_nil).2 ⟨hkept, htakes⟩
        | file bytes =>
          cases hpart
          split at hp
          · next hwanted =>
            refine ⟨[name], bytes, List.mem_singleton.1 hp, .here hlisted, ?_⟩
            exact takesFrom_singleton.2 ⟨reachesFrom_singleton.2 ⟨hnear, hkept⟩, hwanted⟩
          · cases hp
    · rintro ⟨rel, bytes, rfl, hshows, htakes⟩
      have hnear := admits_of_le htakes.near (Nat.le_add_right _ _)
      refine ⟨hnear, ?_⟩
      cases hshows with
      | @here _ name listed =>
        obtain ⟨hreaches, hwanted⟩ := takesFrom_singleton.1 htakes
        have hkept := (reachesFrom_singleton.1 hreaches).2
        refine ⟨(name, .file bytes), listed, [root ++ (below ++ [name])], ?_,
          List.mem_singleton_self _⟩
        simp [filesAt, hkept, hwanted]
      | @inside _ rel name listed inner =>
        obtain ⟨hkept, htakes⟩ := (takesFrom_cons inner.ne_nil).1 htakes
        obtain ⟨part, hpart⟩ := inside_of_filesFrom h hnear listed hkept
        refine ⟨(name, .directory), listed, part, (filesAt_directory hkept).trans hpart, ?_⟩
        rw [← hdir] at inner
        exact (ih hpart).2 ⟨rel, bytes, by rw [happend], inner, htakes⟩

/-- Where the recursion fails it has got to a directory for which there is no room. -/
theorem fault_of_filesFrom {f : Fault}
    (h : s.filesFrom includes t root room depth below = .error f) :
    f = .callsTooDeep ∧ (room = 0 ∨ ∃ rel, rel.length = room ∧
      t.Shows .directory (root ++ below) rel ∧ s.ReachesFrom depth below rel) := by
  induction room generalizing depth below with
  | zero =>
    cases h
    exact ⟨rfl, .inl rfl⟩
  | succ room ih =>
    by_cases hnear : s.limit.admits depth = true
    · have hfails : ∃ entry ∈ (t.list? (root ++ below)).getD [], s.filesAt includes root below
          (s.filesFrom includes t root room (depth + 1)) entry = .error f := by
        rw [filesFrom, if_pos hnear] at h
        obtain ⟨before, entry, rest, hsplit, -, hentry⟩ := mapM_eq_error.1 (map_eq_error.1 h)
        exact ⟨entry, by simp [hsplit], hentry⟩
      obtain ⟨⟨name, node⟩, hlisted, hentry⟩ := hfails
      unfold filesAt at hentry
      dsimp only at hentry
      split at hentry
      · cases hentry
      · next hkept =>
        rw [Bool.not_eq_true] at hkept
        cases node with
        | file bytes => cases hentry
        | directory =>
          obtain ⟨hf, hroom⟩ := ih hentry
          refine ⟨hf, .inr ?_⟩
          rcases hroom with rfl | ⟨rel, hlength, hshows, hreaches⟩
          · exact ⟨[name], rfl, .here hlisted, reachesFrom_singleton.2 ⟨hnear, hkept⟩⟩
          · rw [← List.append_assoc] at hshows
            exact ⟨name :: rel, by rw [List.length_cons, hlength], .inside hlisted hshows,
              (reachesFrom_cons hshows.ne_nil).2 ⟨hkept, hreaches⟩⟩
    · rw [filesFrom_far hnear] at h
      cases h

/-- And it does fail where it gets to such a directory. -/
theorem filesFrom_ne_ok {rel : Path} (hlength : rel.length = room)
    (hshows : t.Shows .directory (root ++ below) rel) (hreaches : s.ReachesFrom depth below rel) :
    s.filesFrom includes t root room depth below ≠ .ok found := by
  intro h
  induction room generalizing depth below found rel with
  | zero => cases h
  | succ room ih =>
    have hnear := admits_of_le hreaches.near (Nat.le_add_right _ _)
    cases hshows with
    | @here _ name listed =>
      obtain rfl : room = 0 := by simpa using hlength.symm
      obtain ⟨part, hpart⟩ :=
        inside_of_filesFrom h hnear listed (reachesFrom_singleton.1 hreaches).2
      cases hpart
    | @inside _ rel name listed inner =>
      obtain ⟨hkept, hreaches⟩ := (reachesFrom_cons inner.ne_nil).1 hreaches
      obtain ⟨part, hpart⟩ := inside_of_filesFrom h hnear listed hkept
      rw [List.append_assoc] at inner
      exact ih (by simpa using hlength) inner hreaches hpart

/-- Paths are in the order of their lists of names if, behind names that all have, they are put
together by a next name, and these names come in their order. -/
theorem pairwise_flatMap_names {l : List (String × Node)} {f : String × Node → List Path}
    (before : Path) (hl : l.Pairwise fun x y => Path.namePrecedes x.1 y.1 = true)
    (hnext : ∀ x, ∀ p ∈ f x, ∃ rest, p = before ++ x.1 :: rest)
    (hinner : ∀ x ∈ l, (f x).Pairwise (List.Lex fun m n => Path.namePrecedes m n = true)) :
    (l.flatMap f).Pairwise (List.Lex fun m n => Path.namePrecedes m n = true) := by
  rw [List.pairwise_flatMap]
  refine ⟨hinner, hl.imp ?_⟩
  intro x y hlt p hp q hq
  obtain ⟨rest, rfl⟩ := hnext x p hp
  obtain ⟨rest', rfl⟩ := hnext y q hq
  have hrest : List.Lex (fun m n => Path.namePrecedes m n = true) (x.1 :: rest) (y.1 :: rest') :=
    .rel hlt
  exact List.Lex.append_left _ hrest before

/-- Files come in the order of their lists of names. -/
theorem pairwise_filesFrom (ht : t.IsCatalog)
    (h : s.filesFrom includes t root room depth below = .ok found) :
    found.Pairwise (List.Lex fun m n => Path.namePrecedes m n = true) := by
  induction room generalizing depth below found with
  | zero => cases h
  | succ room ih =>
    by_cases hnear : s.limit.admits depth = true
    · rw [(entries_of_filesFrom hnear h).2]
      refine pairwise_flatMap_names (root ++ below) (Tree.pairwise_list? ht _) ?_ ?_
      · rintro ⟨name, node⟩ p hp
        obtain ⟨part, hpart, hmem⟩ := mem_toOption_getD.1 hp
        unfold filesAt at hpart
        dsimp only at hpart ⊢
        split at hpart
        · cases hpart
          cases hmem
        · cases node with
          | directory =>
            obtain ⟨rel, bytes, rfl, -⟩ := (mem_filesFrom hpart).1 hmem
            exact ⟨rel, by simp⟩
          | file bytes =>
            cases hpart
            split at hmem
            · exact ⟨[], by simp [List.mem_singleton.1 hmem]⟩
            · cases hmem
      · rintro ⟨name, node⟩ hlisted
        obtain ⟨part, hpart⟩ := (entries_of_filesFrom hnear h).1 _ hlisted
        rw [hpart]
        unfold filesAt at hpart
        dsimp only at hpart
        split at hpart
        · cases hpart
          exact .nil
        · cases node with
          | directory => exact ih hpart
          | file bytes =>
            cases hpart
            show List.Pairwise _ (if _ then _ else _)
            split
            · exact List.pairwise_singleton _ _
            · exact .nil
    · rw [filesFrom_far hnear] at h
      cases h
      exact .nil

theorem mem_files {p : Path} (ht : t.IsProper) (h : s.files includes t root = .ok found) :
    p ∈ found ↔ ∃ rel, p = root ++ rel ∧ t.HasFile root rel ∧
      t.isDirectory (root ++ rel.dropLast) = true ∧ s.TakesFrom includes 0 [] rel := by
  rw [mem_filesFrom h]
  simp only [List.nil_append, List.append_nil]
  constructor
  · rintro ⟨rel, bytes, rfl, hshows, htakes⟩
    obtain ⟨hfile, hread⟩ := hshows.has ht
    exact ⟨rel, rfl, ⟨bytes, hfile⟩, hread, htakes⟩
  · rintro ⟨rel, rfl, ⟨bytes, hfile⟩, hread, htakes⟩
    exact ⟨rel, bytes, rfl, (Tree.shows_iff ht (Tree.Has.ne_nil hfile)).2 ⟨hfile, hread⟩, htakes⟩

theorem nodup_files (ht : t.IsCatalog) (h : s.files includes t root = .ok found) :
    found.Nodup := by
  refine (pairwise_filesFrom ht h).imp ?_
  rintro p q hlt rfl
  refine List.lex_asymm ?_ hlt hlt
  intro m n h h'
  rw [Path.namePrecedes_asymm h] at h'
  cases h'

theorem reaches_iff {more : List String} {rel : Path} :
    s.Reaches more rel ↔
      ({ s with excludes := s.excludes ++ more } : Scan).ReachesFrom 0 [] rel := by
  constructor
  · intro h
    refine ⟨by simpa using h.near, ?_⟩
    intro way hway hne pattern hpattern
    exact h.kept way hway hne pattern (List.mem_append.1 hpattern)
  · intro h
    refine ⟨by simpa using h.near, ?_⟩
    intro way hway hne pattern hpattern
    exact h.kept way hway hne pattern (List.mem_append.2 hpattern)

theorem takes_iff {more : List String} {rel : Path} :
    s.Takes more includes rel ↔
      ({ s with excludes := s.excludes ++ more } : Scan).TakesFrom includes 0 [] rel := by
  constructor
  · intro h
    exact ⟨reaches_iff.1 h.toReaches, h.wanted⟩
  · intro h
    exact ⟨reaches_iff.2 h.toReachesFrom, h.wanted⟩

/-- A scan fails exactly where it gets to a directory as far down as calls may nest. -/
theorem filesBut_eq_error {more : List String} {f : Fault} (ht : t.IsProper) :
    s.filesBut more includes t root = .error f ↔ f = .callsTooDeep ∧ s.IsTooDeep more t root := by
  have hdeep : s.IsTooDeep more t root ↔ ∃ rel, rel.length = maxCalls ∧
      t.Shows .directory (root ++ []) rel ∧
      ({ s with excludes := s.excludes ++ more } : Scan).ReachesFrom 0 [] rel := by
    unfold IsTooDeep
    simp only [List.append_nil, ← reaches_iff]
    refine exists_congr fun rel => and_congr_right fun hlength => ?_
    have hrel : rel ≠ [] := by
      rintro rfl
      cases hlength
    rw [Tree.shows_iff ht hrel, and_assoc]
  rw [hdeep]
  constructor
  · intro h
    obtain ⟨hf, hroom⟩ := fault_of_filesFrom h
    exact ⟨hf, hroom.resolve_left (by decide)⟩
  · rintro ⟨rfl, rel, hlength, hshows, hreaches⟩
    rcases hr : s.filesBut more includes t root with g | found
    · exact congrArg _ (fault_of_filesFrom hr).1
    · exact absurd hr (filesFrom_ne_ok hlength hshows hreaches)

/-- In a tree of fewer levels no scan gets so deep. -/
theorem not_isTooDeep {more : List String} (h : t.depth < maxCalls) :
    ¬ s.IsTooDeep more t root := by
  rintro ⟨rel, hlength, ⟨q, -, hnode⟩, -⟩
  have hle := Tree.length_le_depth (by simp [hnode] : t.node? (q ++ rel) ≠ none)
  rw [List.length_append] at hle
  omega

instance (s : Scan) (more includes : List String) (rel : Path) :
    Decidable (s.Takes more includes rel) :=
  decidable_of_iff
    (s.limit.admits (rel.length - 1) = true ∧
      (∀ way ∈ rel.inits, way ≠ [] → ∀ pattern ∈ s.excludes ++ more,
        Glob.selects (Path.slashed way) (Path.name way) pattern = false) ∧
      ∃ pattern ∈ includes, Glob.selects (Path.slashed rel) rel.name pattern = true) <| by
    constructor
    · rintro ⟨hnear, hkept, hwanted⟩
      refine ⟨⟨hnear, ?_⟩, hwanted⟩
      intro way hway hne pattern hpattern
      exact hkept way ((List.mem_inits _ _).2 hway) hne pattern (List.mem_append.2 hpattern)
    · intro h
      refine ⟨h.near, ?_, h.wanted⟩
      intro way hway hne pattern hpattern
      exact h.kept way ((List.mem_inits _ _).1 hway) hne pattern (List.mem_append.1 hpattern)

def shelfTree : Tree :=
  ⟨[(["w"], .directory), (["w", "a.jsx"], .file "<b/>".toUTF8), (["w", "a"], .directory),
    (["w", "a", "z.jsx"], .file "<b/>".toUTF8), (["w", "a-b.jsx"], .file "<b/>".toUTF8),
    (["w", "dist"], .directory), (["w", "dist", "c.jsx"], .file "<b/>".toUTF8)]⟩

def shelfScan : Scan where
  excludes := ["dist"]
  limit := .atMost 1

theorem shelfTree_isCatalog : shelfTree.IsCatalog :=
  ⟨Tree.isProper_of_entries (by decide), by decide⟩

/-! ### Directories in each other -/

/-- So many directories in each other. -/
def shaft (n : Nat) : Tree :=
  ⟨(List.range n).map fun k => (List.replicate (k + 1) "d", .directory)⟩

theorem isPlace_replicate (k : Nat) : Path.IsPlace (List.replicate k "d") := by
  intro m hm
  rw [List.eq_of_mem_replicate hm]
  decide

theorem shaft_isCatalog (n : Nat) : (shaft n).IsCatalog where
  proper := by
    refine Tree.isProper_of_entries fun e he => ?_
    obtain ⟨k, -, rfl⟩ := List.mem_map.1 he
    exact isPlace_replicate (k + 1)
  once := by
    unfold shaft
    rw [List.map_map]
    refine List.nodup_range.map fun k k' h => ?_
    simpa using congrArg List.length h

theorem node?_shaft {n k : Nat} (hk : k ≤ n) :
    (shaft n).node? (List.replicate k "d") = some .directory := by
  cases k with
  | zero => rfl
  | succ k =>
    have hmem : (List.replicate (k + 1) "d", Node.directory) ∈ (shaft n).entries :=
      List.mem_map.2 ⟨k, List.mem_range.2 hk, rfl⟩
    exact (mem_iff_lookup (shaft_isCatalog n).once).1 hmem

/-- Each of them can be listed. -/
theorem find_shaft {n k : Nat} (hk : k ≤ n) (hshort : 2 * k < Tree.maxPathBytes) :
    (shaft n).find (List.replicate k "d") = .ok (List.replicate k "d", some .directory) := by
  have hd : "d".utf8ByteSize = 1 := by decide
  have hrefusal : Path.refusal? ["d"] = none := by decide +kernel
  have hask : Path.refusal? (List.replicate k "d") = none ∧
      Path.byteSize (List.replicate k "d") = 2 * k := by
    clear hk hshort
    induction k with
    | zero => exact ⟨rfl, rfl⟩
    | succ k ih =>
      refine ⟨Tree.refusal?_append.2 ⟨hrefusal, ih.1⟩, ?_⟩
      rw [List.replicate_succ, Path.byteSize, ih.2, hd]
      omega
  have hlong : ¬ Tree.maxPathBytes < (Path.text (List.replicate k "d")).utf8ByteSize := by
    have hle := Path.text_le (List.replicate k "d")
    rw [hask.2] at hle
    omega
  have hreached : (shaft n).IsReached ([] ++ List.replicate k "d") := by
    refine ⟨fun r hr _ => ?_, fun m hm => ?_⟩
    · obtain ⟨hlength, heq⟩ := List.prefix_replicate_iff.1 hr
      rw [heq]
      exact node?_shaft (hlength.trans hk)
    · rw [List.eq_of_mem_replicate hm]
      decide
  have hwalk := Tree.walk_of_isReached (isPlace_replicate k) hreached
  unfold Tree.find Tree.follow
  rw [hask.1]
  simp only [if_neg hlong, hwalk, List.nil_append, node?_shaft hk]

/-- A scan without a limit gets too deep in them. -/
theorem shaft_isTooDeep : IsTooDeep ⟨[], .unlimited⟩ [] (shaft (maxCalls + 1)) ["d"] := by
  refine ⟨List.replicate maxCalls "d", List.length_replicate, ⟨["d"], ?_, ?_⟩, ?_, rfl, ?_⟩
  · exact find_shaft (k := 1) (by decide) (by decide)
  · exact node?_shaft (k := maxCalls + 1) (Nat.le_refl _)
  · have hroot : ["d"] ++ (List.replicate maxCalls "d").dropLast = List.replicate maxCalls "d" := by
      rw [List.dropLast_replicate]
      rfl
    rw [hroot, Tree.isDirectory, find_shaft (by decide) (by decide)]
  · rintro way - - pattern (h | h) <;> cases h

def farTree : Tree :=
  ⟨[(["w"], .directory), (["w", "d"], .directory), (["w", "d", "far"], .directory),
    (["w", "d", "far", "a.jsx"], .file "<b/>".toUTF8)]⟩

theorem farTree_isCatalog : farTree.IsCatalog :=
  ⟨Tree.isProper_of_entries (by decide), by decide⟩

/-- So many times into a directory and out of it. -/
def detours : Nat → Path
  | 0 => []
  | n + 1 => "d" :: ".." :: detours n

/-- The directory, by as many detours. -/
def farRoot (n : Nat) : Path := ["w"] ++ (detours n ++ ["d"])

theorem byteSize_farRoot (n : Nat) : Path.byteSize (farRoot n) = 5 * n + 4 := by
  have hw : "w".utf8ByteSize = 1 := by decide
  have hd : "d".utf8ByteSize = 1 := by decide
  have hup : "..".utf8ByteSize = 2 := by decide
  have hdetours : Path.byteSize (detours n) = 5 * n := by
    induction n with
    | zero => rfl
    | succ n ih =>
      rw [detours, Path.byteSize, Path.byteSize, ih, hd, hup]
      omega
  simp only [farRoot, Path.byteSize_append, Path.byteSize, hw, hd, hdetours]
  omega

theorem refusal?_farRoot (n : Nat) : Path.refusal? (farRoot n) = none := by
  have hw : Path.refusal? ["w"] = none := by decide +kernel
  have hd : Path.refusal? ["d"] = none := by decide +kernel
  have hstep : Path.refusal? ["d", ".."] = none := by decide +kernel
  have hdetours : Path.refusal? (detours n) = none := by
    induction n with
    | zero => rfl
    | succ n ih => exact Tree.refusal?_append.2 ⟨hstep, ih⟩
  exact Tree.refusal?_append.2 ⟨hw, Tree.refusal?_append.2 ⟨hdetours, hd⟩⟩

theorem walk_farRoot (n : Nat) : farTree.walk [] (farRoot n) = .ok ["w", "d"] := by
  have hdetours : farTree.walk ["w"] (detours n ++ ["d"]) = .ok ["w", "d"] := by
    induction n with
    | zero => rfl
    | succ n ih => exact ih
  exact hdetours

theorem find_farRoot {n : Nat} (hn : 5 * n + 5 ≤ Tree.maxPathBytes) :
    farTree.find (farRoot n) = .ok (["w", "d"], some .directory) := by
  have hshort : ¬ Tree.maxPathBytes < (farRoot n).text.utf8ByteSize := by
    have hle := Path.text_le (farRoot n)
    rw [byteSize_farRoot] at hle
    omega
  unfold Tree.find Tree.follow
  rw [refusal?_farRoot]
  simp only [if_neg hshort, walk_farRoot]
  rfl

theorem not_isDirectory_far {n : Nat} (hn : Tree.maxPathBytes < 5 * n + 8) :
    farTree.isDirectory (farRoot n ++ ["far"]) = false := by
  have hlong : Tree.maxPathBytes < (Path.text (farRoot n ++ ["far"])).utf8ByteSize := by
    have hfar : "far".utf8ByteSize = 3 := by decide
    have hle := Path.byteSize_le_text (farRoot n ++ ["far"])
    simp only [Path.byteSize_append, byteSize_farRoot, Path.byteSize, hfar] at hle
    omega
  have hfar : Path.refusal? ["far"] = none := by decide +kernel
  unfold Tree.isDirectory Tree.find Tree.follow
  rw [Tree.refusal?_append.2 ⟨refusal?_farRoot n, hfar⟩]
  simp only [if_pos hlong]

end Scan

end Restyle
