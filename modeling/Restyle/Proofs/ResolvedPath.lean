import Restyle.Proofs.LoadedStore

/-!
Resolving a path that leads somewhere. Its detours go through directories, so the place that it
leads to can be asked for as well, and that leads there too.
-/
namespace Restyle

namespace Path

/-- The bytes of the names of a path, each with the slash before it. -/
def byteSize : Path → Nat
  | [] => 0
  | n :: p => n.utf8ByteSize + 1 + byteSize p

theorem byteSize_append (p q : Path) : byteSize (p ++ q) = byteSize p + byteSize q := by
  induction p with
  | nil => simp [byteSize]
  | cons n p ih =>
    rw [List.cons_append, byteSize, byteSize, ih]
    omega

theorem slashed_cons_cons (n m : String) (p : Path) :
    slashed (n :: m :: p) = n ++ "/" ++ slashed (m :: p) := by
  apply String.ext
  simp [slashed]

theorem utf8ByteSize_slashed (n : String) (p : Path) :
    (slashed (n :: p)).utf8ByteSize + 1 = byteSize (n :: p) := by
  induction p generalizing n with
  | nil =>
    have e : slashed [n] = n := by
      apply String.ext
      simp [slashed]
    simp [e, byteSize]
  | cons m p ih =>
    have hslash : "/".utf8ByteSize = 1 := by decide
    have htail := ih m
    rw [slashed_cons_cons, String.utf8ByteSize_append, String.utf8ByteSize_append, hslash]
    simp only [byteSize] at htail ⊢
    omega

/-- The text of a path is as long as its names are, and has one slash at least. -/
theorem byteSize_le_text (p : Path) : byteSize p ≤ p.text.utf8ByteSize := by
  unfold text
  split
  · next h =>
    subst h
    decide
  · have hslash : "/".utf8ByteSize = 1 := by decide
    rw [String.utf8ByteSize_append, hslash]
    cases p with
    | nil => simp [byteSize]
    | cons n p => rw [← utf8ByteSize_slashed]; omega

theorem text_le_byteSize {p : Path} (h : p.IsPlace) :
    p.text.utf8ByteSize ≤ max 1 (byteSize p) := by
  have hslash : "/".utf8ByteSize = 1 := by decide
  rw [text_of_isPlain h.isPlain, String.utf8ByteSize_append, hslash]
  cases p with
  | nil => decide
  | cons n p => rw [← utf8ByteSize_slashed]; omega

theorem byteSize_enter (here : Path) (n : String) :
    byteSize (enter here n) ≤ byteSize here + (n.utf8ByteSize + 1) := by
  unfold enter
  split
  · by_cases hnil : here = []
    · simp [hnil, byteSize]
    · have hsum := byteSize_append here.dropLast [here.getLast hnil]
      rw [List.dropLast_concat_getLast] at hsum
      omega
  · split
    · exact Nat.le_add_right _ _
    · rw [byteSize_append]
      simp [byteSize]

/-- Taking out detours makes no path longer. -/
theorem byteSize_resolve (p : Path) : byteSize p.resolve ≤ byteSize p := by
  have from_here (p here : Path) : byteSize (p.foldl enter here) ≤ byteSize here + byteSize p := by
    induction p generalizing here with
    | nil => simp [byteSize]
    | cons n p ih =>
      have h1 := ih (enter here n)
      have h2 := byteSize_enter here n
      simp only [byteSize, List.foldl_cons] at h1 h2 ⊢
      omega
  have h := from_here p []
  simpa [resolve, byteSize] using h

theorem mem_of_mem_resolve {p : Path} {n : String} (h : n ∈ p.resolve) : n ∈ p := by
  have from_here (p here : Path) (h : n ∈ p.foldl enter here) : n ∈ here ∨ n ∈ p := by
    induction p generalizing here with
    | nil => exact .inl h
    | cons m p ih =>
      rcases ih (enter here m) h with h | h
      · unfold enter at h
        split at h
        · exact .inl ((List.dropLast_sublist here).mem h)
        · split at h
          · exact .inl h
          · rcases List.mem_append.1 h with h | h
            · exact .inl h
            · exact .inr (List.mem_singleton.1 h ▸ List.mem_cons_self)
      · exact .inr (List.mem_cons_of_mem _ h)
  exact (from_here p [] h).resolve_left List.not_mem_nil

/-- A path that can be asked about can be asked about without its detours. -/
theorem refusal?_resolve {p : Path} (h : p.refusal? = none) : p.resolve.refusal? = none := by
  have down {f : String → Bool} (h : p.any f = false) : p.resolve.any f = false := by
    rw [List.any_eq_false] at h ⊢
    exact fun n hn => h n (mem_of_mem_resolve hn)
  unfold refusal? at h ⊢
  split at h
  · cases h
  · next hhalf =>
    split at h
    · cases h
    · next hnul =>
      have hhalf' : hasHalf p.resolve = false := down (Bool.eq_false_iff.2 hhalf)
      have hnul' : hasNul p.resolve = false := down (Bool.eq_false_iff.2 hnul)
      simp [hhalf', hnul']

end Path

namespace Tree

variable {t : Tree}

/-- A place to which names lead one by one: each of them fits into a directory, and what lies above
the place are directories. -/
structure IsReached (t : Tree) (q : Path) : Prop where
  above : ∀ r, r <+: q → r ≠ q → t.node? r = some .directory
  fits : ∀ n ∈ q, n.utf8ByteSize ≤ maxNameBytes

theorem IsReached.dropLast {q : Path} (h : t.IsReached q) : t.IsReached q.dropLast where
  above r hr hne := by
    refine h.above r (hr.trans (List.dropLast_prefix q)) ?_
    rintro rfl
    have hl := hr.length_le
    rw [List.length_dropLast] at hl
    have hnil : r = [] := List.eq_nil_of_length_eq_zero (by omega)
    exact hne (by simp [hnil])
  fits n hn := h.fits n ((List.dropLast_sublist q).mem hn)

theorem IsReached.snoc {q : Path} (h : t.IsReached q) (hq : t.node? q = some .directory)
    {n : String} (hn : n.utf8ByteSize ≤ maxNameBytes) : t.IsReached (q ++ [n]) where
  above r hr hne := by
    rcases List.prefix_concat_iff.1 hr with rfl | hr
    · exact absurd rfl hne
    · by_cases he : r = q
      · exact he ▸ hq
      · exact h.above r hr he
  fits m hm := by
    rcases List.mem_append.1 hm with hm | hm
    · exact h.fits m hm
    · exact List.mem_singleton.1 hm ▸ hn

/-- Where a walk ends names lead one by one. -/
theorem isReached_of_walk {here p q : Path} (hhere : t.IsReached here)
    (h : t.walk here p = .ok q) : t.IsReached q := by
  induction p generalizing here with
  | nil =>
    cases h
    exact hhere
  | cons n p ih =>
    rw [walk] at h
    split at h
    · cases h
    · cases h
    · next hd =>
      split at h
      · exact ih hhere.dropLast h
      · split at h
        · exact ih hhere h
        · split at h
          · cases h
          · next hn => exact ih (hhere.snoc hd (Nat.le_of_not_lt hn)) h

theorem walk_of_isReached {here q : Path} (hq : q.IsPlace) (h : t.IsReached (here ++ q)) :
    t.walk here q = .ok (here ++ q) := by
  induction q generalizing here with
  | nil => simp [walk]
  | cons n q ih =>
    obtain ⟨⟨hne, -, -⟩, hup⟩ := hq n List.mem_cons_self
    have hd : t.node? here = some .directory :=
      h.above here (List.prefix_append _ _) (by simp)
    have hfits : ¬ maxNameBytes < n.utf8ByteSize := Nat.not_lt.2 (h.fits n (by simp))
    have happend : here ++ n :: q = here ++ [n] ++ q := by simp
    rw [walk, hd]
    simp only [hup, hne, hfits, if_false]
    rw [happend] at h ⊢
    exact ih (fun m hm => hq m (List.mem_cons_of_mem _ hm)) h

/-- A path that leads to a place leads there without its detours, too. -/
theorem find_resolve {p q : Path} {n : Option Node} (hp : p.IsLegible)
    (h : t.find p = .ok (q, n)) : t.find q = .ok (q, n) := by
  obtain ⟨rfl, rfl⟩ := find_eq h
  have hplace := hp.resolve
  have hwalk := walk_of_find h
  have hempty : t.IsReached [] :=
    ⟨fun r hr hne => absurd (List.prefix_nil.1 hr) hne, fun n hn => absurd hn List.not_mem_nil⟩
  have hreached : t.walk [] p.resolve = .ok p.resolve := by
    have hwhole : t.IsReached ([] ++ p.resolve) := isReached_of_walk hempty hwalk
    exact walk_of_isReached hplace hwhole
  have hfollow : t.follow p.resolve = .ok p.resolve := by
    unfold find at h
    split at h
    · next hf =>
      unfold follow at hf ⊢
      split at hf
      · cases hf
      · next hask =>
        rw [Path.refusal?_resolve hask]
        split at hf
        · cases hf
        · next hsize =>
          have h1 := Path.text_le_byteSize hplace
          have h2 := Path.byteSize_resolve p
          have h3 := Path.byteSize_le_text p
          have hmax : 1 ≤ maxPathBytes := by decide
          rw [if_neg (by omega)]
          exact hreached
    · cases h
  unfold find
  rw [hfollow]

end Tree

end Restyle
