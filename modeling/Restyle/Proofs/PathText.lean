import Restyle.Tree.Path

/-!
Paths and their texts. A path whose names are names of files is read back from its text, and
resolving it leaves a place: a path without detours.
-/
namespace Restyle

/-- What a file or a directory can be called. The way up is no name. -/
def IsName (n : String) : Prop := n ≠ "" ∧ n ≠ "." ∧ '/' ∉ n.toList

instance (n : String) : Decidable (IsName n) := inferInstanceAs (Decidable (_ ∧ _ ∧ _))

namespace Path

/-- Only names, the way up among them. -/
def IsPlain (p : Path) : Prop := ∀ n ∈ p, IsName n

/-- A plain path, or one behind two slashes. -/
def IsLegible (p : Path) : Prop := IsPlain p ∨ ∃ q, p = "" :: q ∧ IsPlain q

/-- Only names, no way up. -/
def IsPlace (p : Path) : Prop := ∀ n ∈ p, IsName n ∧ n ≠ ".."

instance (p : Path) : Decidable (IsPlace p) :=
  inferInstanceAs (Decidable (∀ n ∈ p, IsName n ∧ n ≠ ".."))

theorem IsPlace.isPlain {p : Path} (h : IsPlace p) : IsPlain p := fun n hn => (h n hn).1

theorem IsPlain.isLegible {p : Path} (h : IsPlain p) : IsLegible p := .inl h

theorem IsPlain.append {p q : Path} (hp : IsPlain p) (hq : IsPlain q) : IsPlain (p ++ q) := by
  intro n hn
  rcases List.mem_append.1 hn with hn | hn
  · exact hp n hn
  · exact hq n hn

theorem IsLegible.append {p q : Path} (hp : IsLegible p) (hq : IsPlain q) :
    IsLegible (p ++ q) := by
  rcases hp with hp | ⟨r, rfl, hr⟩
  · exact .inl (hp.append hq)
  · exact .inr ⟨r ++ q, rfl, hr.append hq⟩

theorem IsPlain.dropLast {p : Path} (h : IsPlain p) : IsPlain p.dropLast :=
  fun n hn => h n ((List.dropLast_sublist p).mem hn)

theorem IsPlace.dropLast {p : Path} (h : IsPlace p) : IsPlace p.dropLast :=
  fun n hn => h n ((List.dropLast_sublist p).mem hn)

theorem IsLegible.dropLast {p : Path} (h : IsLegible p) : IsLegible p.dropLast := by
  rcases h with h | ⟨q, rfl, hq⟩
  · exact .inl h.dropLast
  · cases q with
    | nil => exact .inl (by simp [IsPlain])
    | cons n q => exact .inr ⟨(n :: q).dropLast, rfl, hq.dropLast⟩

theorem IsPlace.append {p q : Path} (hp : IsPlace p) (hq : IsPlace q) : IsPlace (p ++ q) := by
  intro n hn
  rcases List.mem_append.1 hn with hn | hn
  · exact hp n hn
  · exact hq n hn

/-! ### Texts -/

theorem names_eq (s : String) :
    names s = if startsTwice s.toList then
      "" :: ((s.toList.splitOn '/').map String.ofList).filter (fun n => n ≠ "" ∧ n ≠ ".")
    else ((s.toList.splitOn '/').map String.ofList).filter (fun n => n ≠ "" ∧ n ≠ ".") := rfl

theorem notMem_of_mem_splitOn {s : List Char} {l : List Char} (h : l ∈ s.splitOn '/') :
    '/' ∉ l := by
  induction s generalizing l with
  | nil =>
    rw [List.splitOn_nil, List.mem_singleton] at h
    simp [h]
  | cons c s ih =>
    rw [List.splitOn_cons_eq_if_modifyHead] at h
    split at h
    · rcases List.mem_cons.1 h with rfl | h
      · simp
      · exact ih h
    · next hc =>
      cases hs : s.splitOn '/' with
      | nil => exact absurd hs (List.splitOn_ne_nil _ _)
      | cons l' ls =>
        rw [hs] at h ih
        simp only [List.modifyHead_cons, List.mem_cons] at h
        rcases h with rfl | h
        · have hl := ih (l := l') List.mem_cons_self
          simp only [List.mem_cons, not_or]
          exact ⟨fun e => hc (by simp [← e]), hl⟩
        · exact ih (List.mem_cons_of_mem _ h)

/-- The names in a text are names. -/
theorem isLegible_names (s : String) : IsLegible (names s) := by
  have h : IsPlain (((s.toList.splitOn '/').map String.ofList).filter
      (fun n => n ≠ "" ∧ n ≠ ".")) := by
    intro n hn
    obtain ⟨hm, hne⟩ := List.mem_filter.1 hn
    obtain ⟨l, hl, rfl⟩ := List.mem_map.1 hm
    simp only [decide_eq_true_eq] at hne
    exact ⟨hne.1, hne.2, by simpa using notMem_of_mem_splitOn hl⟩
  rw [names_eq]
  split
  · exact .inr ⟨_, rfl, h⟩
  · exact .inl h

theorem isPlain_names {s : String} (h : isAbsolute s = false) : IsPlain (names s) := by
  have ht : startsTwice s.toList = false := by
    unfold isAbsolute at h
    cases hs : s.toList with
    | nil => rfl
    | cons c cs =>
      rw [hs] at h
      have hc : c ≠ '/' := by simpa using h
      unfold startsTwice
      split
      · next e => exact absurd (List.cons.inj e).1 hc
      · next e => exact absurd (List.cons.inj e).1 hc
      · rfl
  rcases isLegible_names s with h | ⟨q, e, -⟩
  · exact h
  · rw [names_eq, ht] at e
    have hm : "" ∈ ((s.toList.splitOn '/').map String.ofList).filter
        (fun n => n ≠ "" ∧ n ≠ ".") := by
      simp only [Bool.false_eq_true, if_false] at e
      rw [e]
      exact List.mem_cons_self
    have := (List.mem_filter.1 hm).2
    simp at this

theorem IsLegible.join {base : Path} (h : IsLegible base) (s : String) :
    IsLegible (base.join s) := by
  unfold Path.join
  cases hs : isAbsolute s with
  | true => exact isLegible_names s
  | false =>
    rw [if_neg (by simp)]
    exact h.append (isPlain_names hs)

theorem splitOn_slashed {p : Path} (h : IsPlain p) (hne : p ≠ []) :
    ((slashed p).toList.splitOn '/').map String.ofList = p := by
  have hs : ∀ l ∈ p.map String.toList, '/' ∉ l := by
    intro l hl
    obtain ⟨n, hn, rfl⟩ := List.mem_map.1 hl
    exact (h n hn).2.2
  rw [slashed, String.toList_ofList, List.splitOn_intercalate _ hs (by simpa using hne)]
  simp

theorem filter_plain {p : Path} (h : IsPlain p) :
    p.filter (fun n => n ≠ "" ∧ n ≠ ".") = p := by
  rw [List.filter_eq_self]
  intro n hn
  have := h n hn
  simp [this.1, this.2.1]

/-- The text of names does not begin with a slash. -/
theorem slashed_cons {n : String} {p : Path} (h : IsPlain (n :: p)) :
    ∃ c rest, c ≠ '/' ∧ (slashed (n :: p)).toList = c :: rest := by
  obtain ⟨hne, -, hs⟩ := h n List.mem_cons_self
  cases hn : n.toList with
  | nil => exact absurd (String.toList_eq_nil_iff.1 hn) hne
  | cons c cs =>
    have hc : c ≠ '/' := by
      rintro rfl
      exact hs (hn ▸ List.mem_cons_self)
    cases p with
    | nil => exact ⟨c, cs, hc, by simp [slashed, hn]⟩
    | cons m p =>
      refine ⟨c, cs ++ '/' :: ['/'].intercalate (m.toList :: p.map String.toList), hc, ?_⟩
      simp [slashed, hn]

theorem startsTwice_slashed {p : Path} (h : IsPlain p) :
    startsTwice ('/' :: (slashed p).toList) = false := by
  cases p with
  | nil => rfl
  | cons n p =>
    obtain ⟨c, rest, hc, e⟩ := slashed_cons h
    rw [e]
    unfold startsTwice
    split
    · next e' => exact absurd (List.cons.inj (List.cons.inj e').2).1 hc
    · next e' => exact absurd (List.cons.inj (List.cons.inj e').2).1 hc
    · rfl

theorem startsTwice_slashed_twice {p : Path} (h : IsPlain p) :
    startsTwice ('/' :: '/' :: (slashed p).toList) = true := by
  cases p with
  | nil => rfl
  | cons n p =>
    obtain ⟨c, rest, hc, e⟩ := slashed_cons h
    rw [e]
    simp [startsTwice, hc]

theorem text_of_isPlain {p : Path} (h : IsPlain p) : p.text = "/" ++ slashed p := by
  unfold text
  split
  · next e =>
    subst e
    exact absurd rfl (h "" List.mem_cons_self).1
  · rfl

theorem filter_splitOn_slash {p : Path} (h : IsPlain p) :
    ((('/' :: (slashed p).toList).splitOn '/').map String.ofList).filter
      (fun n => n ≠ "" ∧ n ≠ ".") = p := by
  rw [List.splitOn_cons_eq_if_modifyHead]
  simp only [beq_self_eq_true, if_true, List.map_cons]
  rw [List.filter_cons_of_neg (by simp)]
  cases p with
  | nil =>
    have e : (slashed []).toList = [] := rfl
    rw [e, List.splitOn_nil]
    simp
  | cons n p => rw [splitOn_slashed h (by simp), filter_plain h]

theorem names_text_of_isPlain {p : Path} (h : IsPlain p) : names p.text = p := by
  have e : ("/" ++ slashed p).toList = '/' :: (slashed p).toList := by
    rw [String.toList_append]
    rfl
  rw [text_of_isPlain h, names_eq, e, startsTwice_slashed h, if_neg (by simp),
    filter_splitOn_slash h]

/-- A path is read back from its text. -/
theorem names_text {p : Path} (h : IsLegible p) : names p.text = p := by
  rcases h with h | ⟨q, rfl, hq⟩
  · exact names_text_of_isPlain h
  · cases q with
    | nil => rfl
    | cons n q =>
      have hslash : (slashed ("" :: n :: q)).toList = '/' :: (slashed (n :: q)).toList := by
        simp [slashed]
      have e : (text ("" :: n :: q)).toList = '/' :: '/' :: (slashed (n :: q)).toList := by
        have htext : text ("" :: n :: q) = "/" ++ slashed ("" :: n :: q) := by
          unfold text
          rw [if_neg (by simp)]
        rw [htext, String.toList_append, hslash]
        rfl
      rw [names_eq, e, startsTwice_slashed_twice hq, if_pos rfl,
        List.splitOn_cons_eq_if_modifyHead]
      simp only [beq_self_eq_true, if_true, List.map_cons]
      rw [List.filter_cons_of_neg (by simp), filter_splitOn_slash hq]

theorem isAbsolute_text {p : Path} : isAbsolute p.text = true := by
  unfold text
  split
  · rfl
  · unfold isAbsolute
    rw [String.toList_append]
    rfl

theorem text_injective {p q : Path} (hp : IsLegible p) (hq : IsLegible q)
    (h : p.text = q.text) : p = q := by
  rw [← names_text hp, ← names_text hq, h]

/-! ### Resolving -/

theorem enter_of_isName {n : String} (h : IsName n ∧ n ≠ "..") (here : Path) :
    enter here n = here ++ [n] := by
  simp [enter, h.2, h.1.1]

theorem foldl_enter_of_isPlace {p : Path} (h : IsPlace p) (here : Path) :
    p.foldl enter here = here ++ p := by
  induction p generalizing here with
  | nil => simp
  | cons n p ih =>
    have hp : IsPlace p := fun m hm => h m (List.mem_cons_of_mem _ hm)
    rw [List.foldl_cons, enter_of_isName (h n List.mem_cons_self), ih hp, List.append_assoc]
    rfl

theorem resolve_of_isPlace {p : Path} (h : IsPlace p) : p.resolve = p := by
  rw [resolve, foldl_enter_of_isPlace h, List.nil_append]

theorem resolve_append_of_isPlace (p : Path) {q : Path} (h : IsPlace q) :
    resolve (p ++ q) = p.resolve ++ q := by
  rw [resolve, List.foldl_append, foldl_enter_of_isPlace h, resolve]

theorem isPlace_enter {here : Path} (h : IsPlace here) {n : String} (hn : n = "" ∨ IsName n) :
    IsPlace (enter here n) := by
  unfold enter
  split
  · exact h.dropLast
  · next hup =>
    split
    · exact h
    · next hne =>
      have hname := hn.resolve_left hne
      exact h.append (by simpa [IsPlace] using ⟨hname, hup⟩)

theorem isPlace_foldl_enter {p : Path} (hp : ∀ n ∈ p, n = "" ∨ IsName n) {here : Path}
    (h : IsPlace here) : IsPlace (p.foldl enter here) := by
  induction p generalizing here with
  | nil => exact h
  | cons n p ih =>
    exact ih (fun m hm => hp m (List.mem_cons_of_mem _ hm))
      (isPlace_enter h (hp n List.mem_cons_self))

theorem IsLegible.mem {p : Path} (h : IsLegible p) : ∀ n ∈ p, n = "" ∨ IsName n := by
  intro n hn
  rcases h with h | ⟨q, rfl, hq⟩
  · exact .inr (h n hn)
  · rcases List.mem_cons.1 hn with rfl | hn
    · exact .inl rfl
    · exact .inr (hq n hn)

/-- Resolving a path gives a place. -/
theorem IsLegible.resolve {p : Path} (h : IsLegible p) : IsPlace p.resolve :=
  isPlace_foldl_enter h.mem (by simp [IsPlace])

/-- Resolving leaves nothing to resolve, whatever the names are. -/
theorem resolve_resolve (p : Path) : p.resolve.resolve = p.resolve := by
  have kept (q here : Path) (h : ∀ n ∈ q, n ≠ ".." ∧ n ≠ "") : q.foldl enter here = here ++ q := by
    induction q generalizing here with
    | nil => simp
    | cons n q ih =>
      have hn := h n List.mem_cons_self
      have hq := ih (here ++ [n]) fun m hm => h m (List.mem_cons_of_mem _ hm)
      simp [enter, hn.1, hn.2, hq]
  have only (q here : Path) (h : ∀ n ∈ here, n ≠ ".." ∧ n ≠ "") :
      ∀ n ∈ q.foldl enter here, n ≠ ".." ∧ n ≠ "" := by
    induction q generalizing here with
    | nil => exact h
    | cons n q ih =>
      refine ih (enter here n) ?_
      unfold enter
      split
      · exact fun m hm => h m ((List.dropLast_sublist here).mem hm)
      · next hup =>
        split
        · exact h
        · next hne =>
          intro m hm
          rcases List.mem_append.1 hm with hm | hm
          · exact h m hm
          · obtain rfl := List.mem_singleton.1 hm
            exact ⟨hup, hne⟩
  have h := kept p.resolve [] (only p [] (by simp))
  rw [List.nil_append] at h
  exact h

theorem below?_eq_some {base p q : Path} : below? base p = some q ↔ base ++ q = p := by
  unfold below?
  induction base generalizing p with
  | nil =>
    change some p = some q ↔ [] ++ q = p
    simp [eq_comm]
  | cons n base ih =>
    cases p with
    | nil =>
      change none = some q ↔ (n :: base) ++ q = []
      simp
    | cons m p =>
      change (if n == m then List.isPrefixOf? base p else none) = some q ↔
        (n :: base) ++ q = m :: p
      by_cases h : n = m
      · subst h
        simp [ih]
      · simp [h]

end Path

end Restyle
