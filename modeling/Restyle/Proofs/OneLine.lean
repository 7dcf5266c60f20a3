import Restyle.Proofs.StyleMerge

/-!
Texts on one line. The entries that are read from a line are on one line, and so is the attribute
that is written with them; a file in which one line gets another text keeps all its other lines.
-/
namespace Restyle.Text

theorem mem_intercalate {sep : List Char} {ls : List (List Char)} {c : Char}
    (h : c ∈ sep.intercalate ls) : c ∈ sep ∨ ∃ l ∈ ls, c ∈ l := by
  induction ls with
  | nil => cases h
  | cons l ls ih =>
    cases ls with
    | nil => exact .inr ⟨l, List.mem_singleton_self l, by simpa [List.intercalate] using h⟩
    | cons l' ls =>
      rw [List.intercalate_cons_cons, List.append_assoc, List.mem_append, List.mem_append] at h
      rcases h with h | h | h
      · exact .inr ⟨l, List.mem_cons_self, h⟩
      · exact .inl h
      · exact (ih h).imp_right fun ⟨x, hx, hc⟩ => ⟨x, List.mem_cons_of_mem _ hx, hc⟩

/-- A text without a line feed. -/
def IsOneLine (s : List Char) : Prop := '\n' ∉ s

instance (s : List Char) : Decidable (IsOneLine s) := inferInstanceAs (Decidable ('\n' ∉ s))

theorem IsOneLine.of_subset {s t : List Char} (h : IsOneLine s) (hsub : t ⊆ s) : IsOneLine t :=
  fun ht => h (hsub ht)

theorem IsOneLine.append {s t : List Char} (hs : IsOneLine s) (ht : IsOneLine t) :
    IsOneLine (s ++ t) :=
  fun h => (List.mem_append.1 h).elim hs ht

theorem IsOneLine.cons {c : Char} {s : List Char} (hc : c ≠ '\n') (h : IsOneLine s) :
    IsOneLine (c :: s) :=
  fun hm => (List.mem_cons.1 hm).elim (fun e => hc e.symm) h

theorem IsOneLine.take {s : List Char} (h : IsOneLine s) (n : Nat) : IsOneLine (s.take n) :=
  h.of_subset (List.take_subset n s)

theorem IsOneLine.drop {s : List Char} (h : IsOneLine s) (n : Nat) : IsOneLine (s.drop n) :=
  h.of_subset (List.drop_subset n s)

theorem isOneLine_of_mem_lines {s l : List Char} (h : l ∈ lines s) : IsOneLine l := by
  unfold lines at h
  induction s generalizing l with
  | nil =>
    obtain rfl : l = [] := by simpa using h
    exact List.not_mem_nil
  | cons c s ih =>
    rw [List.splitOn_cons_eq_if_modifyHead] at h
    split at h
    · rcases List.mem_cons.1 h with rfl | h
      · exact List.not_mem_nil
      · exact ih h
    · next hc =>
      have hne : c ≠ '\n' := by simpa using hc
      cases hs : s.splitOn '\n' with
      | nil => exact absurd hs (List.splitOn_ne_nil _ _)
      | cons first rest =>
        rw [hs] at h ih
        rcases List.mem_cons.1 h with rfl | h
        · exact (ih List.mem_cons_self).cons hne
        · exact ih (List.mem_cons_of_mem _ h)

theorem lines_unlines {ls : List (List Char)} (h : ∀ l ∈ ls, IsOneLine l) (hne : ls ≠ []) :
    lines (unlines ls) = ls :=
  List.splitOn_intercalate '\n' h hne

/-- A text in which one line is changed has the lines of the old one but for that. -/
theorem lines_unlines_set (s : List Char) (row : Nat) {new : List Char} (h : IsOneLine new) :
    lines (unlines ((lines s).set row new)) = (lines s).set row new := by
  refine lines_unlines ?_ (by simp [lines])
  intro l hl
  rcases List.mem_or_eq_of_mem_set hl with hl | rfl
  · exact isOneLine_of_mem_lines hl
  · exact h

theorem skipBlanks_subset (s : List Char) : skipBlanks s ⊆ s :=
  (List.dropWhile_sublist isBlank).subset

theorem trimRight_subset (s : List Char) : trimRight s ⊆ s := by
  intro c hc
  have hrev := (List.dropWhile_sublist isBlank).subset (List.mem_reverse.1 hc)
  exact List.mem_reverse.1 hrev

end Restyle.Text

namespace Restyle.Style

open Text Markup

/-! ### What is read from a line -/

theorem untilQuote_subset {q : Char} {s v r : List Char} (h : untilQuote q s = some (v, r)) :
    v ⊆ s ∧ r ⊆ s := by
  obtain ⟨-, rfl⟩ := untilQuote_eq_some h
  exact ⟨by simp, by simp⟩

theorem nameAt_subset {s name r : List Char} (h : nameAt s = some (name, r)) :
    name ⊆ s ∧ r ⊆ s := by
  unfold nameAt at h
  split at h
  · cases h
  · next c rest =>
    split at h
    · rw [List.span_eq_takeWhile_dropWhile] at h
      obtain ⟨rfl, rfl⟩ := Prod.mk.inj (Option.some.inj h)
      exact ⟨List.cons_subset_cons c (List.takeWhile_sublist _).subset,
        List.subset_cons_of_subset c (List.dropWhile_sublist _).subset⟩
    · split at h
      · obtain ⟨hv, hr⟩ := untilQuote_subset h
        exact ⟨List.subset_cons_of_subset c hv, List.subset_cons_of_subset c hr⟩
      · cases h

theorem plainValue_subset {s v r : List Char} (h : plainValue s = some (v, r)) : v ⊆ s := by
  induction s generalizing v r with
  | nil => cases h
  | cons c s ih =>
    rw [plainValue] at h
    split at h
    · cases h
    · split at h
      · obtain ⟨rfl, -⟩ := Prod.mk.inj (Option.some.inj h)
        simp
      · obtain ⟨⟨v', r'⟩, hv, he⟩ := Option.map_eq_some_iff.1 h
        obtain ⟨rfl, -⟩ := Prod.mk.inj he
        exact List.cons_subset_cons c (ih hv)

theorem valueAt_subset {s v r : List Char} (h : valueAt s = some (v, r)) : v ⊆ s := by
  unfold valueAt at h
  split at h
  · next t rest ht =>
    split at h
    · obtain ⟨rfl, -⟩ := Prod.mk.inj (Option.some.inj h)
      obtain ⟨-, rfl⟩ := textAt_eq_some_iff.1 ht
      simp
    · exact plainValue_subset h
  · exact plainValue_subset h

theorem valueAfterColon_subset {s v r : List Char} (h : valueAfterColon s = some (v, r)) :
    v ⊆ s := by
  unfold valueAfterColon at h
  split at h
  · next found hv =>
    obtain rfl := Option.some.inj h
    exact fun c hc => skipBlanks_subset s (valueAt_subset hv hc)
  · split at h
    · next b hb =>
      obtain ⟨r', -, he⟩ := Option.map_eq_some_iff.1 h
      obtain ⟨rfl, -⟩ := Prod.mk.inj he
      have hmem := (List.takeWhile_sublist isBlank).subset (List.mem_of_getLast? hb)
      exact List.cons_subset.2 ⟨hmem, List.nil_subset _⟩
    · cases h

theorem entryAt_subset {s : List Char} {e : List Char × List Char} {n : Nat}
    (h : entryAt s = some (e, n)) : e.1 ⊆ s ∧ e.2 ⊆ s := by
  unfold entryAt at h
  split at h
  · cases h
  · next name rest hname =>
    obtain ⟨hsub, hrest⟩ := nameAt_subset hname
    split at h
    · next rest' hcolon =>
      have hrest' : rest' ⊆ s := fun c hc =>
        hrest (skipBlanks_subset rest (by simp [hcolon, hc]))
      split at h
      · next value r hvalue =>
        obtain ⟨rfl, -⟩ := Prod.mk.inj (Option.some.inj h)
        exact ⟨hsub, fun c hc =>
          hrest' (valueAfterColon_subset hvalue ((trim_sublist _).subset hc))⟩
      · cases h
    · cases h

/-- Entries with names and values on one line. -/
def Entries.AreOneLine (es : Entries) : Prop := ∀ e ∈ es, IsOneLine e.1 ∧ IsOneLine e.2

theorem areOneLine_readEntries {body : List Char} (h : IsOneLine body) :
    (readEntries body).AreOneLine := by
  intro e he
  rw [readEntries_eq] at he
  have hfound := (mem_or_of_mem_merge he).resolve_left List.not_mem_nil
  obtain ⟨-, t, n, ht, hn⟩ := mem_hits hfound
  obtain ⟨hname, hvalue⟩ := entryAt_subset hn
  exact ⟨h.of_subset (List.Subset.trans hname ht.subset),
    h.of_subset (List.Subset.trans hvalue ht.subset)⟩

theorem Entries.AreOneLine.merge {old new : Entries} (hold : old.AreOneLine)
    (hnew : new.AreOneLine) : (Style.merge old new).AreOneLine :=
  fun e he => (mem_or_of_mem_merge he).elim (hold e) (hnew e)

/-! ### What is written -/

theorem isOneLine_intercalate {sep : List Char} (hsep : IsOneLine sep) {ls : List (List Char)}
    (h : ∀ l ∈ ls, IsOneLine l) : IsOneLine (sep.intercalate ls) := by
  intro hmem
  rcases mem_intercalate hmem with hmem | ⟨l, hl, hmem⟩
  · exact hsep hmem
  · exact h l hl hmem

theorem isOneLine_writeName {name : List Char} (h : IsOneLine name) :
    IsOneLine (writeName name) := by
  unfold writeName
  split
  · exact h
  · exact (h.cons (by decide)).append (by decide)

theorem isOneLine_styleAttribute {entries : Entries} (h : entries.AreOneLine) :
    IsOneLine (styleAttribute entries) := by
  have hbody : IsOneLine (writeBody entries) := by
    refine isOneLine_intercalate (by decide) fun l hl => ?_
    obtain ⟨e, he, rfl⟩ := List.mem_map.1 hl
    obtain ⟨hname, hvalue⟩ := h e he
    exact (isOneLine_writeName hname).append ((hvalue.cons (by decide)).cons (by decide))
  have hopen : IsOneLine "\x7b\x7b ".toList := by decide
  have hclose : IsOneLine " \x7d\x7d".toList := by decide
  have hstyle : IsOneLine "style=".toList := by decide
  exact hstyle.append ((hopen.append hbody).append hclose)

theorem isOneLine_writeValue {value : List Char} (h : IsOneLine value) :
    IsOneLine (writeValue value) := by
  refine ((?_ : IsOneLine (value.flatMap escapeQuoted)).cons (by decide)).append (by decide)
  intro hm
  obtain ⟨c, hc, hin⟩ := List.mem_flatMap.1 hm
  unfold escapeQuoted at hin
  split at hin
  · have hfeed : '\n' = c := by simpa using hin
    exact h (hfeed ▸ hc)
  · exact h (List.mem_singleton.1 hin ▸ hc)

theorem isUpper_toUpper {c : Char} (h : c.isLower) : c.toUpper.isUpper = true := by
  have hall : ∀ n : Fin 26, (Char.ofNat (n + 97)).toUpper.isUpper = true := by decide
  have hrange : 97 ≤ c.toNat ∧ c.toNat ≤ 122 := by
    delta Char.isLower at h
    simp only [Bool.and_eq_true, decide_eq_true_eq, ge_iff_le, UInt32.le_iff_toNat_le] at h
    exact h
  have hc := hall ⟨c.toNat - 97, by omega⟩
  rwa [Nat.sub_add_cancel hrange.1, Char.ofNat_toNat] at hc

/-- Only capitals come into a name. -/
theorem mem_dashesToCapitals {name : List Char} {x : Char} (h : x ∈ dashesToCapitals name) :
    x ∈ name ∨ x.isUpper = true := by
  fun_induction dashesToCapitals name with
  | case1 c rest hc ih =>
    rcases List.mem_cons.1 h with rfl | h
    · exact .inr (isUpper_toUpper hc)
    · exact (ih h).imp_left fun hx => by simp [hx]
  | case2 c rest hc ih =>
    rcases List.mem_cons.1 h with rfl | h
    · exact .inl List.mem_cons_self
    · exact (ih h).imp_left (List.mem_cons_of_mem _)
  | case3 c rest hdash ih =>
    rcases List.mem_cons.1 h with rfl | h
    · exact .inl List.mem_cons_self
    · exact (ih h).imp_left (List.mem_cons_of_mem _)
  | case4 => cases h

theorem notMem_camelCase {name : List Char} {x : Char} (hx : x.isUpper = false) (h : x ∉ name) :
    x ∉ camelCase name := by
  unfold camelCase
  split
  · exact h
  · intro hm
    rcases mem_dashesToCapitals hm with hm | hupper
    · exact h hm
    · rw [hx] at hupper
      cases hupper

theorem isOneLine_camelCase {name : List Char} (h : IsOneLine name) :
    IsOneLine (camelCase name) :=
  notMem_camelCase (by decide) h

/-! ### Declarations -/

/-- Declarations whose names and values are written on one line. -/
def Declarations.AreOneLine (ds : Declarations) : Prop :=
  ∀ d ∈ ds, IsOneLine d.1.display.toList ∧ IsOneLine d.2.display.toList

theorem isOneLine_entryOf {d : Key × Value} {e : List Char × List Char} (h : entryOf d = .ok e)
    (hname : IsOneLine d.1.display.toList) (hvalue : IsOneLine d.2.display.toList) :
    IsOneLine e.1 ∧ IsOneLine e.2 := by
  unfold entryOf at h
  split at h
  · obtain rfl := Except.ok.inj h
    exact ⟨isOneLine_camelCase hname, isOneLine_writeValue hvalue⟩
  · cases h

theorem areOneLine_mapM {ds : Declarations} {es : Entries} (h : ds.mapM entryOf = .ok es)
    (hds : ds.AreOneLine) : es.AreOneLine := by
  induction ds generalizing es with
  | nil =>
    obtain rfl := Except.ok.inj h
    exact fun e he => absurd he List.not_mem_nil
  | cons d ds ih =>
    rw [List.mapM_cons] at h
    cases hd : entryOf d with
    | error f => rw [hd] at h; cases h
    | ok e =>
      cases hrest : ds.mapM entryOf with
      | error f => rw [hd, hrest] at h; cases h
      | ok rest =>
        rw [hd, hrest] at h
        obtain rfl := Except.ok.inj h
        intro x hx
        rcases List.mem_cons.1 hx with rfl | hx
        · obtain ⟨hname, hvalue⟩ := hds d List.mem_cons_self
          exact isOneLine_entryOf hd hname hvalue
        · exact ih hrest (fun y hy => hds y (List.mem_cons_of_mem _ hy)) x hx

theorem areOneLine_entriesOf {ds : Declarations} {es : Entries} (h : entriesOf ds = .ok es)
    (hds : ds.AreOneLine) : es.AreOneLine := by
  unfold entriesOf at h
  cases hm : ds.mapM entryOf with
  | error f => rw [hm] at h; cases h
  | ok rest =>
    rw [hm] at h
    obtain rfl := Except.ok.inj h
    have hrest := areOneLine_mapM hm hds
    intro e he
    have hmem : e ∈ [] ∨ e ∈ rest := mem_or_of_mem_merge he
    exact hrest e (hmem.resolve_left List.not_mem_nil)

end Restyle.Style
