import Restyle.Proofs.SoundStore

/-!
Opening a store: its directory is made, and the index comes back from the manifest.
-/
namespace Restyle

open Restyle.Tree BackupEntry

namespace Tree

variable {t t' : Tree}

theorem isDirectory_iff {p : Path} :
    t.isDirectory p = true ↔ t.find p = .ok (p.resolve, some .directory) := by
  unfold isDirectory
  constructor
  · intro h
    split at h
    · next hf => rw [hf, (find_eq hf).1]
    · cases h
  · intro h
    rw [h]

theorem find_of_makeDirectory {p : Path} (hp : p.IsLegible) (h : t.makeDirectory p = .ok t') :
    t'.find p = .ok (p.resolve, some .directory) := by
  have hc := makeDirectory_changes (W := nowhere) (R := nowhere) hp h
  unfold makeDirectory at h
  split at h
  · cases h
  · cases h
  · next q hf =>
    cases h
    obtain ⟨rfl, hn⟩ := find_eq hf
    have hne : p.resolve ≠ [] := by
      intro e
      rw [e, node?_nil] at hn
      cases hn
    rw [hc.find hf, node?_put hne, if_pos rfl]

/-- A directory that was asked for is there. -/
theorem find_of_ensureDirectoryFrom (fuel : Nat) {p : Path} (hp : p.IsLegible)
    (h : t.ensureDirectoryFrom fuel p = (.ok (), t')) :
    t'.find p = .ok (p.resolve, some .directory) := by
  cases fuel with
  | zero =>
    unfold ensureDirectoryFrom at h
    split at h
    · next hm =>
      cases h
      exact find_of_makeDirectory hp hm
    · split at h
      · cases h
      · split at h
        · next hd =>
          cases h
          exact isDirectory_iff.1 hd
        · cases h
  | succ fuel =>
    unfold ensureDirectoryFrom at h
    split at h
    · next hm =>
      cases h
      exact find_of_makeDirectory hp hm
    · split at h
      · simp only at h
        split at h
        · cases h
        · split at h
          · cases h
          · split at h
            · next hm =>
              cases h
              exact find_of_makeDirectory hp hm
            · split at h
              · cases h
              · next hd =>
                cases h
                rw [not_or, Bool.not_eq_true', Bool.not_eq_false] at hd
                exact isDirectory_iff.1 hd.2
      · split at h
        · next hd =>
          cases h
          exact isDirectory_iff.1 hd
        · cases h

theorem walk_append {here p q : Path} (h : t.walk here p = .ok q) (p' : Path) :
    t.walk here (p ++ p') = t.walk q p' := by
  induction p generalizing here with
  | nil =>
    cases h
    rfl
  | cons n p ih =>
    rw [walk] at h
    rw [List.cons_append, walk]
    split at h
    · cases h
    · cases h
    · split at h
      · next e => rw [if_pos e]; exact ih h
      · next e =>
        rw [if_neg e]
        split at h
        · next e => rw [if_pos e]; exact ih h
        · next e =>
          rw [if_neg e]
          split at h
          · cases h
          · next e => rw [if_neg e]; exact ih h

theorem walk_of_find {p q : Path} {n : Option Node} (h : t.find p = .ok (q, n)) :
    t.walk [] p = .ok q := by
  unfold find follow at h
  split at h
  · next hf =>
    obtain ⟨rfl, -⟩ := Prod.mk.inj (Except.ok.inj h)
    split at hf
    · cases hf
    · split at hf
      · cases hf
      · exact hf
  · cases h

theorem refusal?_append {p q : Path} :
    Path.refusal? (p ++ q) = none ↔ p.refusal? = none ∧ q.refusal? = none := by
  unfold Path.refusal? Path.hasHalf Path.hasNul
  rw [List.any_append, List.any_append]
  cases p.any fun n => (Text.nameFault? n).isSome <;>
    cases q.any fun n => (Text.nameFault? n).isSome <;>
    cases p.any fun n => n.toList.contains '\x00' <;>
    cases q.any fun n => n.toList.contains '\x00' <;> simp

/-- A name in a directory can be asked for, unless that would be too long. -/
theorem find_in_directory {p : Path} {n : String} (h : t.find p = .ok (p.resolve, some .directory))
    (hn : IsName n ∧ n ≠ "..") (hask : Path.refusal? [n] = none)
    (hshort : n.utf8ByteSize ≤ maxNameBytes) :
    (∃ e, t.find (p ++ [n]) = .error e ∧ e.refusal = .nameTooLong) ∨
      ∃ m, t.find (p ++ [n]) = .ok ((p ++ [n]).resolve, m) := by
  have hp := refusal?_of_find_ok h
  have hd : t.node? p.resolve = some .directory := node?_of_find h
  have hlast : t.walk [] (p ++ [n]) = .ok (p.resolve ++ [n]) := by
    rw [walk_append (walk_of_find h), walk, hd]
    simp only
    rw [if_neg hn.2, if_neg hn.1.1, if_neg (Nat.not_lt.2 hshort)]
    rfl
  have hplace : Path.IsPlace [n] := fun m hm => by
    rw [List.mem_singleton.1 hm]
    exact hn
  unfold find follow
  rw [refusal?_append.2 ⟨hp, hask⟩]
  simp only
  by_cases hlong : maxPathBytes < (Path.text (p ++ [n])).utf8ByteSize
  · rw [if_pos hlong]
    exact .inl ⟨_, rfl, rfl⟩
  · rw [if_neg hlong, hlast, Path.resolve_append_of_isPlace p hplace]
    exact .inr ⟨_, rfl⟩

end Tree

namespace Backups

variable {b b' : Backups} {t t' : Tree}

/-- What loading a store comes to. -/
structure Loaded (t : Tree) (home : Path) (b : Backups) (t' : Tree) : Prop where
  root : b.root = home
  directory : ∃ name, b.directory = home.join name
  available : b.available = true → t'.find b.directory = .ok (b.place, some .directory)
  tree : t' = (t.ensureDirectory b.directory).2
  index : loadIndex t' b.manifestPath = .ok b.index

theorem load_root {root : Path} {settings : Settings} (h : load t root settings = .ok (b, t')) :
    b.root = root := by
  unfold load at h
  split at h
  · simp only [bind, Except.bind] at h
    split at h
    · cases h
    · split at h
      · cases h
      · cases h
        rfl
  · cases h

theorem load_eq_ok {root : Path} {settings : Settings} (hroot : root.IsLegible)
    (h : load t root settings = .ok (b, t')) : Loaded t root b t' := by
  unfold load at h
  split at h
  · next name _ =>
    simp only [bind, Except.bind] at h
    split at h
    · cases h
    · next directory hchecked =>
      obtain ⟨-, rfl⟩ := checked_eq_ok.1 hchecked
      split at h
      · cases h
      · next index hindex =>
        cases h
        refine ⟨rfl, ⟨name, rfl⟩, ?_, rfl, hindex⟩
        intro hok
        have hlegible := hroot.join name
        cases hmade : t.ensureDirectory (root.join name) with
        | mk made t1 =>
          rw [hmade] at hok
          cases made with
          | error e => cases hok
          | ok u => exact find_of_ensureDirectoryFrom _ hlegible hmade
  · cases h

/-- A manifest that cannot be read gives no records. -/
theorem index_of_unread {p : Path} {index : BackupIndex} (h : loadIndex t p = .ok index)
    {e : TreeError} (hr : t.read p = .error e) : index = [] := by
  have htext : Component.readText t p = .error (.tree e) := by
    unfold Component.readText
    rw [hr]
  unfold loadIndex at h
  split at h
  · cases h
  · rw [htext] at h
    cases h
    rfl

/-- The index comes from a manifest that the store made, or is empty. -/
theorem loadIndex_cases (hm : ∀ bytes, t.node? b.manifestPath.resolve = some (.file bytes) →
      ∃ index, b.IsSound index ∧ bytes = manifestBytes index) {index : BackupIndex}
    (h : loadIndex t b.manifestPath = .ok index) : b.IsSound index := by
  cases hr : t.read b.manifestPath with
  | ok bytes =>
    obtain ⟨index', hs, rfl⟩ := hm bytes (node?_of_read hr)
    rw [loadIndex_manifest hs (read_eq_ok.1 hr)] at h
    obtain rfl := Except.ok.inj h
    exact hs.joined
  | error e =>
    rw [index_of_unread h hr]
    exact isSound_nil b

theorem isSome_of_loadIndex {p : Path} {index : BackupIndex} (h : loadIndex t p = .ok index)
    {e : TreeError} (he : t.find p = .error e) : e.refusal ≠ .nameTooLong := by
  intro hlong
  unfold loadIndex Tree.exists? at h
  rw [he] at h
  simp only [hlong, if_true] at h
  cases h

theorem Loaded.rooted {root : Path} (h : Loaded t root b t') (hroot : root.IsPlace) :
    b.IsRooted := by
  obtain ⟨name, hd⟩ := h.directory
  refine ⟨h.root ▸ hroot, ?_⟩
  rw [hd]
  exact hroot.isPlain.isLegible.join name

theorem Loaded.changes {root : Path} (h : Loaded t root b t') (hroot : root.IsPlace)
    {W R : Path → Prop} : Changes W R t t' := by
  rw [h.tree]
  exact ensureDirectory_changes t (h.rooted hroot).directory

/-- Loading makes a store if the manifest that is there was made by it. -/
theorem Loaded.isStore {root : Path} (h : Loaded t root b t') (hroot : root.IsPlace)
    (ht : t.IsProper)
    (hm : ∀ bytes, t.node? b.manifestPath.resolve = some (.file bytes) →
      ∃ index, b.IsSound index ∧ bytes = manifestBytes index) : b.IsStore t' := by
  have hc : Changes nowhere nowhere t t' := h.changes hroot
  have hm' : ∀ bytes, t'.node? b.manifestPath.resolve = some (.file bytes) →
      ∃ index, b.IsSound index ∧ bytes = manifestBytes index := by
    intro bytes hn
    have hsame := hc.file? (p := b.manifestPath.resolve) (fun hw => hw) fun hr => hr
    exact hm bytes (file?_eq_some.1 (hsame ▸ file?_eq_some.2 hn))
  refine ⟨h.rooted hroot, hc.proper ht, loadIndex_cases hm' h.index, hm', ?_⟩
  intro ha
  have hname : IsName manifestName ∧ manifestName ≠ ".." := by decide
  rcases find_in_directory (h.available ha) hname (by decide) (by decide) with
    ⟨e, he, hlong⟩ | hfound
  · exact absurd hlong (isSome_of_loadIndex h.index he)
  · exact hfound

/-- A store that is loaded again, in the same directory, is one still. -/
theorem Loaded.isStore_again (h : Loaded t b.root b' t') (hs : b.IsStore t)
    (hd : b'.directory = b.directory) : b'.IsStore t' := by
  refine h.isStore hs.rooted.root hs.proper fun bytes hn => ?_
  rw [manifestPath_congr hd] at hn
  obtain ⟨index, hsound, hbytes⟩ := hs.manifest bytes hn
  exact ⟨index, hsound.congr h.root hd, hbytes⟩

/-- What the manifest says is there again, with its halves joined. -/
theorem Loaded.index_eq (h : Loaded t b.root b' t') (hroot : b.root.IsPlace)
    (hd : b'.directory = b.directory) {index : BackupIndex} (hs : b.IsSound index)
    (hf : t.find b.manifestPath =
      .ok (b.manifestPath.resolve, some (.file (manifestBytes index)))) :
    b'.index = index.joined ∧ b'.IsSound index ∧ t'.find b'.manifestPath =
      .ok (b'.manifestPath.resolve, some (.file (manifestBytes index))) := by
  have hc : Changes nowhere nowhere t t' := h.changes hroot
  have hs' : b'.IsSound index := hs.congr h.root hd
  have hfind : t'.find b'.manifestPath =
      .ok (b'.manifestPath.resolve, some (.file (manifestBytes index))) := by
    rw [manifestPath_congr hd]
    exact hc.find_some hf (fun h => h) fun h => h
  have hl := h.index
  rw [loadIndex_manifest hs' hfind] at hl
  exact ⟨(Except.ok.inj hl).symm, hs', hfind⟩

/-- What was saved of a file is there again. -/
theorem Loaded.records (h : Loaded t b.root b' t') (hroot : b.root.IsPlace)
    (hd : b'.directory = b.directory) {file : Path} (hs : b.IsSaved t file) :
    AreAlike (recordsOf b.index file) (recordsOf b'.index file) ∧ b'.IsSaved t' file := by
  obtain ⟨index, hf, hsound, hsame⟩ := hs
  obtain ⟨hindex, hsound', hfind⟩ := h.index_eq hroot hd hsound hf
  rw [← hindex] at hsame
  refine ⟨hsame, index, hfind, hsound', ?_⟩
  rw [← hindex]
  exact areAlike_refl _

/-- Without a manifest the index is empty. -/
theorem Loaded.index_of_none {root : Path} (h : Loaded t root b t')
    (hn : t'.file? b.manifestPath.resolve = none) : b.index = [] := by
  cases hr : t'.read b.manifestPath with
  | ok bytes =>
    have hsome := file?_eq_some.2 (node?_of_read hr)
    rw [hn] at hsome
    cases hsome
  | error e => exact index_of_unread h.index hr

/-- A store that was loaded can be loaded again while there is an index to be had. -/
theorem load_again {root : Path} {settings : Settings} (h : load t root settings = .ok (b, t'))
    {t1 : Tree} {index : BackupIndex}
    (hl : loadIndex (t1.ensureDirectory b.directory).2 b.manifestPath = .ok index) :
    ∃ b1, load t1 root settings = .ok (b1, (t1.ensureDirectory b.directory).2) ∧
      b1.directory = b.directory ∧ b1.index = index := by
  unfold load at h
  split at h
  · next name hname =>
    simp only [bind, Except.bind] at h
    split at h
    · cases h
    · next directory hchecked =>
      split at h
      · cases h
      · cases h
        refine ⟨{ root, settings, directory
                  available := (t1.ensureDirectory directory).1.isOk, index }, ?_, rfl, rfl⟩
        have hl' : loadIndex (t1.ensureDirectory directory).2 (directory ++ [manifestName]) =
            .ok index := hl
        unfold load
        simp only [hname, hchecked, bind, Except.bind, hl']
        rfl
  · cases h

end Backups

end Restyle
