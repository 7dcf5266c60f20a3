import Restyle.Proofs.LatestCopy

/-!
Which files have a copy in common. Copies of files of the project lie where the files lie in it, and
copies of all other files in one directory more of the same store. The project may have a directory
of that name as well, so a file outside has its copies where one of the project has its own.
-/
namespace Restyle

namespace Path

theorem empty_notMem_resolve (p : Path) : "" ∉ p.resolve := by
  have enters (here : Path) (hhere : "" ∉ here) : "" ∉ p.foldl enter here := by
    induction p generalizing here with
    | nil => exact hhere
    | cons n p ih =>
      apply ih
      intro hmem
      unfold enter at hmem
      split at hmem
      · exact hhere ((List.dropLast_sublist here).mem hmem)
      · split at hmem
        · exact hhere hmem
        · next hne =>
          rcases List.mem_append.1 hmem with hmem | hmem
          · exact hhere hmem
          · exact hne (List.mem_singleton.1 hmem).symm
  exact enters [] List.not_mem_nil

end Path

namespace Backups

/-- The path below the store that the copies of a file go beside. -/
def mirror (b : Backups) (file : Path) : Path := (b.root.below? file).getD (outside :: file)

/-- Whether the copies of the first path go where those of the second go, although the second is
another one. -/
inductive Shadows (b : Backups) : Path → Path → Prop
  /-- A file outside of the project, and the file of the project at the place where the first one is
  mirrored. -/
  | away {file : Path} (out : ¬ b.root <+: file) (named : file ≠ []) :
      Shadows b file (b.root ++ outside :: file)
  /-- The directory of the project, and what has its name in it. -/
  | home : Shadows b b.root (b.root ++ [b.root.name])

variable {b : Backups} {file file' p q : Path} {timestamp timestamp' : Int}

theorem mirror_inside (b : Backups) (p : Path) : b.mirror (b.root ++ p) = p := by
  unfold mirror
  rw [Path.below?_eq_some.2 rfl, Option.getD_some]

theorem mirror_away (h : ¬ b.root <+: file) : b.mirror file = outside :: file := by
  unfold mirror
  cases hb : b.root.below? file with
  | none => rfl
  | some p => exact absurd ⟨p, Path.below?_eq_some.1 hb⟩ h

/-- A copy is told by its time, by the directory that its file is mirrored in and by the name of the
file. -/
theorem copyPath_eq_iff_mirror :
    b.copyPath file timestamp = b.copyPath file' timestamp' ↔
      timestamp = timestamp' ∧ (b.mirror file).dropLast = (b.mirror file').dropLast ∧
        file.name = file'.name := by
  rw [copyPath_eq, copyPath_eq, List.append_cancel_left_eq]
  constructor
  · intro h
    obtain ⟨hdirs, hnames⟩ := List.append_inj' h rfl
    obtain ⟨hname, htime⟩ := copyName_injective (List.singleton_inj.1 hnames)
    exact ⟨htime, hdirs, hname⟩
  · rintro ⟨rfl, hdirs, hname⟩
    unfold mirror at hdirs
    unfold tail copyName
    rw [hdirs, hname]

/-! ### Files with the same name in the same directory -/

theorem name_append (p : Path) (h : q ≠ []) : Path.name (p ++ q) = q.name := by
  unfold Path.name
  rw [List.getLastD_eq_getLast?, List.getLastD_eq_getLast?, List.getLast?_append_of_ne_nil _ h]

theorem eq_of_dropLast_of_name (hp : p ≠ []) (hq : q ≠ []) (hdirs : p.dropLast = q.dropLast)
    (hname : p.name = q.name) : p = q := by
  rw [eq_dropLast_append_name [] hp, eq_dropLast_append_name [] hq, hdirs]
  exact congrArg (q.dropLast ++ [·]) hname

/-- Only the root of the tree has no name. -/
theorem eq_nil_of_name (hp : "" ∉ p) (h : p.name = "") : p = [] := by
  by_contra hne
  exact hp (h ▸ name_mem hne)

/-- Two files of the project. -/
theorem shadows_of_inside (hdirs : p.dropLast = q.dropLast)
    (hname : Path.name (b.root ++ p) = Path.name (b.root ++ q)) :
    b.root ++ p = b.root ++ q ∨ b.Shadows (b.root ++ p) (b.root ++ q) ∨
      b.Shadows (b.root ++ q) (b.root ++ p) := by
  have alone {q : Path} (hq : q ≠ []) (hdirs : q.dropLast = [])
      (hname : Path.name (b.root ++ q) = b.root.name) : b.Shadows b.root (b.root ++ q) := by
    rw [eq_dropLast_append_name b.root hq, hdirs, hname]
    exact .home
  by_cases hp : p = []
  · subst hp
    by_cases hq : q = []
    · exact .inl (by rw [hq])
    · rw [List.append_nil] at hname ⊢
      exact .inr (.inl (alone hq hdirs.symm hname.symm))
  · by_cases hq : q = []
    · subst hq
      rw [List.append_nil] at hname ⊢
      exact .inr (.inr (alone hp hdirs hname))
    · rw [name_append _ hp, name_append _ hq] at hname
      exact .inl (congrArg (b.root ++ ·) (eq_of_dropLast_of_name hp hq hdirs hname))

/-- A file of the project and one outside of it. -/
theorem shadows_of_across (hin : b.root <+: file) (haway : ¬ b.root <+: file') (hfile : "" ∉ file)
    (hdirs : (b.mirror file).dropLast = (b.mirror file').dropLast)
    (hname : file.name = file'.name) : b.Shadows file' file := by
  have hnamed : file' ≠ [] := by
    rintro rfl
    rw [eq_nil_of_name hfile hname] at hin
    exact haway hin
  obtain ⟨p, rfl⟩ := hin
  rw [mirror_inside, mirror_away haway] at hdirs
  have hp : p ≠ [] := by
    rintro rfl
    rw [List.dropLast_cons_of_ne_nil hnamed] at hdirs
    cases hdirs
  have hsame : p = outside :: file' := by
    refine eq_of_dropLast_of_name hp (List.cons_ne_nil _ _) hdirs ?_
    rw [← name_append b.root hp, hname]
    exact (name_append [outside] hnamed).symm
  rw [hsame]
  exact .away haway hnamed

/-- Two files outside of the project. -/
theorem eq_of_away (haway : ¬ b.root <+: file) (haway' : ¬ b.root <+: file') (hfile : "" ∉ file)
    (hfile' : "" ∉ file') (hdirs : (b.mirror file).dropLast = (b.mirror file').dropLast)
    (hname : file.name = file'.name) : file = file' := by
  rw [mirror_away haway, mirror_away haway'] at hdirs
  by_cases hnil : file = []
  · subst hnil
    exact (eq_nil_of_name hfile' hname.symm).symm
  · have hnil' : file' ≠ [] := by
      rintro rfl
      exact hnil (eq_nil_of_name hfile hname)
    rw [List.dropLast_cons_of_ne_nil hnil, List.dropLast_cons_of_ne_nil hnil'] at hdirs
    exact eq_of_dropLast_of_name hnil hnil' (List.cons.inj hdirs).2 hname

theorem Shadows.mirrored (h : b.Shadows file file') :
    (b.mirror file).dropLast = (b.mirror file').dropLast ∧ file.name = file'.name := by
  cases h with
  | away out named =>
    have hname : Path.name (b.root ++ ([outside] ++ file)) = file.name := by
      rw [name_append _ (by simp), name_append _ named]
    rw [mirror_away out, mirror_inside]
    exact ⟨rfl, hname.symm⟩
  | home =>
    have hroot := b.mirror_inside []
    rw [List.append_nil] at hroot
    rw [hroot, mirror_inside, name_append _ (List.cons_ne_nil _ _)]
    exact ⟨rfl, rfl⟩

/-- Two resolved paths have a copy in common exactly if it is of one time and they are one path, or
one of them lies outside of the project and the other where it is mirrored. What else there is are
the project's directory and what has its name in it. -/
theorem copyPath_eq_iff_shadows (b : Backups) (file file' : Path) (timestamp timestamp' : Int) :
    b.copyPath file.resolve timestamp = b.copyPath file'.resolve timestamp' ↔
      timestamp = timestamp' ∧
        (file.resolve = file'.resolve ∨ b.Shadows file.resolve file'.resolve ∨
          b.Shadows file'.resolve file.resolve) := by
  have hfile := file.empty_notMem_resolve
  have hfile' := file'.empty_notMem_resolve
  rw [copyPath_eq_iff_mirror]
  refine and_congr_right fun _ => ⟨?_, ?_⟩
  · rintro ⟨hdirs, hname⟩
    by_cases hin : b.root <+: file.resolve
    · by_cases hin' : b.root <+: file'.resolve
      · obtain ⟨p, hp⟩ := hin
        obtain ⟨q, hq⟩ := hin'
        rw [← hp, ← hq, mirror_inside, mirror_inside] at hdirs
        rw [← hp, ← hq] at hname ⊢
        exact shadows_of_inside hdirs hname
      · exact .inr (.inr (shadows_of_across hin hin' hfile hdirs hname))
    · by_cases hin' : b.root <+: file'.resolve
      · exact .inr (.inl (shadows_of_across hin' hin hfile' hdirs.symm hname.symm))
      · exact .inl (eq_of_away hin hin' hfile hfile' hdirs hname)
  · rintro (heq | hshadows | hshadows)
    · rw [heq]
      exact ⟨rfl, rfl⟩
    · exact hshadows.mirrored
    · obtain ⟨hdirs, hname⟩ := hshadows.mirrored
      exact ⟨hdirs.symm, hname.symm⟩

/-- The store of a project in which nothing was copied yet. -/
def emptyStore : Backups :=
  { root := ["w"], settings := Section.modification.defaults, directory := ["w", "copies"]
    available := true, index := [] }

/-- A sheet that is used by more than one project, and one of the project in a directory with the
name that the store has for what lies outside. -/
theorem copyPath_shared :
    ¬ ∀ (b : Backups) (file file' : Path) (timestamp timestamp' : Int), 0 ≤ timestamp →
      0 ≤ timestamp' →
      b.copyPath file.resolve timestamp = b.copyPath file'.resolve timestamp' →
      file.resolve = file'.resolve ∧ timestamp = timestamp' := by
  intro h
  have hsame : emptyStore.copyPath (Path.resolve ["home", "shared.css"]) 1700 =
      emptyStore.copyPath (Path.resolve ["w", "_external", "home", "shared.css"]) 1700 := by
    decide +kernel
  obtain ⟨hpath, -⟩ := h _ _ _ _ _ (by decide) (by decide) hsame
  revert hpath
  decide

end Backups

end Restyle
