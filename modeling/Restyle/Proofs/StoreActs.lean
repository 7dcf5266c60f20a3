import Restyle.Proofs.FailedEdit
import Restyle.Proofs.LoadedStore

/-!
The operations of a workspace work on the files that they name: changes on those of their plan,
taking back on those that were changed.
-/
namespace Restyle

open Restyle.Tree

namespace Plan

variable {p : Plan} {b b' : Backups} {t t' : Tree} {Q : Path → Prop}

theorem writeText_changes (t : Tree) {q : Path} (hq : q.IsLegible) (s : String) :
    Changes (· = q.resolve) nowhere t (writeText t q s).2 := by
  have h := writeText_cases t hq s
  revert h
  generalize writeText t q s = r
  intro h
  cases h with
  | refused write => exact .refl t
  | emptied encode changes file => exact changes
  | done encode changes find => exact changes

theorem writeSheet_changes (t : Tree) {s : SheetPlan} (hs : s.path.IsLegible) :
    Changes (· = s.path.resolve) nowhere t (writeSheet t s).2 := by
  have h := writeSheet_cases t hs
  revert h
  generalize writeSheet t s = r
  intro h
  cases h with
  | refused changes ofText => exact changes.mono (fun _ h => h.elim) fun _ h => h
  | emptied encode changes file => exact changes
  | done encode changes find => exact changes

theorem source_mem_files (p : Plan) : p.source.resolve ∈ p.files := List.mem_cons_self

theorem sheet_mem_files {s : SheetPlan} (h : p.sheet = some s) : s.path.resolve ∈ p.files := by
  refine List.mem_cons_of_mem _ (List.mem_map.2 ⟨s, ?_, rfl⟩)
  rw [h]
  exact List.mem_singleton_self s

/-- Writing a plan writes its files. -/
theorem write_changes (hp : p.source.IsLegible)
    (hs : ∀ s, p.sheet = some s → s.path.IsLegible) :
    Changes (· ∈ p.files) nowhere t (p.write t).2 := by
  have hsource (t : Tree) (s : String) :
      Changes (· ∈ p.files) nowhere t (writeText t p.source s).2 :=
    (writeText_changes t hp s).mono (fun q hq => hq ▸ p.source_mem_files) fun _ h => h
  have h1 := hsource t p.after
  unfold write
  split
  · next h => rw [h] at h1; exact h1
  · next written h =>
    rw [h] at h1
    split
    · exact h1
    · next s hsheet =>
      have h2 : Changes (· ∈ p.files) nowhere written (writeSheet written s).2 :=
        (writeSheet_changes written (hs s hsheet)).mono
          (fun q hq => hq ▸ sheet_mem_files hsheet) fun _ h => h
      split
      · next h => rw [h] at h2; exact h1.trans h2
      · next t2 h =>
        rw [h] at h2
        split
        · have h3 := hsource t2 p.before
          split <;> next h => rw [h] at h3; exact (h1.trans h2).trans h3
        · exact h1.trans h2

theorem backupSheet_works (h : b.IsStore t) (now : Readings)
    (hs : ∀ s, p.sheet = some s → s.path.IsLegible) (hQ : ∀ q ∈ p.files, Q q) :
    b.Works Q t (p.backupSheet b t now).2.1 (p.backupSheet b t now).2.2 := by
  unfold backupSheet
  cases hc : p.sheetToCopy with
  | none => exact .refl h
  | some path =>
    unfold sheetToCopy at hc
    obtain ⟨s, hsome, rfl⟩ := Option.map_eq_some_iff.1 hc
    have hsheet := (Option.filter_eq_some_iff.1 hsome).1
    have hw := Backups.create_works h now (hs s hsheet) (hQ _ (sheet_mem_files hsheet))
      sheetReason
    simp only
    split <;> next hr => rw [hr] at hw; exact hw

/-- Carrying out a plan works on its files, if these lie outside of the directory for backups. -/
theorem carryOut_works (h : b.IsStore t) (f : Framework) (now : Readings)
    (styles : Style.Declarations) (hp : p.source.IsLegible)
    (hs : ∀ s, p.sheet = some s → s.path.IsLegible) (hQ : ∀ q ∈ p.files, Q q)
    (hout : ∀ q, Q q → ¬ b.place <+: q) :
    b.Works Q t (p.carryOut f b t now styles).2.1 (p.carryOut f b t now styles).2.2 := by
  unfold carryOut
  have h1 := Backups.create_works h now hp (hQ _ p.source_mem_files) (sourceReason f)
  split
  · next hr => rw [hr] at h1; exact h1
  · next copy b1 t1 hr =>
    rw [hr] at h1
    have h2 := h1.trans (backupSheet_works h1.store now hs hQ)
    split
    · next hr => rw [hr] at h2; exact h2
    · next sheetCopy b2 t2 hr =>
      rw [hr] at h2
      have h3 : b.Works Q t b2 (p.write t2).2 := h2.trans (.ofFiles h2.store
        (fun q hq => by rw [Backups.place_congr h2.directory]; exact hout q hq)
        (write_changes hp hs) fun q hq => hQ q (hq.elim id fun h => h.elim))
      split <;> next hr => rw [hr] at h3; exact h3

/-- What carrying out a plan says that it wrote. -/
theorem written_of_carryOut {f : Framework} {now : Readings} {styles : Style.Declarations}
    {e : Edited} (h : p.carryOut f b t now styles = (.ok e, b', t')) :
    e.modifications.map (fun m => (m.path, m.after)) =
      (p.source, p.after) :: p.sheet.toList.map fun s => (s.path, s.content) := by
  unfold carryOut at h
  split at h
  · cases h
  · split at h
    · cases h
    · split at h
      · cases h
      · cases h
        simp [sourceModification, sheetModification, Function.comp_def]

/-- What carrying out a plan says that it did. -/
theorem modifications_of_carryOut {f : Framework} {now : Readings} {styles : Style.Declarations}
    {e : Edited} (h : p.carryOut f b t now styles = (.ok e, b', t')) :
    e.modifications.map (fun m => m.path) = p.source :: p.sheet.toList.map (fun s => s.path) := by
  have hwritten := congrArg (List.map Prod.fst) (written_of_carryOut h)
  simpa [Function.comp_def] using hwritten

theorem mem_files_iff {f : Framework} {now : Readings} {styles : Style.Declarations} {e : Edited}
    (h : p.carryOut f b t now styles = (.ok e, b', t')) {q : Path} :
    q ∈ p.files ↔ ∃ m ∈ e.modifications, m.path.resolve = q := by
  have hfiles : p.files = (e.modifications.map fun m => m.path).map Path.resolve := by
    rw [modifications_of_carryOut h]
    simp [files, Function.comp_def]
  rw [hfiles, List.map_map, List.mem_map]
  rfl

end Plan

namespace Workspace

open Backups

variable {t : Tree} {Q : Path → Prop}

/-- Whether an editor works on files of `Q`. Its own directory stays what it is. -/
structure Edits (Q : Path → Prop) (e : Editor) (t : Tree) (e' : Editor) (t' : Tree) : Prop where
  root : e'.root = e.root
  works : e.backups.Works Q t e'.backups t'

theorem Edits.trans {e e' e'' : Editor} {t' t'' : Tree} (h : Edits Q e t e' t')
    (h' : Edits Q e' t' e'' t'') : Edits Q e t e'' t'' :=
  ⟨h'.root.trans h.root, h.works.trans h'.works⟩

theorem record_edits {e : Editor} (h : e.backups.IsStore t) {file : Path} (hf : file.IsLegible)
    (hQ : Q file.resolve) (bytes : ByteArray) :
    Edits Q e t (e.record t file bytes).1 (e.record t file bytes).2 :=
  ⟨rfl, recordWrite_works h hf hQ bytes⟩

theorem recordAll_edits {e : Editor} (h : e.backups.IsStore t) {ms : List Modification}
    (hms : ∀ m ∈ ms, m.path.IsLegible ∧ Q m.path.resolve) :
    Edits Q e t (recordAll e t ms).1 (recordAll e t ms).2 := by
  induction ms generalizing e t with
  | nil => exact ⟨rfl, .refl h⟩
  | cons m ms ih =>
    obtain ⟨hf, hQ⟩ := hms m List.mem_cons_self
    have h1 := record_edits h hf hQ m.after.toUTF8
    exact h1.trans (ih h1.works.store fun m hm => hms m (List.mem_cons_of_mem _ hm))

theorem notifyAll_root (e : Editor) (events : List ChangeEvent) :
    (e.notifyAll events).root = e.root ∧ (e.notifyAll events).backups = e.backups := by
  unfold Editor.notifyAll
  induction events generalizing e with
  | nil => exact ⟨rfl, rfl⟩
  | cons x events ih => exact ih (e.notify x)

/-- Writing a file and recording that. -/
theorem write_record_edits {e : Editor} (h : e.backups.IsStore t)
    (hout : ∀ q, Q q → ¬ e.backups.place <+: q) {file : Path} (hf : file.IsLegible)
    (hQ : Q file.resolve) {written : ByteArray} {t' : Tree}
    (hw : t.write file written = .ok t') (bytes : ByteArray) :
    Edits Q e t (e.record t' file bytes).1 (e.record t' file bytes).2 := by
  have h1 : e.backups.Works Q t e.backups t' :=
    .ofFiles h hout (write_changes (R := nowhere) hf hw) fun q hq =>
      hq.elim (fun e => e ▸ hQ) fun h => h.elim
  exact ⟨rfl, h1.trans (recordWrite_works h1.store hf hQ bytes)⟩

theorem pathOf_isPlace {e : Editor} (h : e.root.IsPlace) {v : Value} {p : Path}
    (hp : e.pathOf v = .ok p) : p.IsPlace := by
  unfold Editor.pathOf at hp
  split at hp
  · next s =>
    cases hc : (e.root.join s).checked with
    | error f =>
      rw [hc] at hp
      cases hp
    | ok q =>
      obtain ⟨-, rfl⟩ := checked_eq_ok.1 hc
      rw [hc] at hp
      cases hp
      exact (h.isPlain.isLegible.join s).resolve
  · cases hp

/-- Rolling back restores a file and records that, or does nothing and says so. -/
theorem rollback_cases {e e' : Editor} {now : Clock} {v : Value} {timestamp : Option Value}
    {restored : Bool} {t' : Tree} {path : Path} (hpath : e.pathOf v = .ok path)
    (hlegible : path.IsLegible)
    (hr : e.rollback t now v timestamp = .ok (restored, e', t')) :
    (restored = false ∧ e' = e ∧ t' = t) ∨
    restored = true ∧ ∃ t1 bytes, e.backups.restore t path timestamp = .ok (true, t1) ∧
      t.write path bytes = .ok t1 ∧ e'.root = e.root ∧
      e'.backups = (e.backups.recordWrite t1 path bytes).1 ∧
      t' = (e.backups.recordWrite t1 path bytes).2 := by
  unfold Editor.rollback at hr
  simp only [hpath, bind, Except.bind] at hr
  split at hr
  · cases hr
  · next restoredTree hrestore =>
    obtain ⟨done, t1⟩ := restoredTree
    simp only at hr
    rcases restore_cases hrestore with ⟨rfl, rfl⟩ | ⟨rfl, bytes, hwrite⟩
    · cases hr
      exact .inl ⟨rfl, rfl, rfl⟩
    · have hread : t1.read path = .ok bytes := read_eq_ok.2 (find_of_write hlegible hwrite)
      simp only [hread, if_true] at hr
      cases hr
      exact .inr ⟨rfl, t1, bytes, hrestore, hwrite, rfl, rfl, rfl⟩

/-- Where rolling back comes to an end the file was named. -/
theorem exists_path_of_rollback {e : Editor} {now : Clock} {v : Value} {timestamp : Option Value}
    {r : Bool × Editor × Tree} (hr : e.rollback t now v timestamp = .ok r) :
    ∃ path, e.pathOf v = .ok path := by
  cases hpath : e.pathOf v with
  | error f =>
    unfold Editor.rollback at hr
    simp only [hpath, bind, Except.bind] at hr
    cases hr
  | ok path => exact ⟨path, rfl⟩

theorem rollback_edits {e e' : Editor} (h : e.backups.IsStore t) (hroot : e.root.IsPlace)
    (hout : ∀ q, Q q → ¬ e.backups.place <+: q) {file : Value}
    (hQ : ∀ q, e.pathOf file = .ok q → Q q) {now : Clock} {timestamp : Option Value}
    {restored : Bool} {t' : Tree}
    (hr : e.rollback t now file timestamp = .ok (restored, e', t')) : Edits Q e t e' t' := by
  obtain ⟨path, hpath⟩ := exists_path_of_rollback hr
  have hplace := pathOf_isPlace hroot hpath
  have hlegible := hplace.isPlain.isLegible
  have hq : Q path.resolve := by
    rw [Path.resolve_of_isPlace hplace]
    exact hQ path hpath
  rcases rollback_cases hpath hlegible hr with
    ⟨-, rfl, rfl⟩ | ⟨-, t1, bytes, -, hwrite, hroot', hbackups, rfl⟩
  · exact ⟨rfl, .refl h⟩
  · have hedits := write_record_edits h hout hlegible hq hwrite bytes
    exact ⟨hroot', hbackups ▸ hedits.works⟩

theorem writeBack_edits {e : Editor} (h : e.backups.IsStore t)
    (hout : ∀ q, Q q → ¬ e.backups.place <+: q) {ms : List Modification}
    (hms : ∀ m ∈ ms, m.path.IsLegible ∧ Q m.path.resolve) :
    Edits Q e t (e.writeBack t ms).2.1 (e.writeBack t ms).2.2 := by
  induction ms generalizing e t with
  | nil => exact ⟨rfl, .refl h⟩
  | cons m ms ih =>
    obtain ⟨hf, hQ⟩ := hms m List.mem_cons_self
    unfold Editor.writeBack
    simp only
    split
    · exact ⟨rfl, .refl h⟩
    · next t1 hw =>
      have hresolve : Q m.path.resolve.resolve := by
        rw [Path.resolve_resolve]
        exact hQ
      have h1 := write_record_edits h hout hf.resolve.isPlain.isLegible hresolve
        hw m.before.toUTF8
      exact h1.trans (ih h1.works.store
        (fun q hq => by rw [place_congr h1.works.directory]; exact hout q hq)
        fun m hm => hms m (List.mem_cons_of_mem _ hm))

theorem undo_edits {e : Editor} (h : e.backups.IsStore t)
    (hout : ∀ q, Q q → ¬ e.backups.place <+: q) (now : Clock) {u : Undo}
    (hms : ∀ m ∈ u.modifications, m.path.IsLegible ∧ Q m.path.resolve) :
    Edits Q e t (e.undo t now u).2.1 (e.undo t now u).2.2 := by
  unfold Editor.undo
  split
  · have hreverse : ∀ m ∈ u.modifications.reverse, m.path.IsLegible ∧ Q m.path.resolve :=
      fun m hm => hms m (List.mem_reverse.1 hm)
    have hw := writeBack_edits h hout hreverse
    split
    · next hr => rw [hr] at hw; exact hw
    · next paths e' t' hr =>
      rw [hr] at hw
      obtain ⟨hroot, hbackups⟩ := notifyAll_root e' (paths.map (Editor.fileChanged now))
      exact ⟨hroot.trans hw.root, by rw [hbackups]; exact hw.works⟩
  · exact ⟨rfl, .refl h⟩

/-- What a change says that it wrote are the files of its plan. -/
theorem Plans.modification {w : Workspace} {now now' : Readings} {payload : Value} {plan : Plan}
    (h : w.Plans t now payload plan) (hs : w.editor.backups.IsStore t) {f : Framework}
    {b b' : Backups} {t' t'' : Tree} {styles : Style.Declarations} {e : Edited}
    (carried : plan.carryOut f b t' now' styles = (.ok e, b', t'')) {m : Modification}
    (hm : m ∈ e.modifications) : m.path.IsLegible ∧ m.path.resolve ∈ plan.files := by
  refine ⟨?_, (Plan.mem_files_iff carried).2 ⟨m, hm, rfl⟩⟩
  have hmem := List.mem_map_of_mem (f := fun m : Modification => m.path) hm
  rw [Plan.modifications_of_carryOut carried] at hmem
  rcases List.mem_cons.1 hmem with hp | hmem
  · rw [hp]
    exact (h.source_isPlace hs.proper).isPlain.isLegible
  · obtain ⟨s, hsheet, hp⟩ := List.mem_map.1 hmem
    rw [Option.mem_toList] at hsheet
    rw [← hp]
    exact h.sheet_isLegible hs.rooted s hsheet

theorem apply_edits {w : Workspace} (h : w.editor.backups.IsStore t)
    (hout : ∀ q, Q q → ¬ w.editor.backups.place <+: q) (now : Readings) {payload : Value}
    (hQ : ∀ plan, w.Plans t now payload plan → ∀ q ∈ plan.files, Q q) :
    Edits Q w.editor t (w.apply t now payload).2.1.editor (w.apply t now payload).2.2 := by
  have happly := w.apply_cases t now payload
  revert happly
  generalize w.apply t now payload = r
  intro happly
  cases happly with
  | unplanned fails editor =>
    rw [editor]
    exact ⟨rfl, .refl h⟩
  | @failed plan f styles p report b w' t' planned carried fails editor =>
    have hw := Plan.carryOut_works h f now styles
      (planned.source_isPlace h.proper).isPlain.isLegible (planned.sheet_isLegible h.rooted)
      (hQ plan planned) hout
    rw [carried] at hw
    rw [editor]
    exact ⟨rfl, hw⟩
  | @done plan f styles e report b w' t1 events planned carried succeeds editor =>
    have hsource := (planned.source_isPlace h.proper).isPlain.isLegible
    have hsheet := planned.sheet_isLegible h.rooted
    have hw := Plan.carryOut_works h f now styles hsource hsheet (hQ plan planned) hout
    rw [carried] at hw
    have hms : ∀ m ∈ e.modifications, m.path.IsLegible ∧ Q m.path.resolve := by
      intro m hm
      obtain ⟨hlegible, hfile⟩ := planned.modification h carried hm
      exact ⟨hlegible, hQ plan planned _ hfile⟩
    have hrecorded := recordAll_edits (e := { w.editor with backups := b }) hw.store hms
    obtain ⟨hroot, hbackups⟩ := notifyAll_root
      (recordAll { w.editor with backups := b } t1 e.modifications).1 events
    rw [editor]
    refine ⟨hroot.trans hrecorded.root, ?_⟩
    rw [hbackups]
    exact hw.trans hrecorded.works

end Workspace

end Restyle
