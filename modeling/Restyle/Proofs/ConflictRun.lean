import Restyle.Proofs.Baseline
import Restyle.Proofs.FailedHistory

/-!
Conflicts over whole runs. What is noted of a file whenever it is copied or written is what its
latest record expects; so a file is in conflict if and only if it has been changed since.
-/
namespace Restyle

open Restyle.Tree

namespace Plan

open Backups

variable {p : Plan} {b b' : Backups} {t t' : Tree} {live : Prop} {seen : Ledger} {file : Path}
  {now : Readings}

/-- A file that has records is there still once a plan was carried out. -/
theorem CarriedOut.there (h : p.CarriedOut now b t b' t') (hf : file.IsPlace)
    {content? : Option ByteArray} (ha : Agrees live b t file content?) (hl : live)
    (hsome : recordsOf b'.index file ≠ []) : ∃ n, t'.find file = .ok (file, n) := by
  cases h.fate file hf with
  | kept records copy =>
    obtain ⟨content, -, hfind⟩ := ha.same hl (records ▸ hsome)
    exact ⟨_, h.changes.find hfind⟩
  | swept records sweeps => exact absurd records hsome
  | renewed before newest later hash unwritten found copy => exact found

/-- Once a plan was carried out files that have records have what is noted of them. -/
theorem carryOut_same (h : b.IsStore t) {f : Framework} {styles : Style.Declarations} {e : Edited}
    (hcarried : p.carryOut f b t now styles = (.ok e, b', t'))
    (hp : p.source.IsLegible) (hs : ∀ s, p.sheet = some s → s.path.IsLegible)
    (hout : ∀ q ∈ p.files, ¬ b.place <+: q) (hf : file.IsPlace) (haway : ¬ b.place <+: file)
    (ha : Agrees live b t file (seen file)) (hl : live) (hsome : recordsOf b'.index file ≠ []) :
    ∃ content, seen.noteAll e.modifications file = some content ∧
      t'.find file = .ok (file, some (.file content)) := by
  have hout' := carryOut_carriedOut h f now styles hp hs hout
  rw [hcarried] at hout'
  -- the files of the plan have what was written; of others neither records nor bytes have changed
  by_cases hfile : file ∈ p.files
  · obtain ⟨content, hnoted, hcontent⟩ := carryOut_noted hp hs hcarried seen hfile
    obtain ⟨n, hn⟩ := hout'.there hf ha hl hsome
    exact ⟨content, hnoted, find_of_file? hn hcontent⟩
  · have hrest : ∀ m ∈ e.modifications, m.path.resolve ≠ file := fun m hm heq =>
      hfile ((mem_files_iff hcarried).2 ⟨m, hm, heq⟩)
    have hsame := hout'.others file hf fun hmem => hfile (copied_subset_files hmem)
    rw [Ledger.noteAll_of_notMem hrest]
    refine (ha.congr hsame hout'.changes fun _ => ⟨?_, haway⟩).same hl hsome
    rintro (h | h)
    · exact haway h
    · exact hfile h

/-- Where only copies are noted, and the files are what they were. -/
theorem CarriedOut.reconciled (h : p.CarriedOut now b t b' t') (hr : Reconciled live b t seen)
    (hs : Prunes b.settings)
    (hwhole : live → ∀ q, ¬ b.place <+: q → t'.file? q = t.file? q) :
    Reconciled live b' t' (seen.noteCopies b b' t) := by
  refine ⟨h.store, h.mirrored hs hr.mirrored, fun file hf haway => ?_⟩
  rw [place_congr h.directory] at haway
  have hagrees := hr.agrees file hf haway
  cases h.fate file hf with
  | kept records copy =>
    have hsame : b'.history file = b.history file := by
      rw [history_eq hf, history_eq hf, records]
    rw [noteCopies_of_same hsame]
    refine ⟨fun e he => hagrees.expects e (records ▸ he), fun hl hsome => ?_⟩
    obtain ⟨content, hcontent, hfind⟩ := hagrees.same hl (records ▸ hsome)
    refine ⟨content, hcontent, find_of_file? (h.changes.find hfind) ?_⟩
    rw [hwhole hl file haway, file?_eq_some, node?_of_find hfind]
  | swept records sweeps => exact agrees_of_none records
  | @renewed e bytes before newest later hash unwritten found copy =>
    -- nothing was recorded over the new copy, so its own hash is what is expected
    obtain ⟨n, hn⟩ := found
    have hnoted : seen.noteCopies b b' t file = some bytes := by
      rw [← before]
      apply noteCopies_of_newer (e := e)
      · rw [history_eq hf, newest]
      · rw [history_eq hf]
        exact later
    refine ⟨fun e' he' => ⟨bytes, hnoted, ?_⟩, fun hl _ => ⟨bytes, hnoted, ?_⟩⟩
    · cases newest.symm.trans he'
      rw [BackupEntry.expected_of_unwritten unwritten, hash]
    · apply find_of_file? hn
      rw [hwhole hl file haway, before]

end Plan

namespace Conflict

/-- A file that has records is in conflict if and only if it cannot be read or has other bytes than
are expected of it. -/
theorem find_ne_nil_iff {b : Backups} {t : Tree} {file : Path} {e : BackupEntry}
    {content : ByteArray} (hlast : b.latest? file = some e)
    (hexpects : e.expected = .str (Digest.short content)) :
    find b t file ≠ [] ↔
      ∀ bytes, t.read file = .ok bytes → Digest.short bytes ≠ Digest.short content := by
  have hsame (bytes : ByteArray) : (e.expected == .str (Digest.short bytes)) =
      (Digest.short content == Digest.short bytes) := by
    rw [hexpects]
    rfl
  unfold find
  rw [hlast]
  simp only
  cases t.read file with
  | error f => simp
  | ok bytes =>
    simp only [hsame, Except.ok.injEq, forall_eq']
    split
    · next heq => simp [eq_of_beq heq]
    · next hne => simpa using fun heq => hne (by simp [heq])

theorem find_of_nil {b : Backups} {file : Path} (h : b.history file = []) (t : Tree) :
    find b t file = [] := by
  unfold find Backups.latest?
  rw [h]
  rfl

end Conflict

namespace Workspace

open Backups

variable {w : Workspace} {t : Tree} {live : Prop} {seen : Ledger} {now : Readings} {payload : Value}

/-- A change that is made notes what it wrote. -/
theorem apply_done_reconciled (h : Reconciled live w.editor.backups t seen)
    (hs : Prunes w.editor.backups.settings)
    (hout : ∀ plan, w.Plans t now payload plan → ∀ q ∈ plan.files,
      ¬ w.editor.backups.place <+: q)
    {e : Edited} (hok : (w.apply t now payload).1.outcome = .ok e) :
    Reconciled live (w.apply t now payload).2.1.editor.backups (w.apply t now payload).2.2
      (seen.noteAll e.modifications) := by
  have happly := w.apply_cases t now payload
  revert happly hok
  generalize w.apply t now payload = r
  intro hok happly
  cases happly with
  | unplanned fails editor =>
    rw [fails] at hok
    cases hok
  | failed planned carried fails editor =>
    rw [fails] at hok
    cases hok
  | @done plan f styles e' report b w' t1 events planned carried succeeds editor =>
    obtain rfl : e' = e := Except.ok.inj (succeeds.symm.trans hok)
    have hsource := (planned.source_isPlace h.store.proper).isPlain.isLegible
    have hsheet := planned.sheet_isLegible h.store.rooted
    have hcarried :=
      Plan.carryOut_carriedOut h.store f now styles hsource hsheet (hout plan planned)
    rw [carried] at hcarried
    have hlegible (m : Modification) (hm : m ∈ e'.modifications) : m.path.IsLegible :=
      (planned.modification h.store carried hm).1
    have hrecorded := recordAll_edits (Q := fun _ => True) (e := { w.editor with backups := b })
      hcarried.store fun m hm => ⟨hlegible m hm, trivial⟩
    obtain ⟨hmirrored, hc, hnone⟩ :=
      recordAll_keeps (e := { w.editor with backups := b }) hcarried.store hlegible
    obtain ⟨-, hbackups⟩ := notifyAll_root
      (recordAll { w.editor with backups := b } t1 e'.modifications).1 events
    rw [editor, hbackups]
    refine ⟨hrecorded.works.store, hmirrored (hcarried.mirrored hs h.mirrored), ?_⟩
    intro file hf haway
    rw [place_congr (hrecorded.works.directory.trans hcarried.directory)] at haway
    have haway' : ¬ b.place <+: file := place_congr hcarried.directory ▸ haway
    have hagrees := h.agrees file hf haway
    have hunwritten (hrest : ∀ m ∈ e'.modifications, m.path.resolve ≠ file) :
        Agrees False b t1 file (seen file) := by
      have hsame := hcarried.others file hf fun hmem => by
        obtain ⟨m, hm, heq⟩ := (Plan.mem_files_iff carried).1 (Plan.copied_subset_files hmem)
        exact hrest m hm heq
      exact ⟨fun e he => hagrees.expects e (hsame ▸ he), fun hl => hl.elim⟩
    have hexpects := recordAll_expects (e := { w.editor with backups := b }) hcarried.store
      hlegible hf haway' hunwritten
    refine ⟨hexpects.expects, ?_⟩
    intro hl hsome
    obtain ⟨content, hnoted, hfind⟩ := Plan.carryOut_same h.store carried hsource hsheet
      (hout plan planned) hf haway hagrees hl fun hn => hsome (hnone file hf hn)
    exact ⟨content, hnoted, hc.find_some hfind (ne_manifest_of_away haway') fun h => h⟩

/-- A change that fails notes what it copied. -/
theorem apply_failed_reconciled (h : Reconciled live w.editor.backups t seen)
    (hs : Prunes w.editor.backups.settings)
    (hout : ∀ plan, w.Plans t now payload plan → ∀ q ∈ plan.files,
      ¬ w.editor.backups.place <+: q)
    {p : Problem} (hfail : (w.apply t now payload).1.outcome = .error p)
    (hwhole : live → ∀ q, ¬ w.editor.backups.place <+: q →
      (w.apply t now payload).2.2.file? q = t.file? q) :
    Reconciled live (w.apply t now payload).2.1.editor.backups (w.apply t now payload).2.2
      (seen.noteCopies w.editor.backups (w.apply t now payload).2.1.editor.backups t) := by
  rcases apply_failed_cases h.store hout hfail with ⟨hbackups, htree⟩ | ⟨plan, -, hcarried⟩
  · have hseen : seen.noteCopies w.editor.backups w.editor.backups t = seen :=
      funext fun q => noteCopies_of_same rfl
    rw [hbackups, htree, hseen]
    exact h
  · exact hcarried.reconciled h hs hwhole

/-- Rolling back notes what the file was given back. -/
theorem rollback_reconciled {e e' : Editor} (h : Reconciled live e.backups t seen) {v : Value}
    {path : Path} (hpath : e.pathOf v = .ok path) (hp : path.IsPlace)
    (hout : ¬ e.backups.place <+: path) {now : Clock} {timestamp : Option Value} {restored : Bool}
    {t' : Tree} (hr : e.rollback t now v timestamp = .ok (restored, e', t')) :
    Reconciled live e'.backups t'
      (if restored then Function.update seen path (t'.file? path) else seen) := by
  have hlegible := hp.isPlain.isLegible
  rcases rollback_cases hpath hlegible hr with
    ⟨rfl, rfl, rfl⟩ | ⟨rfl, t1, bytes, -, hwrite, -, hbackups, rfl⟩
  · exact h
  · have hc := recordWrite_changes h.store.rooted t1 path bytes
    have hfind := find_of_write hlegible hwrite
    rw [Path.resolve_of_isPlace hp] at hfind
    have hfile : (e.backups.recordWrite t1 path bytes).2.file? path = some bytes := by
      rw [hc.file? (ne_manifest_of_away hout) fun h => h]
      exact file?_of_find hfind
    rw [if_pos rfl, hfile, hbackups]
    exact h.written hp hout hwrite

theorem writeBack_reconciled {e : Editor} (h : Reconciled live e.backups t seen)
    {ms : List Modification}
    (hms : ∀ m ∈ ms, m.path.IsLegible ∧ ¬ e.backups.place <+: m.path.resolve) :
    Reconciled live (e.writeBack t ms).2.1.backups (e.writeBack t ms).2.2
      (seen.noteBack e t ms) := by
  induction ms generalizing e t seen with
  | nil => exact h
  | cons m ms ih =>
    obtain ⟨hf, hout⟩ := hms m List.mem_cons_self
    unfold Editor.writeBack Ledger.noteBack
    simp only
    cases hw : t.write m.path.resolve m.before.toUTF8 with
    | error f => exact h
    | ok t1 =>
      have hout' : ¬ e.backups.place <+: m.path.resolve.resolve := by
        rw [Path.resolve_resolve]
        exact hout
      have hedits := write_record_edits (Q := fun q => ¬ e.backups.place <+: q) h.store
        (fun _ hq => hq) hf.resolve.isPlain.isLegible hout' hw m.before.toUTF8
      have hwritten := h.written hf.resolve hout hw
      refine ih (e := (e.record t1 m.path.resolve m.before.toUTF8).1) hwritten fun m' hm' => ?_
      rw [place_congr hedits.works.directory]
      exact hms m' (List.mem_cons_of_mem _ hm')

/-- Taking back notes what was written back. -/
theorem undo_reconciled {e : Editor} (h : Reconciled live e.backups t seen) {now : Clock} {u : Undo}
    (hms : ∀ m ∈ u.modifications, m.path.IsLegible ∧ ¬ e.backups.place <+: m.path.resolve) :
    Reconciled live (e.undo t now u).2.1.backups (e.undo t now u).2.2
      (if u.allowed then seen.noteBack e t u.modifications.reverse else seen) := by
  unfold Editor.undo
  split
  · have hback := writeBack_reconciled h fun m hm => hms m (List.mem_reverse.1 hm)
    split
    · next hr => rw [hr] at hback; exact hback
    · next paths e' t' hr =>
      rw [hr] at hback
      obtain ⟨-, hbackups⟩ := notifyAll_root e' (paths.map (Editor.fileChanged now))
      show Reconciled live (e'.notifyAll _).backups t' _
      rw [hbackups]
      exact hback
  · exact h

end Workspace

namespace Session

open Backups

variable {s s' : Session} {seen seen' : Ledger} {edits spoils : Prop}

/-- What can happen while a project is open, and what is noted of it. Others edit files only if
`edits`, and a change that fails leaves a file changed only if `spoils`. -/
inductive Noted (edits spoils : Prop) : Session → Ledger → Session → Ledger → Prop
  | applied {s : Session} {seen : Ledger} {e : Edited} (now : Readings) (payload : Value)
      (prunes : Prunes s.backups.settings)
      (within : ∀ plan, s.workspace.Plans s.tree now payload plan → ∀ q ∈ plan.files,
        ¬ s.backups.place <+: q)
      (succeeds : (s.workspace.apply s.tree now payload).1.outcome = .ok e) :
      Noted edits spoils s seen (s.applied now payload) (seen.noteAll e.modifications)
  | failed {s : Session} {seen : Ledger} {p : Problem} (now : Readings) (payload : Value)
      (prunes : Prunes s.backups.settings)
      (within : ∀ plan, s.workspace.Plans s.tree now payload plan → ∀ q ∈ plan.files,
        ¬ s.backups.place <+: q)
      (fails : (s.workspace.apply s.tree now payload).1.outcome = .error p)
      (whole : spoils ∨ ∀ q, ¬ s.backups.place <+: q →
        (s.applied now payload).tree.file? q = s.tree.file? q) :
      Noted edits spoils s seen (s.applied now payload)
        (seen.noteCopies s.backups (s.applied now payload).backups s.tree)
  | rollback {w : Workspace} {t t' : Tree} {e : Editor} {seen : Ledger} {restored : Bool}
      {path : Path} (now : Clock) (file : Value) (timestamp : Option Value)
      (names : w.editor.pathOf file = .ok path) (within : ¬ w.editor.backups.place <+: path)
      (done : w.editor.rollback t now file timestamp = .ok (restored, e, t')) :
      Noted edits spoils ⟨w, t⟩ seen ⟨{ w with editor := e }, t'⟩
        (if restored then Function.update seen path (t'.file? path) else seen)
  | undo {w : Workspace} {t : Tree} {seen : Ledger} (now : Clock) (u : Undo)
      (within : ∀ m ∈ u.modifications,
        m.path.IsLegible ∧ ¬ w.editor.backups.place <+: m.path.resolve) :
      Noted edits spoils ⟨w, t⟩ seen
        ⟨{ w with editor := (w.editor.undo t now u).2.1 }, (w.editor.undo t now u).2.2⟩
        (if u.allowed then seen.noteBack w.editor t u.modifications.reverse else seen)
  | settings {w : Workspace} {t : Tree} {seen : Ledger} (values : List (String × Value))
      (stays : namesDirectory values = false) :
      Noted edits spoils ⟨w, t⟩ seen
        ⟨{ w with editor := (w.editor.updateSettings t values).1 }, t⟩ seen
  /-- Looking something up, or changing who is told. -/
  | look {w w' : Workspace} {t : Tree} {seen : Ledger} (root : w'.editor.root = w.editor.root)
      (backups : w'.editor.backups = w.editor.backups) :
      Noted edits spoils ⟨w, t⟩ seen ⟨w', t⟩ seen
  /-- Someone else edits files. -/
  | edit {w : Workspace} {t t' : Tree} {seen : Ledger} (may : edits)
      (changes : Changes (fun q => ¬ w.editor.backups.place <+: q)
        (fun q => ¬ w.editor.backups.place <+: q) t t') :
      Noted edits spoils ⟨w, t⟩ seen ⟨w, t'⟩ seen

/-- One thing after the other from when the project was opened, and what was noted. -/
inductive Logged (root : Path) (settings : Settings.Both) (edits spoils : Prop) :
    Session → Ledger → Prop
  | opened {s : Session} (opened : Opened root settings s) :
      Logged root settings edits spoils s fun _ => none
  | act {s s' : Session} {seen seen' : Ledger} (before : Logged root settings edits spoils s seen)
      (noted : Noted edits spoils s seen s' seen') : Logged root settings edits spoils s' seen'
  | reload {s s' : Session} {seen : Ledger} (before : Logged root settings edits spoils s seen)
      (reload : Reload s s') : Logged root settings edits spoils s' seen

/-- Without what is noted of it, it is something that can happen. -/
theorem Noted.act (h : Noted edits spoils s seen s' seen') :
    Act (fun q => ¬ s.backups.place <+: q) s s' := by
  cases h with
  | applied now payload prunes within succeeds => exact .apply now payload within
  | failed now payload prunes within fails whole => exact .apply now payload within
  | rollback now file timestamp names within done =>
    refine .rollback now file timestamp (fun q hq => ?_) done
    cases names.symm.trans hq
    exact within
  | undo now u within => exact .undo now u within
  | settings values stays => exact .settings values stays
  | look root backups => exact .look root backups
  | edit may changes => exact .edit changes

/-- Whatever can happen while copies can be pruned has something that is noted of it. -/
theorem Act.exists_noted (h : Act (fun q => ¬ s.backups.place <+: q) s s')
    (hs : Prunes s.backups.settings) (seen : Ledger) :
    ∃ seen', Noted True True s seen s' seen' := by
  cases h with
  | @apply w t now payload within =>
    cases ho : (w.apply t now payload).1.outcome with
    | error p => exact ⟨_, .failed now payload hs within ho (.inl trivial)⟩
    | ok e => exact ⟨_, .applied now payload hs within ho⟩
  | rollback now file timestamp within done =>
    obtain ⟨path, hpath⟩ := Workspace.exists_path_of_rollback done
    exact ⟨_, .rollback now file timestamp hpath (within path hpath) done⟩
  | undo now u within => exact ⟨_, .undo now u within⟩
  | settings values stays => exact ⟨_, .settings values stays⟩
  | look root backups => exact ⟨_, .look root backups⟩
  | edit changes => exact ⟨_, .edit trivial changes⟩

theorem Noted.reconciled (h : Noted edits spoils s seen s' seen') (hs : s.IsOpen)
    (hr : Reconciled (¬ edits ∧ ¬ spoils) s.backups s.tree seen) :
    Reconciled (¬ edits ∧ ¬ spoils) s'.backups s'.tree seen' := by
  cases h with
  | applied now payload prunes within succeeds =>
    exact Workspace.apply_done_reconciled hr prunes within succeeds
  | failed now payload prunes within fails whole =>
    exact Workspace.apply_failed_reconciled hr prunes within fails fun hl =>
      whole.resolve_left hl.2
  | @rollback w t t' e seen restored path now file timestamp names within done =>
    have hroot : w.editor.root.IsPlace := hs.root ▸ hs.store.rooted.root
    exact Workspace.rollback_reconciled hr names (Workspace.pathOf_isPlace hroot names) within done
  | undo now u within => exact Workspace.undo_reconciled hr within
  | @settings w t seen values stays =>
    unfold backups
    simp only
    rw [updateSettings_eq stays]
    exact hr.settings _
  | look root hbackups =>
    unfold backups at hr ⊢
    simp only at hr ⊢
    rw [hbackups]
    exact hr
  | edit may changes => exact hr.edited (fun hl => hl.1 may) changes

theorem Opened.reconciled {root : Path} {settings : Settings.Both} (h : Opened root settings s)
    (live : Prop) : Reconciled live s.backups s.tree fun _ => none := by
  have hstore := h.isOpen.store
  obtain ⟨t, ht, hm, hopened⟩ := h.opened
  obtain ⟨hroot, hload⟩ := ofSettings_eq_ok hopened
  have hplace := h.legible.resolve
  have hl := Backups.load_eq_ok hplace.isPlain.isLegible hload
  have hc : Changes nowhere nowhere t s.tree := hl.changes hplace
  have hnone : s.tree.file? s.backups.manifestPath.resolve = none := by
    rw [hc.file? (fun h => h) fun h => h]
    exact hm
  have hindex : s.backups.index = [] := hl.index_of_none hnone
  refine ⟨hstore, .inr hnone, fun file _ _ => agrees_of_none ?_⟩
  unfold recordsOf
  rw [hindex]
  rfl

/-- Through a whole run the store agrees with what is noted. -/
theorem Logged.reconciled {root : Path} {settings : Settings.Both}
    (h : Logged root settings edits spoils s seen) :
    s.IsOpen ∧ Reconciled (¬ edits ∧ ¬ spoils) s.backups s.tree seen := by
  induction h with
  | opened opened => exact ⟨opened.isOpen, opened.reconciled _⟩
  | act before noted ih =>
    obtain ⟨hs, hr⟩ := ih
    exact ⟨noted.act.isOpen hs fun _ hq => hq, noted.reconciled hs hr⟩
  | reload before reload ih =>
    obtain ⟨hs, hr⟩ := ih
    obtain ⟨hl, hd, -⟩ := reload.loaded hs
    exact ⟨reload.isOpen hs, hr.loaded hl hd⟩

/-- The project before it is changed, with nothing noted. -/
theorem asked_logged (edits spoils : Prop) :
    Logged ["w"] defaults edits spoils (asked Workspace.smallTree) fun _ => none :=
  .act (.opened smallTree_opened) (.look rfl rfl)

theorem asked_prunes : Prunes (asked Workspace.smallTree).backups.settings :=
  prunes_of_isSome rfl (by decide +kernel)

/-- The project after the first change of it failed half done. -/
def halfDone : Session := (asked Workspace.smallTree).applied .zero Workspace.halfColor

end Session

end Restyle
