import Restyle.Proofs.SavedIndex

/-!
A store of backups in use: copies are made and restored, what was written is recorded, all records
are forgotten, settings change, others write files, and the store is opened anew. As long as the
manifest can be written all the while it remembers all records, so that one who opens the store anew
at any time has the same history of every file.
-/
namespace Restyle

open Restyle.Tree BackupEntry

namespace Backups

variable {b b' : Backups} {t t' : Tree} {W : Path → Prop}

/-! ### What can be done besides making a backup -/

/-- What can be done with a store besides making a backup, if files of `W` may be written over. -/
inductive Act (W : Path → Prop) (b : Backups) (t : Tree) : Backups → Tree → Prop
  | restore {t' : Tree} {restored : Bool} (file : Path) (timestamp : Option Value)
      (legible : file.IsLegible) (within : W file.resolve)
      (done : b.restore t file timestamp = .ok (restored, t')) : Act W b t b t'
  | record (file : Path) (legible : file.IsLegible) (bytes : ByteArray) :
      Act W b t (b.recordWrite t file bytes).1 (b.recordWrite t file bytes).2
  | clear : Act W b t (b.clear t).1 (b.clear t).2
  | settings (settings : Settings) : Act W b t { b with settings } t
  /-- Someone else edits files. -/
  | edit {t' : Tree} (changes : Changes W W t t') : Act W b t b t'
  | reopen {b' : Backups} {t' : Tree} (settings : Settings)
      (loaded : load t b.root settings = .ok (b', t')) (same : b'.directory = b.directory) :
      Act W b t b' t'

/-- Recording a text is recording its bytes, also where there is nothing to record. -/
theorem act_of_recordText {file : Path} (hf : file.IsLegible) {s : String}
    {r : Backups × Tree} (h : b.recordText t file s = .ok r) : Act W b t r.1 r.2 := by
  unfold recordText latest? at h
  split at h
  · next hl =>
    have hr := Act.record (W := W) (b := b) (t := t) file hf ByteArray.empty
    unfold recordWrite at hr
    rw [List.getLast?_eq_none_iff.1 hl] at hr
    cases h
    exact hr
  · cases h
  · cases h
    exact .record file hf _

theorem clear_works (h : b.IsStore t) :
    Works (fun _ => True) b t (b.clear t).1 (b.clear t).2 := by
  have hw : Works (fun _ => True) b t { b with index := [] } t :=
    .ofIndex h (isSound_nil b) fun _ _ hq => absurd trivial hq
  exact hw.trans (.save hw.store)

/-- A step that leaves the store and its manifest alone. -/
theorem IsStore.changes (h : b.IsStore t) {W R : Path → Prop} (hc : Changes W R t t')
    (hW : ¬ W b.manifestPath.resolve) (hR : ¬ R b.manifestPath.resolve) : b.IsStore t' :=
  (Works.ofChanges (Q := fun _ => True) h hc fun q hq => ⟨.inl trivial, by
    rintro rfl
    exact hq.elim hW hR⟩).store

theorem Act.frame (h : Act W b t b' t') : b'.root = b.root ∧ b'.directory = b.directory := by
  cases h with
  | record file legible bytes =>
    rcases recordWrite_cases b t file bytes with ⟨-, hr⟩ | ⟨-, hr⟩
    · rw [hr]
      exact ⟨rfl, rfl⟩
    · rw [hr]
      exact ⟨rfl, rfl⟩
  | reopen settings loaded same => exact ⟨load_root loaded, same⟩
  | _ => exact ⟨rfl, rfl⟩

theorem Act.isStore (h : Act W b t b' t') (hs : b.IsStore t) (hm : ¬ W b.manifestPath.resolve) :
    b'.IsStore t' := by
  cases h with
  | restore file timestamp legible within done =>
    have hc : Changes (· = file.resolve) nowhere t t' := restore_changes legible done
    refine hs.changes hc ?_ fun h => h
    intro e
    exact hm (e ▸ within)
  | record file legible bytes =>
    exact (recordWrite_works (Q := fun _ => True) hs legible trivial bytes).store
  | clear => exact (clear_works hs).store
  | settings settings => exact (Works.ofSettings (Q := fun _ => True) hs settings).store
  | edit changes => exact hs.changes changes hm hm
  | reopen settings loaded same =>
    exact (load_eq_ok hs.rooted.root.isPlain.isLegible loaded).isStore_again hs same

/-! ### What the manifest remembers -/

/-- Whether there are no records to remember, or nothing can be remembered: a directory lies in the
place of the manifest. -/
def Forgets (b : Backups) (t : Tree) : Prop :=
  (∀ file : Path, file.IsPlace → recordsOf b.index file = []) ∨
    t.node? b.manifestPath.resolve = some .directory

/-- Whether one who reads the manifest has the records of every file that the index has, and it is
there if there is something to say and it can be written. -/
structure Remembers (b : Backups) (t : Tree) : Prop where
  mirrored : b.Mirrored t
  blank : t.file? b.manifestPath.resolve = none → b.Forgets t

theorem Forgets.congr (h : b.Forgets t) (hd : b'.directory = b.directory)
    (hrecords : ∀ file : Path, file.IsPlace → recordsOf b.index file = [] →
      recordsOf b'.index file = [])
    {W R : Path → Prop} (hc : Changes W R t t') : b'.Forgets t' := by
  rcases h with h | h
  · exact .inl fun file hf => hrecords file hf (h file hf)
  · refine .inr ?_
    rw [manifestPath_congr hd]
    exact hc.directory h

/-- What is remembered stays so while neither the records nor the manifest change. -/
theorem Remembers.congr (h : b.Remembers t) (hr : b'.root = b.root)
    (hd : b'.directory = b.directory)
    (hrecords : ∀ file : Path, file.IsPlace → recordsOf b'.index file = recordsOf b.index file)
    {W R : Path → Prop} (hc : Changes W R t t') (hW : ¬ W b.manifestPath.resolve)
    (hR : ¬ R b.manifestPath.resolve) : b'.Remembers t' where
  mirrored := h.mirrored.congr hr hd hrecords hc hW hR
  blank hnone := by
    rw [manifestPath_congr hd, hc.file? hW hR] at hnone
    exact (h.blank hnone).congr hd (fun file hf hnil => (hrecords file hf).trans hnil) hc

/-- A manifest that is saved and yet is not there cannot be written at all. -/
theorem find_of_unsaved (hb : b.IsRooted) {n : Option Node}
    (hf : t.find b.manifestPath = .ok (b.manifestPath.resolve, n))
    (hnone : (b.saveIndex t).file? b.manifestPath.resolve = none) : n = some .directory := by
  refine Classical.byContradiction fun hn => ?_
  rw [file?_of_find (saveIndex_find hb hf hn)] at hnone
  cases hnone

theorem recordWrite_remembers (h : b.IsStore t) (hm : b.Remembers t) {file : Path}
    (hf : file.IsLegible) (bytes : ByteArray) :
    (b.recordWrite t file bytes).1.Remembers (b.recordWrite t file bytes).2 := by
  refine ⟨recordWrite_mirrored h hm.mirrored hf bytes, ?_⟩
  rcases recordWrite_cases b t file bytes with ⟨-, hr⟩ | ⟨hne, hr⟩
  · rw [hr]
    exact hm.blank
  · rw [hr]
    intro hnone
    have hc := saveIndex_changes (R := nowhere)
      (h.rooted.withHistory file (setLast (rewritten bytes) (b.history file))) t
    have hbefore : t.file? b.manifestPath.resolve = none := by
      refine Classical.byContradiction fun hne => ?_
      obtain ⟨bytes', hfile⟩ := Option.ne_none_iff_exists'.1 hne
      obtain ⟨bytes'', hthere⟩ := hc.isFile (fun h => h) (file?_eq_some.1 hfile)
      cases hnone.symm.trans (file?_eq_some.2 hthere)
    rcases hm.blank hbefore with hempty | hdirectory
    · exact absurd (hempty _ hf.resolve) hne
    · exact .inr (hc.directory hdirectory)

theorem clear_mirrored (h : b.IsStore t) (hu : b.Unspoilt t) :
    (b.clear t).1.Mirrored (b.clear t).2 := by
  have hunspoilt : (b.clear t).1.Unspoilt t := hu
  exact saveIndex_mirrored ⟨h.rooted.root, h.rooted.directory⟩ (isSound_nil _) hunspoilt

theorem clear_remembers (h : b.IsStore t) (hm : b.Remembers t) :
    (b.clear t).1.Remembers (b.clear t).2 where
  mirrored := clear_mirrored h hm.mirrored.unspoilt
  blank _ := .inl fun _ _ => rfl

theorem create_remembers (h : b.IsStore t) (hm : b.Remembers t) {now : Readings} {path : Path}
    (hp : path.IsLegible) {reason : String} (hdone : b.Completes t now path reason) :
    (b.create t now path reason).2.1.Remembers (b.create t now path reason).2.2 := by
  refine ⟨create_mirrored h hm.mirrored hp hdone, ?_⟩
  have hplace := hp.resolve
  unfold Completes at hdone
  have hcases := b.create_cases t now path reason
  revert hcases hdone
  generalize b.create t now path reason = r
  intro hdone hcases
  have hempty (file : Path) (_ : file.IsPlace) :
      recordsOf (b.withoutEmpty path.resolve.text).index file = recordsOf b.index file :=
    recordsOf_withoutEmpty h.index path.resolve.text file
  cases hcases with
  | refused => exact hm.blank
  | unreadable =>
    have hc : Changes nowhere nowhere t t := .refl t
    have hr : (b.withoutEmpty path.resolve.text).Remembers t :=
      hm.congr rfl rfl hempty hc (fun h => h) fun h => h
    exact hr.blank
  | @uncopied bytes e t' read copied =>
    have hc : Changes nowhere nowhere t t' :=
      writeCopy_refused (isLegible_copyPath h.rooted hplace _) copied
    have hr : (b.withoutEmpty path.resolve.text).Remembers t' :=
      hm.congr rfl rfl hempty hc (fun h => h) fun h => h
    exact hr.blank
  | @unpruned f bytes t1 t2 checked =>
    rw [hdone f rfl] at checked
    cases checked
  | @made bytes t1 t2 kept available checked read copied pruned =>
    intro hnone
    have hcopied := writeCopy_changes (R := nowhere) t
      (isLegible_copyPath h.rooted hplace (b.stamp path now)) bytes
    have hpruned := prune_changes (W := nowhere) b.settings now.sweep t1 (b.history path ++
      [b.entryFor path.resolve (b.stamp path now) reason bytes])
    rw [copied] at hcopied
    rw [pruned] at hpruned
    obtain ⟨n, hfound⟩ := h.found available
    have hrooted := h.rooted.withHistory path kept
    have hfind := hpruned.find (hcopied.find hfound)
    have hdirectory := find_of_unsaved hrooted hfind hnone
    exact .inr ((saveIndex_changes (R := nowhere) hrooted t2).directory hdirectory)

/-- Where a backup was made and there is a manifest, it is that of the index. -/
theorem create_saved (h : b.IsStore t) {now : Readings} {path : Path} (hp : path.IsLegible)
    {reason : String} {e : BackupEntry} (hc : b.create t now path reason = (.ok e, b', t'))
    (hthere : t'.file? b'.manifestPath.resolve ≠ none) : t'.find b'.manifestPath =
      .ok (b'.manifestPath.resolve, some (.file (manifestBytes b'.index))) := by
  have hcases := b.create_cases t now path reason
  rw [hc] at hcases
  cases hcases with
  | @made bytes t1 t2 kept available checked read copied pruned =>
    have hrooted := h.rooted.withHistory path kept
    obtain ⟨n, hfound⟩ := h.found available
    refine saveIndex_find hrooted ((copied_changes h hp read copied pruned).find hfound) ?_
    intro hdirectory
    have hstays := (saveIndex_changes (R := nowhere) hrooted t2).directory hdirectory
    refine hthere ?_
    unfold file?
    rw [hstays]
    rfl

/-- What was saved is read back with its halves joined. -/
theorem Loaded.history_joined (h : Loaded t b.root b' t') (hs : b.IsStore t)
    (hd : b'.directory = b.directory) (hsaved : t.find b.manifestPath =
      .ok (b.manifestPath.resolve, some (.file (manifestBytes b.index)))) (file : Path) :
    b'.history file = (b.history file).map BackupEntry.joined := by
  obtain ⟨hindex, -, -⟩ := h.index_eq hs.rooted.root hd hs.index hsaved
  have hread : recordsOf b'.index file.resolve = recordsOf b.index.joined file.resolve := by
    rw [hindex]
  exact hread.trans (recordsOf_joined b.index file.resolve)

theorem Loaded.remembers (h : Loaded t b.root b' t') (hs : b.IsStore t)
    (hd : b'.directory = b.directory) (hm : b.Remembers t) : b'.Remembers t' := by
  obtain ⟨hmirrored, hrecords⟩ := h.mirrored hs hd hm.mirrored
  refine ⟨hmirrored, fun hnone => ?_⟩
  have hc : Changes nowhere nowhere t t' := h.changes hs.rooted.root
  rcases hrecords with hsame | hempty
  · rw [manifestPath_congr hd, hc.file? (fun h => h) fun h => h] at hnone
    refine (hm.blank hnone).congr hd (fun file hf hnil => ?_) hc
    have halike := hsame file hf
    rw [hnil] at halike
    exact List.forall₂_nil_left_iff.1 halike
  · refine .inl fun file _ => ?_
    rw [hempty]
    rfl

theorem Act.remembers (h : Act W b t b' t') (hs : b.IsStore t) (hm : ¬ W b.manifestPath.resolve)
    (hr : b.Remembers t) : b'.Remembers t' := by
  cases h with
  | restore file timestamp legible within done =>
    have hc : Changes (· = file.resolve) nowhere t t' := restore_changes legible done
    refine hr.congr rfl rfl (fun _ _ => rfl) hc ?_ fun h => h
    intro e
    exact hm (e ▸ within)
  | record file legible bytes => exact recordWrite_remembers hs hr legible bytes
  | clear => exact clear_remembers hs hr
  | settings settings =>
    exact hr.congr rfl rfl (fun _ _ => rfl) (.refl t : Changes nowhere nowhere t t) (fun h => h)
      fun h => h
  | edit changes => exact hr.congr rfl rfl (fun _ _ => rfl) changes hm hm
  | reopen settings loaded same =>
    exact (load_eq_ok hs.rooted.root.isPlain.isLegible loaded).remembers hs same hr

/-! ### Runs -/

/-- A store that is opened where there is no manifest yet. -/
structure Opened (b : Backups) (t : Tree) : Prop where
  place : b.root.IsPlace
  opened : ∃ (t0 : Tree) (settings : Settings), t0.IsProper ∧
    t0.file? b.manifestPath.resolve = none ∧ load t0 b.root settings = .ok (b, t)

theorem Opened.isStore (h : b.Opened t) :
    b.IsStore t ∧ b.index = [] ∧ t.file? b.manifestPath.resolve = none := by
  obtain ⟨t0, settings, ht, hnone, hload⟩ := h.opened
  have hl := load_eq_ok h.place.isPlain.isLegible hload
  have hc : Changes nowhere nowhere t0 t := hl.changes h.place
  have hfile : t.file? b.manifestPath.resolve = none := by
    rw [hc.file? (fun h => h) fun h => h]
    exact hnone
  refine ⟨hl.isStore h.place ht fun bytes hn => ?_, hl.index_of_none hfile, hfile⟩
  rw [file?_eq_some.2 hn] at hnone
  cases hnone

/-- Whether the manifest can be written. -/
def IsWritable (b : Backups) (t : Tree) : Prop := ∃ bytes t', t.write b.manifestPath bytes = .ok t'

/-- What can come of a store if files of `W` may be written over, every backup comes to an end, and
the manifest can be written at any time. -/
inductive Run (W : Path → Prop) : Backups → Tree → Prop
  | opened {b : Backups} {t : Tree} (opened : b.Opened t) (writable : b.IsWritable t) : Run W b t
  | create {b : Backups} {t : Tree} (before : Run W b t) (now : Readings) {file : Path}
      {reason : String} (legible : file.IsLegible)
      (completes : b.Completes t now file reason)
      (writable : (b.create t now file reason).2.1.IsWritable (b.create t now file reason).2.2) :
      Run W (b.create t now file reason).2.1 (b.create t now file reason).2.2
  | act {b b' : Backups} {t t' : Tree} (before : Run W b t) (act : Act W b t b' t')
      (writable : b'.IsWritable t') : Run W b' t'

theorem Run.isWritable (h : Run W b t) : b.IsWritable t := by
  cases h with
  | opened _ writable => exact writable
  | create _ _ _ _ writable => exact writable
  | act _ _ writable => exact writable

/-- The manifest remembers all records through a whole run in which it is written by the store
alone. -/
theorem Run.remembers (h : Run W b t) (hm : ¬ W b.manifestPath.resolve) :
    b.IsStore t ∧ b.Remembers t := by
  induction h with
  | opened opened =>
    obtain ⟨hs, hindex, hnone⟩ := opened.isStore
    refine ⟨hs, .inr hnone, fun _ => .inl fun file _ => ?_⟩
    rw [hindex]
    rfl
  | @create b t before now file reason legible completes _ ih =>
    have hframe := create_frame b t now file reason
    have hd : (b.create t now file reason).2.1.directory = b.directory := by rw [hframe]
    rw [manifestPath_congr hd] at hm
    obtain ⟨hs, hr⟩ := ih hm
    exact ⟨(create_works (Q := fun _ => True) hs now legible trivial reason).store,
      create_remembers hs hr legible completes⟩
  | act before act _ ih =>
    rw [manifestPath_congr act.frame.2] at hm
    obtain ⟨hs, hr⟩ := ih hm
    exact ⟨act.isStore hs hm, act.remembers hs hm hr⟩

/-- One who opens the store anew finds what the manifest remembers. -/
theorem Remembers.load (h : b.Remembers t) (hb : b.IsRooted)
    (hwritable : b.IsWritable t) {settings : Settings} {name : String}
    (hname : settings.value "backup_directory" = .str name)
    (hd : b.root.join name = b.directory) :
    ∃ b' t', load t b.root settings = .ok (b', t') ∧ b'.directory = b.directory ∧
      ∀ file : Path, file.IsLegible → AreAlike (b.history file) (b'.history file) := by
  obtain ⟨bytes, t', hwrite⟩ := hwritable
  obtain ⟨-, hfree, hfound⟩ := write_eq_ok hwrite
  have hchecked : b.directory.checked = .ok b.directory :=
    checked_eq_ok.2 ⟨(refusal?_append.1 (refusal?_of_find_ok hfound)).1, rfl⟩
  have hc : Changes nowhere nowhere t (t.ensureDirectory b.directory).2 :=
    ensureDirectory_changes t hb.directory
  have hindex : ∃ index, loadIndex (t.ensureDirectory b.directory).2 b.manifestPath = .ok index ∧
      ∀ file : Path, file.IsPlace → AreAlike (recordsOf b.index file) (recordsOf index file) := by
    rcases h.mirrored with hsaved | hnone
    · obtain ⟨index, hfind, hsound, -⟩ := hsaved [] fun n hn => absurd hn List.not_mem_nil
      have hfind' := hc.find_some hfind (fun h => h) fun h => h
      refine ⟨index.joined, loadIndex_manifest hsound hfind', fun file hf => ?_⟩
      obtain ⟨index', hfind', hsound', halike⟩ := hsaved file hf
      have hread := loadIndex_manifest hsound' hfind'
      rw [loadIndex_manifest hsound hfind] at hread
      rw [Except.ok.inj hread]
      exact halike
    · refine ⟨[], loadIndex_of_not_file (hc.find hfound) ?_, fun file hf => ?_⟩
      · exact (hc.file? (fun h => h) fun h => h).trans hnone
      · rcases h.blank hnone with hempty | hdirectory
        · rw [hempty file hf]
          exact .nil
        · exact absurd hdirectory hfree
  obtain ⟨index, hload, halike⟩ := hindex
  refine ⟨⟨b.root, settings, b.directory, (t.ensureDirectory b.directory).1.isOk, index⟩,
    (t.ensureDirectory b.directory).2, ?_, rfl, fun file hf => halike file.resolve hf.resolve⟩
  have hload' : loadIndex (t.ensureDirectory b.directory).2 (b.directory ++ [manifestName]) =
      .ok index := hload
  unfold Backups.load
  simp only [hname, hd, hchecked, bind, Except.bind, hload']
  rfl

/-- At any point of a run in which the manifest can be written all the while, and none but the store
writes it, one who opens the store anew has the same history of every file, but for halves that
follow one another in a reason. -/
theorem reopened_history (h : Run W b t) (hm : ¬ W b.manifestPath.resolve) {settings : Settings}
    {name : String} (hname : settings.value "backup_directory" = .str name)
    (hd : b.root.join name = b.directory) :
    ∃ b' t', load t b.root settings = .ok (b', t') ∧
      ∀ file : Path, file.IsLegible → AreAlike (b.history file) (b'.history file) := by
  obtain ⟨hs, hr⟩ := h.remembers hm
  obtain ⟨b', t', hload, -, halike⟩ := hr.load hs.rooted h.isWritable hname hd
  exact ⟨b', t', hload, halike⟩

/-! ### A project of one source file -/

/-- The store of the project in `w`, just opened. -/
def begun (t : Tree) (settings : Settings) : Backups × Tree :=
  match load t ["w"] settings with
  | .ok r => r
  | .error _ => (⟨["w"], settings, [], false, []⟩, t)

theorem exists_of_isOk {ε α : Type} {x : Except ε α} (h : x.isOk = true) : ∃ a, x = .ok a := by
  cases x with
  | ok a => exact ⟨a, rfl⟩
  | error e => cases h

theorem load_begun {settings : Settings} (h : (load t ["w"] settings).isOk = true) :
    load t ["w"] settings = .ok (begun t settings) := by
  obtain ⟨r, hr⟩ := exists_of_isOk h
  unfold begun
  rw [hr]

theorem begun_opened {settings : Settings} (ht : t.IsProper)
    (hloads : (load t ["w"] settings).isOk = true)
    (hfresh : t.file? (begun t settings).1.manifestPath.resolve = none) :
    Opened (begun t settings).1 (begun t settings).2 := by
  have hplace : Path.IsPlace ["w"] := by decide
  have hload := load_begun hloads
  have hl := load_eq_ok hplace.isPlain.isLegible hload
  exact ⟨hl.root ▸ hplace, t, settings, ht, hfresh, hl.root.symm ▸ hload⟩

/-- Whether the manifest can be written, so that it can be computed. -/
def isSavable (s : Backups × Tree) : Bool := (s.2.write s.1.manifestPath ByteArray.empty).isOk

theorem isWritable_of_isSavable {s : Backups × Tree} (h : isSavable s = true) :
    s.1.IsWritable s.2 := ⟨_, exists_of_isOk h⟩

/-- The store and the files after a backup. -/
def backedUp (s : Backups × Tree) (file : Path) (reason : String) : Backups × Tree :=
  (s.1.create s.2 .zero file reason).2

theorem completes_of_isOk {now : Readings} {file : Path} {reason : String}
    (h : (b.create t now file reason).1.isOk = true) : b.Completes t now file reason := by
  intro f hf
  rw [hf] at h
  cases h

/-- Whether a file can be backed up, and the manifest be written after that. -/
def isCopied (s : Backups × Tree) (file : Path) (reason : String) : Bool :=
  (s.1.create s.2 .zero file reason).1.isOk && isSavable (backedUp s file reason)

theorem Run.backedUp {s : Backups × Tree} (h : Run W s.1 s.2) {file : Path}
    (hf : file.IsLegible) {reason : String} (hcopied : isCopied s file reason = true) :
    Run W (backedUp s file reason).1 (backedUp s file reason).2 := by
  obtain ⟨hok, hwritable⟩ := Bool.and_eq_true_iff.1 hcopied
  exact h.create .zero hf (completes_of_isOk hok) (isWritable_of_isSavable hwritable)

def source : Path := ["w", "App.jsx"]

theorem source_isPlace : source.IsPlace := by decide

/-- The project in `w` with one source file. -/
def sourceTree : Tree := ⟨[(["w"], .directory), (source, .file "one".toUTF8)]⟩

def newStore : Backups × Tree := begun sourceTree Section.modification.defaults

theorem sourceTree_isProper : sourceTree.IsProper := isProper_of_entries (by decide)

theorem newStore_opened : newStore.1.Opened newStore.2 :=
  begun_opened sourceTree_isProper (by decide +kernel) (by decide +kernel)

theorem newStore_run : Run W newStore.1 newStore.2 :=
  .opened newStore_opened (isWritable_of_isSavable (by decide +kernel))

/-- The store after a backup of the source. -/
def copiedOnce : Backups × Tree := backedUp newStore source ""

/-- After a backup of the source the history of it is there again. -/
theorem reopened_history_once :
    (copiedOnce.1.history source).length = 1 ∧
      ∃ b' t', load copiedOnce.2 copiedOnce.1.root Section.modification.defaults = .ok (b', t') ∧
        ∀ file : Path, file.IsLegible →
          AreAlike (copiedOnce.1.history file) (b'.history file) := by
  have hvalues : isCopied newStore source "" = true ∧
      copiedOnce.1.root.join ".sourcelens-backups" = copiedOnce.1.directory ∧
      (copiedOnce.1.history source).length = 1 := by
    decide +kernel
  obtain ⟨hcopied, hdirectory, hone⟩ := hvalues
  have hrun : Run (fun _ => False) copiedOnce.1 copiedOnce.2 :=
    newStore_run.backedUp source_isPlace.isPlain.isLegible hcopied
  exact ⟨hone, reopened_history hrun (fun h => h) rfl hdirectory⟩

/-- Whether a store could write its manifest all the while, can be opened anew, and yet one who
opens it has another history of the source. -/
def ReopensOtherwise (W : Path → Prop) (s : Backups × Tree) : Prop :=
  Run W s.1 s.2 ∧ s.1.root.join ".sourcelens-backups" = s.1.directory ∧
    ∃ b' t', load s.2 s.1.root Section.modification.defaults = .ok (b', t') ∧
      b'.history source ≠ s.1.history source

/-- The manifest, which is a file like others for one who names it. -/
def manifest : Path := ["w", ".sourcelens-backups", "manifest.json"]

theorem manifest_isPlace : manifest.IsPlace := by decide

/-- The store once its manifest was written for the first time. -/
def cleared : Backups × Tree := newStore.1.clear newStore.2

/-- The store and the files after backups of the manifest and of the source. -/
def copiedManifest : Backups × Tree := backedUp (backedUp cleared manifest "") source ""

/-- The files once the manifest was restored. -/
def restoredTree : Tree :=
  match copiedManifest.1.restore copiedManifest.2 manifest none with
  | .ok (_, t) => t
  | .error _ => copiedManifest.2

/-- The store and the files once the manifest was restored. -/
def oldManifest : Backups × Tree := (copiedManifest.1, restoredTree)

/-- Two halves of a pair, one after the other. -/
def halves : String := String.ofList (Text.ofHalf 0xD83D ++ Text.ofHalf 0xDE00)

/-- The store after a backup of the source for that reason. -/
def copiedHalves : Backups × Tree := backedUp newStore source halves

/-- Once the manifest itself was restored from a copy of it, one who opens the store anew misses
what was recorded since. -/
theorem reopensOtherwise_oldManifest : ReopensOtherwise (fun _ => True) oldManifest := by
  have hsteps : isSavable cleared = true ∧ isCopied cleared manifest "" = true ∧
      isCopied (backedUp cleared manifest "") source "" = true ∧
      (copiedManifest.1.restore copiedManifest.2 manifest none).isOk = true ∧
      isSavable oldManifest = true := by
    decide +kernel
  have hvalues : oldManifest.1.root.join ".sourcelens-backups" = oldManifest.1.directory ∧
      (load oldManifest.2 ["w"] Section.modification.defaults).isOk = true ∧
      oldManifest.1.root = ["w"] ∧
      ((begun oldManifest.2 Section.modification.defaults).1.history source).length = 0 ∧
      (oldManifest.1.history source).length = 1 := by
    decide +kernel
  obtain ⟨hclear, hfirst, hsecond, hrestored, hold⟩ := hsteps
  obtain ⟨hdirectory, hloads, hroot, hnone, hone⟩ := hvalues
  have hcleared : Run (fun _ => True) cleared.1 cleared.2 :=
    newStore_run.act .clear (isWritable_of_isSavable hclear)
  have hmanifest : manifest.IsLegible := manifest_isPlace.isPlain.isLegible
  have hsource : source.IsLegible := source_isPlace.isPlain.isLegible
  have hrun := (hcleared.backedUp hmanifest hfirst).backedUp hsource hsecond
  obtain ⟨⟨restored, t⟩, hr⟩ := exists_of_isOk hrestored
  have htree : restoredTree = t := by
    unfold restoredTree
    rw [hr]
  rw [← htree] at hr
  refine ⟨hrun.act (.restore manifest none hmanifest trivial hr) (isWritable_of_isSavable hold),
    hdirectory, (begun oldManifest.2 Section.modification.defaults).1, _,
    hroot ▸ load_begun hloads, fun hsame => ?_⟩
  rw [hsame, hone] at hnone
  cases hnone

/-- Two halves of a pair in a reason have become one character for one who opens the store anew. -/
theorem reopensOtherwise_copiedHalves : ReopensOtherwise (fun _ => False) copiedHalves := by
  have hvalues : isCopied newStore source halves = true ∧
      copiedHalves.1.root.join ".sourcelens-backups" = copiedHalves.1.directory ∧
      (copiedHalves.2.file? copiedHalves.1.manifestPath.resolve).isSome = true ∧
      ((copiedHalves.1.history source).map BackupEntry.joined).map (·.reason.display) ≠
        (copiedHalves.1.history source).map (·.reason.display) := by
    decide +kernel
  obtain ⟨hcopied, hdirectory, hthere, hne⟩ := hvalues
  have hsource : source.IsLegible := source_isPlace.isPlain.isLegible
  have hrun : Run (fun _ => False) copiedHalves.1 copiedHalves.2 :=
    newStore_run.backedUp hsource hcopied
  obtain ⟨hs, hremembers⟩ := hrun.remembers fun h => h
  have hname : Section.modification.defaults.value "backup_directory" =
      .str ".sourcelens-backups" := rfl
  obtain ⟨b', t', hload, hsame, -⟩ :=
    hremembers.load hs.rooted hrun.isWritable hname hdirectory
  obtain ⟨e, hmade⟩ := exists_of_isOk (Bool.and_eq_true_iff.1 hcopied).1
  have hsaved := create_saved newStore_opened.isStore.1 hsource (Prod.ext hmade rfl)
    (Option.isSome_iff_ne_none.1 hthere)
  have hl := load_eq_ok hs.rooted.root.isPlain.isLegible hload
  refine ⟨hrun, hdirectory, b', t', hload, fun heq => hne ?_⟩
  rw [← hl.history_joined hs hsame hsaved source, heq]

/-- So one who opens the store anew can have another history of a file. -/
theorem reopened_history_differs : ReopensOtherwise (fun _ => True) oldManifest ∧
    ReopensOtherwise (fun _ => False) copiedHalves :=
  ⟨reopensOtherwise_oldManifest, reopensOtherwise_copiedHalves⟩

end Backups

end Restyle
