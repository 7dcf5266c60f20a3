import Restyle.Proofs.Rollback
import Restyle.Proofs.SavedIndex

/-!
What carrying out a plan does to the records and the newest copies of files, whether it succeeds or
fails. Of the files that are copied the newest record is that of the new copy from then on; writing
the files changes no record.
-/
namespace Restyle

open Restyle.Tree

namespace Backups

variable {b b' b1 : Backups} {t t' t1 : Tree} {file : Path} {far : Prop} {now : Readings}

/-- The newest copy stays the same while records and copies of the file do. -/
theorem Holds.congr {content : ByteArray} (h : b.Holds t file content) (hr : b'.root = b.root)
    (hd : b'.directory = b.directory)
    (hrecords : recordsOf b'.index file = recordsOf b.index file) {W R : Path → Prop}
    (hc : Changes W R t t')
    (hne : ∀ timestamp, ¬ W (b.copyPlace file timestamp) ∧ ¬ R (b.copyPlace file timestamp)) :
    b'.Holds t' file content := by
  obtain ⟨e, he, hfind⟩ := h.changes hc hne
  refine ⟨e, hrecords ▸ he, ?_⟩
  rw [copyPath_congr hr hd, copyPlace_congr hr hd]
  exact hfind

/-- What may become of the records of a file and of its newest copy. Of the copy something is said
only if it lies far from the others. -/
inductive Fate (far : Prop) (now : Readings) (b : Backups) (t : Tree) (file : Path) (b' : Backups)
    (t' : Tree) : Prop
  | kept (records : recordsOf b'.index file = recordsOf b.index file)
      (copy : far → ∀ content, b.Holds t file content → b'.Holds t' file content)
  | swept (records : recordsOf b'.index file = []) (sweeps : Sweeps b.settings now)
  /-- The newest record is that of a copy of what the file had. -/
  | renewed {e : BackupEntry} {bytes : ByteArray} (before : t.file? file = some bytes)
      (newest : (recordsOf b'.index file).getLast? = some e)
      (later : ∀ e' ∈ recordsOf b.index file, e'.timestamp < e.timestamp)
      (hash : e.hash = .str (Digest.short bytes)) (unwritten : e.written = .null)
      (found : ∃ n, t'.find file = .ok (file, n)) (copy : far → b'.Holds t' file bytes)

theorem Fate.refl : Fate far now b t file b t := .kept rfl fun _ _ h => h

theorem Fate.imp {far' : Prop} (h : Fate far now b t file b' t') (hfar : far' → far) :
    Fate far' now b t file b' t' := by
  cases h with
  | kept records copy => exact .kept records fun ha => copy (hfar ha)
  | swept records sweeps => exact .swept records sweeps
  | renewed before newest later hash unwritten found copy =>
    exact .renewed before newest later hash unwritten found fun ha => copy (hfar ha)

/-- Later steps that touch neither the records nor the copies of the file do not matter. -/
theorem Fate.then (h : Fate far now b t file b1 t1) (hr : b'.root = b1.root)
    (hd : b'.directory = b1.directory)
    (hrecords : recordsOf b'.index file = recordsOf b1.index file) {W R : Path → Prop}
    (hc : Changes W R t1 t') (hne : far → ∀ timestamp,
      ¬ W (b1.copyPlace file timestamp) ∧ ¬ R (b1.copyPlace file timestamp)) :
    Fate far now b t file b' t' := by
  cases h with
  | kept records copy =>
    refine .kept (hrecords.trans records) fun ha content hholds => ?_
    exact (copy ha content hholds).congr hr hd hrecords hc (hne ha)
  | swept records sweeps => exact .swept (hrecords.trans records) sweeps
  | renewed before newest later hash unwritten found copy =>
    obtain ⟨n, hfound⟩ := found
    refine .renewed before (hrecords ▸ newest) later hash unwritten ⟨_, hc.find hfound⟩
      fun ha => ?_
    exact (copy ha).congr hr hd hrecords hc (hne ha)

/-- Whether the newest record of a file is later than those that it had, and is of a copy of what
the file had. -/
def Renews (b : Backups) (t : Tree) (b' : Backups) (file : Path) : Prop :=
  ∃ e bytes, (b'.history file).getLast? = some e ∧
    (∀ e' ∈ b.history file, e'.timestamp < e.timestamp) ∧
    t.file? file = some bytes ∧ e.hash = .str (Digest.short bytes) ∧ e.written = .null

/-- The records of a file stay, or none are left, or they are renewed. -/
theorem Fate.cases (h : Fate far now b t file b' t') (hf : file.IsPlace) :
    b'.history file = b.history file ∨ (b'.history file = [] ∧ Sweeps b.settings now) ∨
      b.Renews t b' file := by
  rw [history_eq hf, history_eq hf]
  cases h with
  | kept records copy => exact .inl records
  | swept records sweeps => exact .inr (.inl ⟨records, sweeps⟩)
  | @renewed e bytes before newest later hash unwritten found copy =>
    refine .inr (.inr ⟨e, bytes, ?_, ?_, before, hash, unwritten⟩)
    · rw [history_eq hf]
      exact newest
    · rw [history_eq hf]
      exact later

/-- Whether no copy of another file of `Q` can lie where one of this file does. -/
def Apart (b : Backups) (Q : Path → Prop) (file : Path) : Prop :=
  ∀ file', Q file' → file' ≠ file → ∀ timestamp timestamp',
    b.copyPlace file' timestamp' ≠ b.copyPlace file timestamp

theorem IsInside.apart (h : b.IsInside file) {Q : Path → Prop} (hroot : ∀ q, Q q → q ≠ b.root) :
    b.Apart Q file := by
  intro file' hQ hne timestamp timestamp' heq
  rcases (copyPlace_injective h.isWithin heq).1 with e | e
  · exact hne e
  · exact hroot file' hQ e

/-- A store after some files of `Q` were copied. -/
structure Copied (Q : Path → Prop) (now : Readings) (b : Backups) (t : Tree) (b' : Backups)
    (t' : Tree) : Prop where
  store : b'.IsStore t'
  root : b'.root = b.root
  directory : b'.directory = b.directory
  settings : b'.settings = b.settings
  changes : Changes (b.place <+: ·) (b.place <+: ·) t t'
  mirrored : Prunes b.settings → b.Mirrored t → b'.Mirrored t'
  others : ∀ file : Path, file.IsPlace → ¬ Q file →
    recordsOf b'.index file = recordsOf b.index file
  fate : ∀ file : Path, file.IsPlace → Fate (b.Apart Q file) now b t file b' t'

theorem Copied.refl {Q : Path → Prop} (h : b.IsStore t) (now : Readings) :
    Copied Q now b t b t where
  store := h
  root := rfl
  directory := rfl
  settings := rfl
  changes := .refl t
  mirrored _ hm := hm
  others _ _ _ := rfl
  fate _ _ := .refl

/-- Making a backup changes files of the store only. -/
theorem create_within (h : b.IsStore t) (now : Readings) {path : Path} (hp : path.IsLegible)
    (reason : String) :
    Changes (b.place <+: ·) (b.place <+: ·) t (b.create t now path reason).2.2 := by
  obtain ⟨W, R, hc, hwr⟩ := create_touches h now hp reason
  have hin (q : Path) (hq : W q ∨ R q) : b.place <+: q := by
    rcases hwr q hq with rfl | ⟨timestamp, rfl⟩
    · rw [resolve_manifestPath]
      exact List.prefix_append _ _
    · exact place_prefix_copyPlace b _ _
  exact hc.mono (fun q hq => hin q (.inl hq)) fun q hq => hin q (.inr hq)

/-- One more file is copied. -/
theorem Copied.create {Q : Path → Prop} (h : Copied Q now b t b' t') {path : Path}
    (hp : path.IsLegible) (hQ : Q path.resolve) (hout : ¬ b.place <+: path.resolve)
    (reason : String) :
    Copied Q now b t (b'.create t' now path reason).2.1 (b'.create t' now path reason).2.2 := by
  have hw := create_works (Q := (· = path.resolve)) h.store now hp rfl reason
  have hplace := place_congr h.directory
  have hin := create_within h.store now hp reason
  rw [hplace] at hin
  refine ⟨hw.store, hw.root.trans h.root, hw.directory.trans h.directory,
    (create_settings b' t' now path reason).trans h.settings, h.changes.trans hin, ?_, ?_, ?_⟩
  · intro hs hm
    exact create_mirrored h.store (h.mirrored hs hm) hp
      (completes_of_prunes h.store (h.settings ▸ hs) now hp reason)
  · intro file hf hno
    rw [hw.records file hf fun e => hno (e ▸ hQ), h.others file hf hno]
  · intro file hf
    have hfate := h.fate file hf
    by_cases heq : path.resolve = file
    · subst heq
      have hrecording := create_recording h.store now hp reason
      revert hrecording hw
      generalize b'.create t' now path reason = r
      intro hw hrecording
      cases hrecording with
      | unchanged records changes =>
        exact hfate.then hw.root hw.directory records changes fun _ _ => ⟨fun h => h, fun h => h⟩
      | swept read records sweeps => exact .swept records (h.settings ▸ sweeps)
      | @newest bytes read records copy keeps =>
        have hbefore : t.file? path.resolve = some bytes := by
          rw [← h.changes.file? hout hout, file?_eq_some, ← Path.resolve_resolve path]
          exact node?_of_read read
        have hlt : ∀ e' ∈ recordsOf b'.index path.resolve,
            e'.timestamp < b'.stamp path.resolve now := by
          intro e' he'
          rw [stamp_eq hp.resolve]
          exact lt_nextTimestamp (h.store.index.pairwise path.resolve) now.stamp he'
        have hfound : ∃ n, (r.2.2).find path.resolve = .ok (path.resolve, n) := by
          have hfind := hw.changes.find (read_eq_ok.1 read)
          rw [Path.resolve_resolve] at hfind
          exact ⟨_, hfind⟩
        refine .renewed hbefore records ?_ rfl rfl hfound fun _ => ⟨_, records, ?_⟩
        · intro e' he'
          cases hfate with
          | kept same copy => exact hlt e' (same ▸ he')
          | swept none sweeps => exact absurd (h.settings ▸ sweeps) (keeps none)
          | @renewed e1 _ _ newest1 later1 _ _ _ _ =>
            have h1 := later1 e' he'
            have h2 := hlt e1 (List.mem_of_getLast? newest1)
            show e'.timestamp < b'.stamp path.resolve now
            omega
        · rw [copyPath_congr hw.root hw.directory, copyPlace_congr hw.root hw.directory]
          exact copy
    · obtain ⟨W, R, hc, hwr⟩ := create_touches h.store now hp reason
      refine hfate.then hw.root hw.directory (hw.records file hf fun e => heq e.symm) hc ?_
      have hne (ha : b.Apart Q file) (timestamp : Int)
          (hq : W (b'.copyPlace file timestamp) ∨ R (b'.copyPlace file timestamp)) : False := by
        rcases hwr _ hq with hm | ⟨timestamp', hc⟩
        · exact copyPlace_ne_manifest b' file timestamp hm
        · rw [copyPlace_congr h.root h.directory] at hc
          exact ha _ hQ heq timestamp timestamp' hc.symm
      exact fun ha timestamp => ⟨fun hq => hne ha timestamp (.inl hq),
        fun hq => hne ha timestamp (.inr hq)⟩

end Backups

namespace Plan

variable {p : Plan} {b b' : Backups} {t t' : Tree} {now : Readings}

/-- The places of the files of which backups are made. -/
def copied (p : Plan) : List Path :=
  p.source.resolve :: p.sheetToCopy.toList.map Path.resolve

theorem copied_subset_files {q : Path} (h : q ∈ p.copied) : q ∈ p.files := by
  rcases List.mem_cons.1 h with rfl | h
  · exact p.source_mem_files
  · obtain ⟨path, hpath, rfl⟩ := List.mem_map.1 h
    rw [Option.mem_toList] at hpath
    unfold sheetToCopy at hpath
    obtain ⟨s, hs, rfl⟩ := Option.map_eq_some_iff.1 hpath
    exact sheet_mem_files (Option.filter_eq_some_iff.1 hs).1

/-- The store after the backups of a plan, or those of them that could be made. -/
theorem backupSheet_copied (h : b.Copied (· ∈ p.copied) now t b' t')
    (hs : ∀ s, p.sheet = some s → s.path.IsLegible) (hout : ∀ q ∈ p.files, ¬ b.place <+: q) :
    b.Copied (· ∈ p.copied) now t (p.backupSheet b' t' now).2.1 (p.backupSheet b' t' now).2.2 := by
  unfold backupSheet
  cases hc : p.sheetToCopy with
  | none => exact h
  | some path =>
    have hmem : path.resolve ∈ p.copied := by
      refine List.mem_cons_of_mem _ (List.mem_map.2 ⟨path, ?_, rfl⟩)
      rw [hc]
      exact List.mem_singleton_self path
    have hlegible : path.IsLegible := by
      unfold sheetToCopy at hc
      obtain ⟨s, hsome, rfl⟩ := Option.map_eq_some_iff.1 hc
      exact hs s (Option.filter_eq_some_iff.1 hsome).1
    have hcreated := h.create hlegible hmem (hout _ (copied_subset_files hmem))
      sheetReason
    simp only
    split <;> next hr => rw [hr] at hcreated; exact hcreated

/-- What carrying out a plan comes to for all files, also where it fails: the records of files that
are not copied stay, and of those that are the newest record is new. -/
structure CarriedOut (p : Plan) (now : Readings) (b : Backups) (t : Tree) (b' : Backups)
    (t' : Tree) : Prop where
  store : b'.IsStore t'
  root : b'.root = b.root
  directory : b'.directory = b.directory
  changes : Changes (fun q => b.place <+: q ∨ q ∈ p.files) (b.place <+: ·) t t'
  mirrored : Backups.Prunes b.settings → b.Mirrored t → b'.Mirrored t'
  others : ∀ file : Path, file.IsPlace → file ∉ p.copied →
    Backups.recordsOf b'.index file = Backups.recordsOf b.index file
  fate : ∀ file : Path, file.IsPlace →
    Backups.Fate (b.Apart (· ∈ p.copied) file) now b t file b' t'

theorem carriedOut_of_copied (h : b.Copied (· ∈ p.copied) now t b' t') :
    p.CarriedOut now b t b' t' where
  store := h.store
  root := h.root
  directory := h.directory
  changes := h.changes.mono (fun _ hq => .inl hq) fun _ hq => hq
  mirrored := h.mirrored
  others := h.others
  fate := h.fate

theorem carryOut_carriedOut (h : b.IsStore t) (f : Framework) (now : Readings)
    (styles : Style.Declarations) (hp : p.source.IsLegible)
    (hs : ∀ s, p.sheet = some s → s.path.IsLegible) (hout : ∀ q ∈ p.files, ¬ b.place <+: q) :
    p.CarriedOut now b t (p.carryOut f b t now styles).2.1
      (p.carryOut f b t now styles).2.2 := by
  have hfirst : p.source.resolve ∈ p.copied := List.mem_cons_self
  have h1 := (Backups.Copied.refl (Q := (· ∈ p.copied)) h now).create hp hfirst
    (hout _ p.source_mem_files) (sourceReason f)
  unfold carryOut
  split
  · next hr => rw [hr] at h1; exact carriedOut_of_copied h1
  · next copy b1 t1 hr =>
    rw [hr] at h1
    have h2 := backupSheet_copied h1 hs hout
    split
    · next hr => rw [hr] at h2; exact carriedOut_of_copied h2
    · next sheetCopy b2 t2 hr =>
      rw [hr] at h2
      have hw := write_changes (t := t2) hp hs
      have hplace := Backups.place_congr h2.directory
      have hstore : b2.IsStore (p.write t2).2 :=
        (Backups.Works.ofFiles (Q := (· ∈ p.files)) h2.store
          (fun q hq => by rw [hplace]; exact hout q hq) hw
          fun q hq => hq.elim id fun h => h.elim).store
      have hmanifest : b2.manifestPath.resolve ∉ p.files := by
        intro hq
        refine hout _ hq ?_
        rw [Backups.resolve_manifestPath, hplace]
        exact List.prefix_append _ _
      have h3 : p.CarriedOut now b t b2 (p.write t2).2 := by
        refine ⟨hstore, h2.root, h2.directory, ?_, ?_, h2.others, fun file hf => ?_⟩
        · exact (h2.changes.mono (fun _ hq => .inl hq) fun _ hq => hq).trans
            (hw.mono (fun _ hq => .inr hq) fun _ hq => hq.elim)
        · intro hprunes hm
          exact (h2.mirrored hprunes hm).congr rfl rfl (fun _ _ => rfl) hw hmanifest fun h => h
        · refine (h2.fate file hf).then rfl rfl rfl hw fun _ timestamp => ⟨fun hq => ?_, fun h => h⟩
          rw [Backups.copyPlace_congr h2.root h2.directory] at hq
          exact hout _ hq (Backups.place_prefix_copyPlace b _ _)
      split <;> next hr => rw [hr] at h3; exact h3

end Plan

end Restyle
