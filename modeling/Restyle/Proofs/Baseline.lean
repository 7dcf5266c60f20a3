import Mathlib.Logic.Function.Basic
import Restyle.Proofs.CopiedFiles

/-!
The content that the store takes a file to have: what it had when it was copied last, or what was
written over it since. A ledger in which that is noted agrees with the records.
-/
namespace Restyle

open Restyle.Tree

/-- Whether the newest record of a file is later than all that it had before. -/
def Backups.hasNewer (b b' : Backups) (file : Path) : Bool :=
  match b'.latest? file with
  | none => false
  | some e => (b.history file).all fun e' => e'.timestamp < e.timestamp

/-- What each file had when it was last copied or written. -/
abbrev Ledger := Path → Option ByteArray

namespace Ledger

/-- Notes what was written, one file after the other. -/
def noteAll (seen : Ledger) (ms : List Modification) : Ledger :=
  ms.foldl (fun seen m => Function.update seen m.path.resolve (some m.after.toUTF8)) seen

theorem noteAll_cons (seen : Ledger) (m : Modification) (ms : List Modification) :
    seen.noteAll (m :: ms) =
      noteAll (Function.update seen m.path.resolve (some m.after.toUTF8)) ms := rfl

theorem noteAll_of_notMem {seen : Ledger} {ms : List Modification} {q : Path}
    (h : ∀ m ∈ ms, m.path.resolve ≠ q) : seen.noteAll ms q = seen q := by
  induction ms generalizing seen with
  | nil => rfl
  | cons m ms ih =>
    have hne : q ≠ m.path.resolve := fun e => h m List.mem_cons_self e.symm
    rw [noteAll_cons, ih fun m hm => h m (List.mem_cons_of_mem _ hm), Function.update_of_ne hne]

/-- What is noted depends on the paths and the texts alone. -/
theorem noteAll_eq_foldl (seen : Ledger) (ms : List Modification) :
    seen.noteAll ms = (ms.map fun m => (m.path, m.after)).foldl
      (fun (seen : Ledger) (x : Path × String) =>
        Function.update seen x.1.resolve (some x.2.toUTF8)) seen := by
  rw [List.foldl_map]
  rfl

/-- Notes what was copied, where files have newer records than before. -/
def noteCopies (seen : Ledger) (b b' : Backups) (t : Tree) : Ledger := fun q =>
  if b.hasNewer b' q then t.file? q else seen q

/-- Notes what is written back, up to the first file that cannot be written. -/
def noteBack (seen : Ledger) (e : Editor) (t : Tree) : List Modification → Ledger
  | [] => seen
  | m :: rest =>
    match t.write m.path.resolve m.before.toUTF8 with
    | .error _ => seen
    | .ok t =>
      let (e, t) := e.record t m.path.resolve m.before.toUTF8
      noteBack (Function.update seen m.path.resolve (some m.before.toUTF8)) e t rest

end Ledger

namespace BackupEntry

theorem expected_of_unwritten {e : BackupEntry} (h : e.written = .null) :
    e.expected = e.hash := by
  unfold expected
  rw [h]
  rfl

theorem expected_written (e : BackupEntry) (bytes : ByteArray) :
    expected { e with written := .str (Digest.short bytes) } = .str (Digest.short bytes) := by
  have hne : Digest.short bytes ≠ "" := by
    intro h
    have hl := congrArg (List.length ∘ String.toList) h
    simp [Digest.short, Digest.hexWord] at hl
  have htruthy : (Value.str (Digest.short bytes)).isTruthy = true := by
    simp [Value.isTruthy, hne]
  unfold expected Value.orElse
  rw [if_pos htruthy]

end BackupEntry

namespace Backups

variable {b b' : Backups} {t t' : Tree} {file : Path} {content? : Option ByteArray}
  {live : Prop}

/-- Whether what is noted of a file agrees with its records and, if `live`, with the file. -/
structure Agrees (live : Prop) (b : Backups) (t : Tree) (file : Path)
    (content? : Option ByteArray) : Prop where
  expects : ∀ e, (recordsOf b.index file).getLast? = some e →
    ∃ content, content? = some content ∧ e.expected = .str (Digest.short content)
  same : live → recordsOf b.index file ≠ [] →
    ∃ content, content? = some content ∧ t.find file = .ok (file, some (.file content))

theorem agrees_of_none (h : recordsOf b.index file = []) : Agrees live b t file content? where
  expects e he := by
    rw [h] at he
    cases he
  same _ hne := absurd h hne

/-- It goes on agreeing while neither the records nor the file change. -/
theorem Agrees.congr (h : Agrees live b t file content?)
    (hrecords : recordsOf b'.index file = recordsOf b.index file) {W R : Path → Prop}
    (hc : Changes W R t t') (hne : live → ¬ W file ∧ ¬ R file) :
    Agrees live b' t' file content? where
  expects e he := h.expects e (hrecords ▸ he)
  same hl hsome := by
    obtain ⟨content, hcontent, hfind⟩ := h.same hl (hrecords ▸ hsome)
    refine ⟨content, hcontent, ?_⟩
    exact hc.find_some hfind (hne hl).1 (hne hl).2

/-- Nor does it matter if the records are others that are alike. -/
theorem Agrees.alike (h : Agrees live b t file content?)
    (hrecords : BackupEntry.AreAlike (recordsOf b.index file) (recordsOf b'.index file)) :
    Agrees live b' t file content? where
  expects e' he' := by
    have hlast := BackupEntry.rel_getLast? hrecords
    rw [he'] at hlast
    revert hlast
    generalize hlast' : (recordsOf b.index file).getLast? = last
    rintro ⟨halike⟩
    obtain ⟨content, hcontent, hexpected⟩ := h.expects _ hlast'
    exact ⟨content, hcontent, halike.expected.trans hexpected⟩
  same hl hsome := by
    refine h.same hl fun hnil => hsome ?_
    rw [hnil] at hrecords
    exact List.forall₂_nil_left_iff.1 hrecords

theorem hasNewer_of_same (h : b'.history file = b.history file) : b.hasNewer b' file = false := by
  unfold hasNewer latest?
  rw [h]
  split
  · rfl
  · next e he =>
    refine List.all_eq_false.2 ⟨e, List.mem_of_getLast? he, ?_⟩
    simp

theorem noteCopies_of_same {seen : Ledger} (h : b'.history file = b.history file) :
    seen.noteCopies b b' t file = seen file := by
  unfold Ledger.noteCopies
  rw [hasNewer_of_same h]
  rfl

theorem noteCopies_of_newer {seen : Ledger} {e : BackupEntry}
    (newest : (b'.history file).getLast? = some e)
    (later : ∀ e' ∈ b.history file, e'.timestamp < e.timestamp) :
    seen.noteCopies b b' t file = t.file? file := by
  have hnewer : b.hasNewer b' file = true := by
    unfold hasNewer latest?
    rw [newest]
    simpa using later
  unfold Ledger.noteCopies
  rw [if_pos hnewer]

/-! ### Recording what was written -/

theorem recordWrite_newest {path : Path} (hp : path.IsLegible) {bytes : ByteArray}
    {e : BackupEntry}
    (h : (recordsOf (b.recordWrite t path bytes).1.index path.resolve).getLast? = some e) :
    e.expected = .str (Digest.short bytes) := by
  unfold recordWrite at h
  split at h
  · next hnil =>
    have hnone : recordsOf b.index path.resolve = [] := hnil
    rw [hnone] at h
    cases h
  · next hsome =>
    simp only at h
    rw [recordsOf_assign hp.resolve hp.resolve, if_pos rfl] at h
    cases hlast : (b.history path).getLast? with
    | none => exact absurd (List.getLast?_eq_none_iff.1 hlast) hsome
    | some e' =>
      rw [getLast?_setLast hlast] at h
      cases h
      exact e'.expected_written bytes

theorem recordWrite_others (h : b.IsStore t) {path : Path} (hp : path.IsLegible)
    (bytes : ByteArray) (hf : file.IsPlace) (hne : file ≠ path.resolve) :
    recordsOf (b.recordWrite t path bytes).1.index file = recordsOf b.index file :=
  (recordWrite_works (Q := (· = path.resolve)) h hp rfl bytes).records file hf hne

/-- A file without records gets none by this. -/
theorem recordWrite_none (h : b.IsStore t) {path : Path} (hp : path.IsLegible)
    (bytes : ByteArray) (hf : file.IsPlace) (hnone : recordsOf b.index file = []) :
    recordsOf (b.recordWrite t path bytes).1.index file = [] := by
  by_cases hne : file = path.resolve
  · subst hne
    unfold recordWrite
    split
    · exact hnone
    · next hsome => exact absurd hnone hsome
  · rw [recordWrite_others h hp bytes hf hne, hnone]

/-- What was written over a file is what the store takes it to have. -/
theorem recordWrite_agrees (h : b.IsStore t) {path : Path} (hp : path.IsLegible)
    {bytes : ByteArray} (hf : file.IsPlace) (hout : ¬ b.place <+: file) {seen : Ledger}
    (ha : file ≠ path.resolve → Agrees live b t file (seen file))
    (hsame : live → file = path.resolve → recordsOf b.index file ≠ [] →
      t.find file = .ok (file, some (.file bytes))) :
    Agrees live (b.recordWrite t path bytes).1 (b.recordWrite t path bytes).2 file
      (Function.update seen path.resolve (some bytes) file) := by
  have hc := recordWrite_changes h.rooted t path bytes
  have haway := ne_manifest_of_away hout
  by_cases hne : file = path.resolve
  · subst hne
    rw [Function.update_self]
    refine ⟨fun e he => ⟨bytes, rfl, recordWrite_newest hp he⟩, fun hl hsome => ⟨bytes, rfl, ?_⟩⟩
    have hfind := hsame hl rfl fun hnone => hsome (recordWrite_none h hp bytes hf hnone)
    exact hc.find_some hfind haway fun h => h
  · rw [Function.update_of_ne hne]
    exact (ha hne).congr (recordWrite_others h hp bytes hf hne) hc fun _ => ⟨haway, fun h => h⟩

/-- A store whose manifest says what its index says, and a ledger that agrees with its records. -/
structure Reconciled (live : Prop) (b : Backups) (t : Tree) (seen : Ledger) : Prop where
  store : b.IsStore t
  mirrored : b.Mirrored t
  agrees : ∀ file : Path, file.IsPlace → ¬ b.place <+: file → Agrees live b t file (seen file)

variable {seen : Ledger}

/-- A file is written and that is recorded. -/
theorem Reconciled.written (h : Reconciled live b t seen) {path : Path} (hp : path.IsPlace)
    (hout : ¬ b.place <+: path) {bytes : ByteArray} {t1 : Tree}
    (hw : t.write path bytes = .ok t1) :
    Reconciled live (b.recordWrite t1 path bytes).1 (b.recordWrite t1 path bytes).2
      (Function.update seen path (some bytes)) := by
  have hlegible := hp.isPlain.isLegible
  have hresolve := Path.resolve_of_isPlace hp
  have hc := write_changes (R := nowhere) hlegible hw
  rw [hresolve] at hc
  have hworks : b.Works (· = path) t b t1 :=
    .ofFiles h.store (fun q hq => hq ▸ hout) hc fun q hq => hq.elim id fun h => h.elim
  have hrecorded := recordWrite_works (Q := (· = path)) hworks.store hlegible hresolve bytes
  refine ⟨hrecorded.store, ?_, fun file hf haway => ?_⟩
  · have hm := h.mirrored.congr rfl rfl (fun _ _ => rfl) hc (ne_manifest_of_away hout).symm
      fun h => h
    exact recordWrite_mirrored hworks.store hm hlegible bytes
  · rw [place_congr hrecorded.directory] at haway
    have hothers (hne : file ≠ path.resolve) : Agrees live b t1 file (seen file) := by
      rw [hresolve] at hne
      exact (h.agrees file hf haway).congr rfl hc fun _ => ⟨hne, fun h => h⟩
    have hwritten (_ : live) (heq : file = path.resolve) (_ : recordsOf b.index file ≠ []) :
        t1.find file = .ok (file, some (.file bytes)) := by
      have hfind := find_of_write hlegible hw
      rw [hresolve] at heq hfind
      rw [heq, hfind]
    have hagrees := recordWrite_agrees hworks.store hlegible hf haway hothers hwritten
    rwa [hresolve] at hagrees

/-- Files outside of the store's directory are changed by others. -/
theorem Reconciled.edited (h : Reconciled live b t seen) (hl : ¬ live)
    (hc : Changes (fun q => ¬ b.place <+: q) (fun q => ¬ b.place <+: q) t t') :
    Reconciled live b t' seen := by
  have hmanifest : ¬ ¬ b.place <+: b.manifestPath.resolve := by
    rw [not_not, resolve_manifestPath]
    exact List.prefix_append _ _
  have hworks : b.Works (fun q => ¬ b.place <+: q) t b t' :=
    .ofFiles h.store (fun _ hq => hq) hc fun _ hq => hq.elim id id
  refine ⟨hworks.store, h.mirrored.congr rfl rfl (fun _ _ => rfl) hc hmanifest hmanifest, ?_⟩
  exact fun file hf haway => (h.agrees file hf haway).congr rfl hc fun h => absurd h hl

/-- Other settings. -/
theorem Reconciled.settings (h : Reconciled live b t seen) (s : Settings) :
    Reconciled live { b with settings := s } t seen := by
  have hc : Changes nowhere nowhere t t := .refl t
  have hworks : b.Works (fun _ => True) t { b with settings := s } t := .ofSettings h.store s
  refine ⟨hworks.store, h.mirrored.congr rfl rfl (fun _ _ => rfl) hc (fun h => h) fun h => h, ?_⟩
  exact fun file hf haway => (h.agrees file hf haway).congr rfl hc fun _ => ⟨fun h => h, fun h => h⟩

/-- The store is loaded again. -/
theorem Reconciled.loaded (h : Reconciled live b t seen) (hl : Loaded t b.root b' t')
    (hd : b'.directory = b.directory) : Reconciled live b' t' seen := by
  obtain ⟨hmirrored, hrecords⟩ := hl.mirrored h.store hd h.mirrored
  have hc : Changes nowhere nowhere t t' := hl.changes h.store.rooted.root
  refine ⟨hl.isStore_again h.store hd, hmirrored, fun file hf haway => ?_⟩
  rw [place_congr hd] at haway
  rcases hrecords with hsame | hnone
  · have hagrees : Agrees live b t' file (seen file) :=
      (h.agrees file hf haway).congr rfl hc fun _ => ⟨fun h => h, fun h => h⟩
    exact hagrees.alike (hsame file hf)
  · refine agrees_of_none ?_
    unfold recordsOf
    rw [hnone]
    rfl

end Backups

namespace Plan

variable {p : Plan} {b b' : Backups} {t t' : Tree}

/-- Where carrying out a plan succeeds its files have what is noted of them. -/
theorem carryOut_noted (hp : p.source.IsLegible) (hs : ∀ s, p.sheet = some s → s.path.IsLegible)
    {f : Framework} {now : Readings} {styles : Style.Declarations} {e : Edited}
    (h : p.carryOut f b t now styles = (.ok e, b', t')) (seen : Ledger) {q : Path}
    (hq : q ∈ p.files) :
    ∃ content, seen.noteAll e.modifications q = some content ∧ t'.file? q = some content := by
  rw [Ledger.noteAll_eq_foldl, written_of_carryOut h]
  obtain ⟨t2, hwrite⟩ := written_last h
  rcases write_succeeded hp hs hwrite with ⟨hnone, hsource⟩ | ⟨s, hsheet, hfile, hsource⟩
  · have hqs : q = p.source.resolve := by simpa [files, hnone] using hq
    subst hqs
    refine ⟨_, ?_, hsource⟩
    simp [hnone]
  · simp only [hsheet, Option.toList_some, List.map_cons, List.map_nil, List.foldl_cons,
      List.foldl_nil]
    by_cases hqs : q = s.path.resolve
    · subst hqs
      exact ⟨_, Function.update_self .., hfile⟩
    · have hqp : q = p.source.resolve := by simpa [files, hsheet, hqs] using hq
      subst hqp
      refine ⟨_, ?_, hsource hqs⟩
      rw [Function.update_of_ne hqs, Function.update_self]

end Plan

namespace Workspace

open Backups

variable {t : Tree} {live : Prop} {seen : Ledger} {file : Path}

/-- Recording files that were written keeps the manifest and gives no file its first record. -/
theorem recordAll_keeps {e : Editor} (h : e.backups.IsStore t) {ms : List Modification}
    (hms : ∀ m ∈ ms, m.path.IsLegible) :
    (e.backups.Mirrored t → (recordAll e t ms).1.backups.Mirrored (recordAll e t ms).2) ∧
    Changes (· = e.backups.manifestPath.resolve) nowhere t (recordAll e t ms).2 ∧
    ∀ file : Path, file.IsPlace → recordsOf e.backups.index file = [] →
      recordsOf (recordAll e t ms).1.backups.index file = [] := by
  induction ms generalizing e t with
  | nil => exact ⟨fun hm => hm, .refl t, fun _ _ hn => hn⟩
  | cons m ms ih =>
    have hf := hms m List.mem_cons_self
    have hw := record_edits (Q := fun _ => True) h hf trivial m.after.toUTF8
    obtain ⟨hmirrored, hc, hnone⟩ := ih hw.works.store fun m hm => hms m (List.mem_cons_of_mem _ hm)
    have hfirst : Changes (· = e.backups.manifestPath.resolve) nowhere t
        (e.record t m.path m.after.toUTF8).2 :=
      recordWrite_changes h.rooted t m.path m.after.toUTF8
    rw [manifestPath_congr hw.works.directory] at hc
    refine ⟨fun hm => hmirrored (recordWrite_mirrored h hm hf _), hfirst.trans hc, ?_⟩
    exact fun file hfile hn => hnone file hfile (recordWrite_none h hf _ hfile hn)

/-- What is recorded last of a file is what the store takes it to have. -/
theorem recordAll_expects {e : Editor} (h : e.backups.IsStore t) {ms : List Modification}
    (hms : ∀ m ∈ ms, m.path.IsLegible) (hf : file.IsPlace) (hout : ¬ e.backups.place <+: file)
    (ha : (∀ m ∈ ms, m.path.resolve ≠ file) → Agrees False e.backups t file (seen file)) :
    Agrees False (recordAll e t ms).1.backups (recordAll e t ms).2 file (seen.noteAll ms file) := by
  induction ms generalizing e t seen with
  | nil => exact ha fun m hm => absurd hm List.not_mem_nil
  | cons m ms ih =>
    have hm := hms m List.mem_cons_self
    have hw := record_edits (Q := fun _ => True) h hm trivial m.after.toUTF8
    have hout' : ¬ (e.record t m.path m.after.toUTF8).1.backups.place <+: file :=
      place_congr hw.works.directory ▸ hout
    refine ih hw.works.store (fun m hm => hms m (List.mem_cons_of_mem _ hm)) hout' fun hrest => ?_
    refine recordWrite_agrees h hm hf hout (fun hne => ha fun m' hm' => ?_) fun hl => hl.elim
    rcases List.mem_cons.1 hm' with rfl | hm'
    · exact fun e => hne e.symm
    · exact hrest m' hm'

end Workspace

end Restyle
