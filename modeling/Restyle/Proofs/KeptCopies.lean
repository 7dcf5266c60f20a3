import Mathlib.Data.Rat.Floor
import Restyle.Proofs.StoreRun

/-!
Each record of a file in the project has its copy, with the bytes that the file had when it was
made, through every use of the store. Only a backup that fails once it has begun to prune takes
copies away and leaves their records.
-/
namespace Restyle

open Restyle.Tree BackupEntry

namespace Backups

variable {b b' : Backups} {t t' : Tree} {W R : Path → Prop}

/-! ### Copies that are removed -/

theorem removeCopy_cases {e : BackupEntry} (h : removeCopy t e = .ok t') :
    t' = t ∨ ∃ q bytes, t.node? q = some (.file bytes) ∧ t' = t.drop q := by
  unfold removeCopy at h
  cases hc : copyOf e with
  | error f =>
    rw [hc] at h
    cases h
  | ok copy =>
    rw [hc] at h
    cases h
    cases copy with
    | none => exact .inl rfl
    | some c =>
      simp only [Option.bind_some]
      unfold remove
      split
      · exact .inl rfl
      · exact .inl rfl
      · exact .inl rfl
      · next q bytes hf => exact .inr ⟨q, bytes, node?_of_find hf, rfl⟩

theorem file?_drop_of_none {p q : Path} {bytes : ByteArray} (hp : t.node? p = some (.file bytes))
    (hq : t.file? q = none) : (t.drop p).file? q = none := by
  have hne : p ≠ [] := by
    rintro rfl
    rw [node?_nil] at hp
    cases hp
  unfold file? at hq ⊢
  rw [node?_drop hne]
  split
  · rfl
  · exact hq

/-- Removing copies makes no file. -/
theorem removeCopies_none {es : List BackupEntry} {r : Except Fault Unit} {q : Path}
    (h : removeCopies t es = (r, t')) (hq : t.file? q = none) : t'.file? q = none := by
  induction es generalizing t with
  | nil =>
    cases h
    exact hq
  | cons e es ih =>
    unfold removeCopies at h
    cases he : removeCopy t e with
    | error f =>
      rw [he] at h
      cases h
      exact hq
    | ok t1 =>
      rw [he] at h
      refine ih h ?_
      rcases removeCopy_cases he with rfl | ⟨p, bytes, hp, rfl⟩
      · exact hq
      · exact file?_drop_of_none hp hq

/-- A copy that was removed is not there. -/
theorem removeCopies_gone {es : List BackupEntry} (h : removeCopies t es = (.ok (), t'))
    {e : BackupEntry} (he : e ∈ es) {c : Path} (hc : copyOf e = .ok (some c))
    (hthere : t.file? c.resolve = none ∨
      ∃ bytes, t.find c = .ok (c.resolve, some (.file bytes))) : t'.file? c.resolve = none := by
  induction es generalizing t with
  | nil => cases he
  | cons e' es ih =>
    unfold removeCopies at h
    cases he' : removeCopy t e' with
    | error f =>
      rw [he'] at h
      cases h
    | ok t1 =>
      rw [he'] at h
      by_cases hnone : t1.file? c.resolve = none
      · exact removeCopies_none h hnone
      obtain ⟨bytes', hbytes'⟩ := Option.ne_none_iff_exists'.1 hnone
      rcases hthere with hfile | ⟨bytes, hfind⟩
      · refine absurd ?_ hnone
        rcases removeCopy_cases he' with rfl | ⟨p, bytes, hp, rfl⟩
        · exact hfile
        · exact file?_drop_of_none hp hfile
      · rcases List.mem_cons.1 he with rfl | he
        · refine absurd ?_ hnone
          have hdrop : removeCopy t e = .ok (t.drop c.resolve) := by
            unfold removeCopy remove
            rw [hc]
            simp only [Except.map, Option.bind_some, hfind]
            rfl
          rw [hdrop] at he'
          cases he'
          have hne : c.resolve ≠ [] := by
            intro e
            have hn := node?_of_find hfind
            rw [e, node?_nil] at hn
            cases hn
          unfold file?
          rw [node?_drop hne, if_pos rfl]
          rfl
        · have hchanges := removeCopy_changes (W := nowhere) he'
          exact ih h he (.inr ⟨bytes', find_of_file? (hchanges.find hfind) hbytes'⟩)

/-! ### What pruning removes -/

/-- The records of which a backup removes the copies before it fails: those beyond the count, if the
time for which copies are kept is none. -/
def lost (settings : Settings) (old : List BackupEntry) : List BackupEntry :=
  match excess settings (old.length + 1), keepMillis settings with
  | .ok n, .error _ => old.take n
  | _, _ => []

theorem lost_sublist (settings : Settings) (old : List BackupEntry) :
    (lost settings old).Sublist old := by
  unfold lost
  split
  · exact List.take_sublist _ _
  · exact List.nil_sublist _

/-- Where pruning fails it has removed the copies of the lost records. -/
theorem removeCopies_lost {settings : Settings} {now : Clock} {old : List BackupEntry}
    {e : BackupEntry} {f : Fault} (hcopies : ∀ e' ∈ old ++ [e], ∃ c, copyOf e' = .ok c)
    (h : prune settings now t (old ++ [e]) = (.error f, t')) :
    removeCopies t (lost settings old) = (.ok (), t') := by
  have hlength : (old ++ [e]).length = old.length + 1 := by simp
  have hp := prune_cases settings now t (old ++ [e])
  rw [h] at hp
  cases hp with
  | uncounted count =>
    rw [hlength] at count
    unfold lost
    rw [count]
    rfl
  | full count first =>
    exact absurd first (removeCopies_ne_error (List.take_sublist _ _) hcopies)
  | @ageless n f t1 count first age =>
    have hle : n ≤ old.length := by
      have hn := excess_le count
      omega
    rw [hlength] at count
    unfold lost
    rw [count, age]
    rwa [List.take_append_of_le_length hle] at first
  | old count first age second =>
    exact absurd second
      (removeCopies_ne_error (List.filter_sublist.trans (List.drop_sublist _ _)) hcopies)

/-- Pruning removes copies of records that it does not keep. -/
theorem prune_kept_changes {settings : Settings} {now : Clock} {es kept : List BackupEntry}
    (hrising : es.Pairwise fun e e' => e.timestamp < e'.timestamp)
    (h : prune settings now t es = (.ok kept, t')) :
    Changes W (fun q => ∃ e ∈ es, e ∉ kept ∧ e.IsAt q) t t' := by
  have hp := prune_cases settings now t es
  rw [h] at hp
  cases hp with
  | @kept n keep t1 t2 count first age second =>
    have hfirst := removeCopies_changes (W := W) t (es.take n)
    have hsecond := removeCopies_changes (W := W) t1 ((es.drop n).filter fun e =>
      decide (e.timestamp < now.millis - keep))
    rw [first] at hfirst
    rw [second] at hsecond
    refine (hfirst.mono (fun _ h => h) ?_).trans (hsecond.mono (fun _ h => h) ?_)
    · rintro q ⟨e, he, hat⟩
      refine ⟨e, List.mem_of_mem_take he, fun hkept => ?_, hat⟩
      rw [← List.take_append_drop n es] at hrising
      have hlt := (List.pairwise_append.1 hrising).2.2 e he e (List.mem_filter.1 hkept).1
      omega
    · rintro q ⟨e, he, hat⟩
      obtain ⟨hmem, hold⟩ := List.mem_filter.1 he
      refine ⟨e, List.mem_of_mem_drop hmem, fun hkept => ?_, hat⟩
      have hyoung := (List.mem_filter.1 hkept).2
      simp [hold] at hyoung

end Backups

/-! ### What is noted of the copies of a file -/

/-- What is noted of the copies of a file by their timestamps: what the file had, and whether a
backup that failed has taken the copy away. -/
structure CopyLog where
  bytes : Int → Option ByteArray
  torn : Int → Bool

namespace CopyLog

def empty : CopyLog := ⟨fun _ => none, fun _ => false⟩

/-- A copy is made. -/
def note (l : CopyLog) (timestamp : Int) (bytes : ByteArray) : CopyLog where
  bytes n := if n = timestamp then some bytes else l.bytes n
  torn n := decide (n ≠ timestamp) && l.torn n

/-- Copies are taken away. -/
def tear (l : CopyLog) (es : List BackupEntry) : CopyLog where
  bytes := l.bytes
  torn n := es.any (fun e => e.timestamp == n) || l.torn n

/-- What is noted of the copies of a file once a backup of it was made, or has failed. -/
def after (l : CopyLog) (b : Backups) (t : Tree) (now : Readings) (file : Path)
    (result : Except Problem BackupEntry) : CopyLog :=
  match file.checked, t.read file.resolve, result with
  | .ok _, .ok bytes, .ok _ => l.note (b.stamp file now) bytes
  | .ok _, .ok bytes, .error (.fault _) =>
    (l.note (b.stamp file now) bytes).tear (Backups.lost b.settings (b.history file))
  | _, _, _ => l

theorem after_error {l : CopyLog} {b : Backups} {t : Tree} {now : Readings} {file : Path}
    {p : Problem} (h : ∀ f, p = .fault f → file.checked = .error f) : l.after b t now file (.error p) = l := by
  unfold after
  split
  · next he => cases he
  · next f hchecked hread he =>
    cases he
    rw [h f rfl] at hchecked
    cases hchecked
  · rfl

/-- Whether two logs say the same of a timestamp. -/
def Agrees (l l' : CopyLog) (n : Int) : Prop := l'.bytes n = l.bytes n ∧ l'.torn n = l.torn n

theorem agrees_note {l : CopyLog} {n m : Int} (h : n ≠ m) (bytes : ByteArray) :
    l.Agrees (l.note m bytes) n := by
  simp [Agrees, note, h]

end CopyLog

namespace Backups

variable {b b' : Backups} {t t' : Tree} {W R : Path → Prop} {l l' : CopyLog} {file : Path}

/-- Whether a record is of what was noted, and its copy is there with just that unless it was taken
away. -/
def IsKept (b : Backups) (t : Tree) (l : CopyLog) (file : Path) (e : BackupEntry) : Prop :=
  ∃ bytes, l.bytes e.timestamp = some bytes ∧ e.hash = .str (Digest.short bytes) ∧
    (l.torn e.timestamp = false → t.find (b.copyPath file e.timestamp) =
      .ok (b.copyPlace file e.timestamp, some (.file bytes))) ∧
    (l.torn e.timestamp = true → t.file? (b.copyPlace file e.timestamp) = none)

theorem IsKept.congr {e e' : BackupEntry} (h : b.IsKept t l file e) (hr : b'.root = b.root)
    (hd : b'.directory = b.directory) (htimestamp : e'.timestamp = e.timestamp)
    (hhash : e'.hash = e.hash) (hl : l.Agrees l' e.timestamp) (hc : Changes W R t t')
    (hW : ¬ W (b.copyPlace file e.timestamp)) (hR : ¬ R (b.copyPlace file e.timestamp)) :
    b'.IsKept t' l' file e' := by
  obtain ⟨bytes, hbytes, hshort, hthere, hgone⟩ := h
  unfold IsKept
  rw [htimestamp, hhash, hl.1, hl.2, copyPath_congr hr hd, copyPlace_congr hr hd]
  refine ⟨bytes, hbytes, hshort, fun htorn => ?_, fun htorn => ?_⟩
  · exact hc.find_some (hthere htorn) hW hR
  · rw [hc.file? hW hR]
    exact hgone htorn

/-- Whether one who reads the manifest has the records of a file that the index has, or those that
it had before the last ones were made; or the manifest is no file. -/
def IsBehind (b : Backups) (t : Tree) (file : Path) : Prop :=
  (∃ index before, t.find b.manifestPath =
      .ok (b.manifestPath.resolve, some (.file (manifestBytes index))) ∧ b.IsSound index ∧
    before <+: recordsOf b.index file ∧ AreAlike before (recordsOf index.joined file)) ∨
  t.file? b.manifestPath.resolve = none

theorem IsBehind.unspoilt (h : b.IsBehind t file) : b.Unspoilt t := by
  rcases h with ⟨index, before, hfind, -⟩ | h
  · exact .inl ⟨_, hfind⟩
  · exact .inr h

theorem Mirrored.isBehind (h : b.Mirrored t) (hf : file.IsPlace) : b.IsBehind t file := by
  rcases h with h | h
  · obtain ⟨index, hfind, hsound, hsame⟩ := h file hf
    exact .inl ⟨index, _, hfind, hsound, List.prefix_refl _, hsame⟩
  · exact .inr h

/-- More records, and a manifest that stays. -/
theorem IsBehind.congr (h : b.IsBehind t file) (hr : b'.root = b.root)
    (hd : b'.directory = b.directory)
    (hrecords : recordsOf b.index file <+: recordsOf b'.index file) (hc : Changes W R t t')
    (hW : ¬ W b.manifestPath.resolve) (hR : ¬ R b.manifestPath.resolve) :
    b'.IsBehind t' file := by
  have hm := manifestPath_congr hd
  rcases h with ⟨index, before, hfind, hsound, hbefore, halike⟩ | h
  · refine .inl ⟨index, before, ?_, hsound.congr hr hd, hbefore.trans hrecords, halike⟩
    rw [hm]
    exact hc.find_some hfind hW hR
  · refine .inr ?_
    rw [hm, hc.file? hW hR, h]

/-- What holds of the copies of a file and of their records all the time. -/
structure Keeps (b : Backups) (t : Tree) (l : CopyLog) (file : Path) : Prop where
  store : b.IsStore t
  behind : b.IsBehind t file
  kept : ∀ e ∈ recordsOf b.index file, b.IsKept t l file e
  project : recordsOf b.index file ≠ [] → t.node? b.root = some .directory

/-- A step that touches neither the records nor the copies of the file nor the manifest. -/
theorem Keeps.congr (h : b.Keeps t l file) (hs : b'.IsStore t') (hr : b'.root = b.root)
    (hd : b'.directory = b.directory)
    (hrecords : recordsOf b'.index file = recordsOf b.index file) (hc : Changes W R t t')
    (hm : ¬ W b.manifestPath.resolve ∧ ¬ R b.manifestPath.resolve)
    (hcopy : ∀ timestamp, ¬ W (b.copyPlace file timestamp) ∧ ¬ R (b.copyPlace file timestamp)) :
    b'.Keeps t' l file where
  store := hs
  behind := h.behind.congr hr hd (hrecords ▸ List.prefix_refl _) hc hm.1 hm.2
  kept e he := by
    rw [hrecords] at he
    exact (h.kept e he).congr hr hd rfl rfl ⟨rfl, rfl⟩ hc (hcopy _).1 (hcopy _).2
  project hne := by
    rw [hrecords] at hne
    rw [hr]
    exact hc.directory (h.project hne)

/-- In the way of a file of the project that is there lies the project's directory. -/
theorem root_of_read (hb : b.IsRooted) (hf : b.IsWithin file) {bytes : ByteArray}
    (h : t.read file = .ok bytes) : t.node? b.root = some .directory := by
  obtain ⟨p, hp, rfl, -⟩ := hf.inside
  have hd := node?_of_walk hb.root hp (walk_of_find (read_eq_ok.1 h))
  rwa [List.nil_append] at hd

theorem IsWithin.congr (h : b.IsWithin file) (hr : b'.root = b.root) : b'.IsWithin file where
  place := h.place
  inside := by rw [hr]; exact h.inside

/-! ### What is done besides making a backup -/

/-- Recording what was written makes no records and leaves what a backup noted in those that there
are. -/
theorem recordWrite_records (b : Backups) (t : Tree) (hf : file.IsPlace) {path : Path}
    (hp : path.IsLegible) (bytes : ByteArray) :
    ∀ e ∈ recordsOf (b.recordWrite t path bytes).1.index file, ∃ e' ∈ recordsOf b.index file,
      e.timestamp = e'.timestamp ∧ e.hash = e'.hash := by
  intro e he
  rcases recordWrite_cases b t path bytes with ⟨-, hr⟩ | ⟨-, hr⟩
  · rw [hr] at he
    exact ⟨e, he, rfl, rfl⟩
  · rw [hr] at he
    unfold withHistory at he
    rw [recordsOf_assign hp.resolve hf] at he
    split at he
    · next heq =>
      have hhistory : b.history path = recordsOf b.index file := by rw [heq]; rfl
      rw [hhistory] at he
      obtain ⟨e', he', rfl | rfl⟩ := mem_setLast he
      · exact ⟨e, he', rfl, rfl⟩
      · exact ⟨e', he', rfl, rfl⟩
    · exact ⟨e, he, rfl, rfl⟩

theorem recordWrite_behind (h : b.IsStore t) (hb : b.IsBehind t file) (hf : file.IsPlace)
    {path : Path} (hp : path.IsLegible) (bytes : ByteArray) :
    (b.recordWrite t path bytes).1.IsBehind (b.recordWrite t path bytes).2 file := by
  have hw := recordWrite_works (Q := fun _ => True) h hp trivial bytes
  rcases recordWrite_cases b t path bytes with ⟨-, hr⟩ | ⟨-, hr⟩
  · rw [hr]
    exact hb
  · rw [hr] at hw ⊢
    have hunspoilt : (b.withHistory path (setLast (rewritten bytes) (b.history path))).Unspoilt t :=
      hb.unspoilt
    exact (saveIndex_mirrored (h.rooted.withHistory path _) hw.store.index hunspoilt).isBehind hf

theorem recordWrite_keeps (h : b.Keeps t l file) (hf : file.IsPlace) {path : Path}
    (hp : path.IsLegible) (bytes : ByteArray) :
    (b.recordWrite t path bytes).1.Keeps (b.recordWrite t path bytes).2 l file := by
  have hw := recordWrite_works (Q := fun _ => True) h.store hp trivial bytes
  have hc := recordWrite_changes h.store.rooted t path bytes
  have hrecords := recordWrite_records b t hf hp bytes
  refine ⟨hw.store, recordWrite_behind h.store h.behind hf hp bytes, fun e he => ?_, fun hne => ?_⟩
  · obtain ⟨e', he', htimestamp, hhash⟩ := hrecords e he
    exact (h.kept e' he').congr hw.root hw.directory htimestamp hhash ⟨rfl, rfl⟩ hc
      (copyPlace_ne_manifest b _ _) fun h => h
  · obtain ⟨e, he⟩ := List.exists_mem_of_ne_nil _ hne
    obtain ⟨e', he', -⟩ := hrecords e he
    rw [hw.root]
    exact hc.directory (h.project (List.ne_nil_of_mem he'))

theorem clear_keeps (h : b.Keeps t l file) (hf : file.IsPlace) :
    (b.clear t).1.Keeps (b.clear t).2 l file := by
  have hnil : recordsOf (b.clear t).1.index file = [] := rfl
  refine ⟨(clear_works h.store).store,
    (clear_mirrored h.store h.behind.unspoilt).isBehind hf, ?_, ?_⟩
  · rw [hnil]
    exact fun e he => absurd he List.not_mem_nil
  · rw [hnil]
    exact fun hne => absurd rfl hne

/-- Whatever the manifest has forgotten, what it says is of records that there are. -/
theorem Loaded.behind (h : Loaded t b.root b' t') (hd : b'.directory = b.directory)
    (hs : b.IsStore t) (hb : b.IsBehind t file) :
    b'.IsBehind t' file ∧
      ∀ e' ∈ recordsOf b'.index file, ∃ e ∈ recordsOf b.index file, e.IsAlike e' := by
  have hroot := hs.rooted.root
  rcases hb with ⟨index, before, hfind, hsound, hbefore, halike⟩ | hnone
  · obtain ⟨hindex, hsound', hfind'⟩ := h.index_eq hroot hd hsound hfind
    rw [← hindex] at halike
    refine ⟨.inl ⟨index, _, hfind', hsound', List.prefix_refl _, ?_⟩, fun e' he' => ?_⟩
    · rw [hindex]
      exact areAlike_refl _
    · obtain ⟨e, he, hsame⟩ := exists_mem_of_forall₂ halike.flip he'
      exact ⟨e, hbefore.subset he, hsame⟩
  · have hc : Changes nowhere nowhere t t' := h.changes hroot
    have hnone' : t'.file? b'.manifestPath.resolve = none := by
      rw [manifestPath_congr hd, hc.file? (fun h => h) fun h => h]
      exact hnone
    rw [h.index_of_none hnone']
    exact ⟨.inr hnone', fun _ he' => absurd he' List.not_mem_nil⟩

theorem Loaded.keeps (h : Loaded t b.root b' t') (hd : b'.directory = b.directory)
    (hk : b.Keeps t l file) : b'.Keeps t' l file := by
  have hc : Changes nowhere nowhere t t' := h.changes hk.store.rooted.root
  obtain ⟨hbehind, hrecords⟩ := h.behind hd hk.store hk.behind
  refine ⟨h.isStore_again hk.store hd, hbehind, fun e' he' => ?_, fun hne => ?_⟩
  · obtain ⟨e, he, hsame⟩ := hrecords e' he'
    exact (hk.kept e he).congr h.root hd hsame.timestamp hsame.hash ⟨rfl, rfl⟩ hc (fun h => h)
      fun h => h
  · obtain ⟨e', he'⟩ := List.exists_mem_of_ne_nil _ hne
    obtain ⟨e, he, -⟩ := hrecords e' he'
    rw [h.root]
    exact hc.directory (hk.project (List.ne_nil_of_mem he))

/-- Whether neither the manifest nor a copy of a file lies at a place of `W`. -/
def Spares (b : Backups) (W : Path → Prop) (file : Path) : Prop :=
  ¬ W b.manifestPath.resolve ∧ ∀ timestamp, ¬ W (b.copyPlace file timestamp)

theorem Spares.congr (h : b.Spares W file) (hr : b'.root = b.root)
    (hd : b'.directory = b.directory) : b'.Spares W file := by
  unfold Spares
  rw [manifestPath_congr hd, copyPlace_congr hr hd]
  exact h

theorem Act.keeps (h : Act W b t b' t') (hk : b.Keeps t l file) (hf : file.IsPlace)
    (hW : b.Spares W file) : b'.Keeps t' l file := by
  have hs := h.isStore hk.store hW.1
  cases h with
  | restore path timestamp legible within done =>
    have hc : Changes W nowhere t t' :=
      (restore_changes legible done).mono (fun q hq => hq ▸ within) fun _ h => h
    exact hk.congr hs rfl rfl rfl hc ⟨hW.1, fun h => h⟩ fun n => ⟨hW.2 n, fun h => h⟩
  | record path legible bytes => exact recordWrite_keeps hk hf legible bytes
  | clear => exact clear_keeps hk hf
  | settings settings =>
    have hc : Changes nowhere nowhere t t := .refl t
    exact hk.congr hs rfl rfl rfl hc ⟨fun h => h, fun h => h⟩ fun _ => ⟨fun h => h, fun h => h⟩
  | edit changes =>
    exact hk.congr hs rfl rfl rfl changes ⟨hW.1, hW.1⟩ fun n => ⟨hW.2 n, hW.2 n⟩
  | reopen settings loaded same =>
    exact (load_eq_ok hk.store.rooted.root.isPlain.isLegible loaded).keeps same hk

/-! ### Making a backup -/

theorem create_behind (h : b.IsStore t) (hb : b.IsBehind t file) (hf : file.IsPlace)
    (now : Readings) {path : Path} (hp : path.IsLegible) (reason : String) :
    (b.create t now path reason).2.1.IsBehind (b.create t now path reason).2.2 file := by
  have hplace := hp.resolve
  have hempty : recordsOf b.index file <+:
      recordsOf (b.withoutEmpty path.resolve.text).index file :=
    recordsOf_withoutEmpty h.index path.resolve.text file ▸ List.prefix_refl _
  have hw := create_works (Q := fun _ => True) h now hp trivial reason
  have hcases := b.create_cases t now path reason
  revert hcases hw
  generalize b.create t now path reason = r
  intro hw hcases
  cases hcases with
  | refused => exact hb
  | unreadable =>
    have hc : Changes nowhere nowhere t t := .refl t
    exact hb.congr rfl rfl hempty hc (fun h => h) fun h => h
  | @uncopied bytes e t' read copied =>
    have hc : Changes nowhere nowhere t t' :=
      writeCopy_refused (isLegible_copyPath h.rooted hplace _) copied
    exact hb.congr rfl rfl hempty hc (fun h => h) fun h => h
  | @unpruned f bytes t1 t2 checked read copied pruned =>
    refine hb.congr rfl rfl ?_ (copied_changes h hp read copied pruned)
      not_copy_of_manifest not_copy_of_manifest
    unfold withHistory
    rw [recordsOf_assign hplace hf]
    split
    · next heq =>
      rw [heq]
      exact List.prefix_append _ _
    · exact List.prefix_refl _
  | @made bytes t1 t2 kept available checked read copied pruned =>
    have hunspoilt : (b.withHistory path kept).Unspoilt t2 :=
      hb.unspoilt.changes (copied_changes h hp read copied pruned) not_copy_of_manifest
        not_copy_of_manifest
    exact (saveIndex_mirrored (h.rooted.withHistory path kept) hw.store.index hunspoilt).isBehind hf

/-- Of a file that cannot be read no copy is written. -/
theorem create_unread {now : Readings} {path : Path} {reason : String}
    (h : ∀ bytes, t.read path.resolve ≠ .ok bytes) : (b.create t now path reason).2.2 = t := by
  have hcases := b.create_cases t now path reason
  revert hcases
  generalize b.create t now path reason = r
  intro hcases
  cases hcases with
  | refused => rfl
  | unreadable => rfl
  | uncopied read => exact absurd read (h _)
  | unpruned checked read => exact absurd read (h _)
  | made available checked read => exact absurd read (h _)

/-- A backup of another file. -/
theorem create_keeps_other (h : b.Keeps t l file) (hf : b.IsWithin file) (now : Readings)
    {path : Path} (hp : path.IsLegible) (hne : path.resolve ≠ file) (reason : String) :
    (b.create t now path reason).2.1.Keeps (b.create t now path reason).2.2 l file := by
  have hw := create_works (Q := (· = path.resolve)) h.store now hp rfl reason
  have hrecords := hw.records file hf.place fun e => hne e.symm
  refine ⟨hw.store, create_behind h.store h.behind hf.place now hp reason, ?_, ?_⟩
  · rw [hrecords]
    intro e he
    have hkept := h.kept e he
    by_cases hroot : path.resolve = b.root
    · have hunread : ∀ bytes, t.read path.resolve ≠ .ok bytes := by
        intro bytes hread
        have hn := node?_of_read hread
        rw [Path.resolve_resolve, hroot, h.project (List.ne_nil_of_mem he)] at hn
        cases hn
      have hc : Changes nowhere nowhere t (b.create t now path reason).2.2 := by
        rw [create_unread hunread]
        exact .refl t
      exact hkept.congr hw.root hw.directory rfl rfl ⟨rfl, rfl⟩ hc (fun h => h) fun h => h
    · obtain ⟨W, R, hc, hwr⟩ := create_touches h.store now hp reason
      have hspared (hq : W (b.copyPlace file e.timestamp) ∨ R (b.copyPlace file e.timestamp)) :
          False := by
        rcases hwr _ hq with hm | ⟨timestamp, heq⟩
        · exact copyPlace_ne_manifest b _ _ hm
        · exact (copyPlace_injective hf heq.symm).1.elim hne hroot
      exact hkept.congr hw.root hw.directory rfl rfl ⟨rfl, rfl⟩ hc (fun hq => hspared (.inl hq))
        fun hq => hspared (.inr hq)
  · rw [hrecords, hw.root]
    exact fun hne => hw.changes.directory (h.project hne)

/-- The records of a file and that of a copy of it that was just written. -/
theorem grown_kept (h : b.Keeps t l file) {now : Readings} {path : Path} (hp : path.IsLegible)
    (hfile : path.resolve = file) {reason : String} {bytes : ByteArray} {t1 : Tree}
    (copied : writeCopy t (b.copyPath path.resolve (b.stamp path now)) bytes = (.ok (), t1)) :
    ∀ e ∈ b.history path ++ [b.entryFor path.resolve (b.stamp path now) reason bytes],
      b.IsKept t1 (l.note (b.stamp path now) bytes) file e := by
  subst hfile
  have hplace := hp.resolve
  have hhistory : b.history path = recordsOf b.index path.resolve := rfl
  have hlegible := isLegible_copyPath h.store.rooted hplace (b.stamp path now)
  intro e he
  rcases List.mem_append.1 he with he | he
  · have hlt : e.timestamp < b.stamp path now :=
      lt_nextTimestamp (hhistory ▸ h.store.index.pairwise path.resolve) now.stamp he
    have hc := writeCopy_changes (R := nowhere) t hlegible bytes
    rw [copied, resolve_copyPath b hplace] at hc
    refine (h.kept e (hhistory ▸ he)).congr rfl rfl rfl rfl (CopyLog.agrees_note (by omega) bytes)
      hc (fun heq => ?_) fun h => h
    have hsame := timestamp_of_copyPlace heq
    omega
  · rw [List.mem_singleton.1 he]
    have hcopy := find_of_writeCopy hlegible copied
    rw [resolve_copyPath b hplace] at hcopy
    refine ⟨bytes, by simp [entryFor, CopyLog.note], rfl, fun _ => hcopy, fun htorn => ?_⟩
    simp [entryFor, CopyLog.note] at htorn

/-- Copies that are taken away, and those that are not. -/
theorem IsKept.tear {e : BackupEntry} (h : b.IsKept t l file e) (hb : b.IsRooted)
    (hf : file.IsPlace) {es : List BackupEntry} (hes : ∀ e ∈ es, b.IsRecord file e)
    (hremoved : removeCopies t es = (.ok (), t')) : b.IsKept t' (l.tear es) file e := by
  by_cases hlost : ∃ e' ∈ es, e'.timestamp = e.timestamp
  · obtain ⟨e', he', htimestamp⟩ := hlost
    obtain ⟨bytes, hbytes, hshort, hthere, hgone⟩ := h
    have htorn : (l.tear es).torn e.timestamp = true := by
      simp only [CopyLog.tear, Bool.or_eq_true, List.any_eq_true, beq_iff_eq]
      exact .inl ⟨e', he', htimestamp⟩
    refine ⟨bytes, hbytes, hshort, fun hkept => ?_, fun _ => ?_⟩
    · rw [htorn] at hkept
      cases hkept
    · have hcopy := (hes e' he').copyOf_eq hb hf
      rw [htimestamp] at hcopy
      have hresolve := resolve_copyPath b hf e.timestamp
      rw [← hresolve]
      refine removeCopies_gone hremoved he' hcopy ?_
      rw [hresolve]
      cases ht : l.torn e.timestamp with
      | false => exact .inr ⟨bytes, hthere ht⟩
      | true => exact .inl (hgone ht)
  · have hagrees : l.Agrees (l.tear es) e.timestamp := by
      refine ⟨rfl, ?_⟩
      have hany : es.any (fun e' => e'.timestamp == e.timestamp) = false := by
        rw [List.any_eq_false]
        intro e' he' heq
        exact hlost ⟨e', he', eq_of_beq heq⟩
      simp only [CopyLog.tear, hany, Bool.false_or]
    have hc := removeCopies_changes (W := nowhere) t es
    rw [hremoved] at hc
    refine h.congr rfl rfl rfl rfl hagrees hc (fun h => h) ?_
    rintro ⟨e', he', hat⟩
    exact hlost ⟨e', he', (timestamp_of_copyPlace ((hes e' he').isAt hb hf hat)).symm⟩

theorem eq_of_timestamp {es : List BackupEntry}
    (h : es.Pairwise fun e e' => e.timestamp < e'.timestamp) {e e' : BackupEntry} (he : e ∈ es)
    (he' : e' ∈ es) (heq : e.timestamp = e'.timestamp) : e = e' := by
  have hne : es.Pairwise fun e e' => e.timestamp ≠ e'.timestamp := h.imp fun hlt => Int.ne_of_lt hlt
  refine Classical.byContradiction fun h => ?_
  have hsymm : Std.Symm fun e e' : BackupEntry => e.timestamp ≠ e'.timestamp := ⟨fun _ _ => Ne.symm⟩
  exact hne.forall he he' h heq

/-- A backup of the file itself. -/
theorem create_keeps_same (h : b.Keeps t l file) (hf : b.IsWithin file) (now : Readings)
    {path : Path} (hp : path.IsLegible) (hfile : path.resolve = file) (reason : String) :
    (b.create t now path reason).2.1.Keeps (b.create t now path reason).2.2
      (l.after b t now path (b.create t now path reason).1) file := by
  have hplace := hp.resolve
  have hhistory : b.history path = recordsOf b.index file := by rw [← hfile]; rfl
  have hempty := recordsOf_withoutEmpty h.store.index path.resolve.text file
  have hbehind := create_behind h.store h.behind hf.place now hp reason
  have hw := create_works (Q := fun _ => True) h.store now hp trivial reason
  have hcases := b.create_cases t now path reason
  revert hcases hw hbehind
  generalize b.create t now path reason = r
  intro hbehind hw hcases
  -- the records of the file are those that are put in their place
  have hrecords (es : List BackupEntry) : recordsOf (b.withHistory path es).index file = es := by
    unfold withHistory
    rw [recordsOf_assign hplace hf.place, if_pos hfile.symm]
  have hroot {bytes : ByteArray} (read : t.read path.resolve = .ok bytes) :
      t.node? b.root = some .directory :=
    root_of_read h.store.rooted hf (hfile ▸ read)
  cases hcases with
  | refused unchecked =>
    rw [CopyLog.after_error unchecked]
    exact h
  | unreadable =>
    rw [CopyLog.after_error (by simp)]
    have hc : Changes nowhere nowhere t t := .refl t
    exact h.congr hw.store rfl rfl hempty hc ⟨fun h => h, fun h => h⟩
      fun _ => ⟨fun h => h, fun h => h⟩
  | @uncopied bytes e t' read copied =>
    rw [CopyLog.after_error (by simp)]
    have hc : Changes nowhere nowhere t t' :=
      writeCopy_refused (isLegible_copyPath h.store.rooted hplace _) copied
    exact h.congr hw.store rfl rfl hempty hc ⟨fun h => h, fun h => h⟩
      fun _ => ⟨fun h => h, fun h => h⟩
  | @unpruned f bytes t1 t2 checked read copied pruned =>
    obtain ⟨hes, -⟩ := grown_records h.store hp reason read copied
    have hremoved := removeCopies_lost
      (fun e he => ⟨_, (hes e he).copyOf_eq h.store.rooted hplace⟩) pruned
    have hlog : l.after b t now path (.error (.fault f)) =
        (l.note (b.stamp path now) bytes).tear (lost b.settings (b.history path)) := by
      simp only [CopyLog.after, checked, read]
    refine ⟨hw.store, hbehind, ?_, fun _ => hw.changes.directory (hroot read)⟩
    rw [hlog, hrecords]
    intro e he
    refine (grown_kept h hp hfile copied e he).tear h.store.rooted hf.place (fun e' he' => ?_)
      hremoved
    exact hfile ▸ hes e' (List.mem_append_left _ ((lost_sublist _ _).mem he'))
  | @made bytes t1 t2 kept available checked read copied pruned =>
    obtain ⟨hes, hrising⟩ := grown_records h.store hp reason read copied
    have hlog : l.after b t now path
        (.ok (b.entryFor path.resolve (b.stamp path now) reason bytes)) =
        l.note (b.stamp path now) bytes := by
      simp only [CopyLog.after, checked, read]
    have hpruned := prune_kept_changes (W := nowhere) hrising pruned
    have hsaved := saveIndex_changes (R := nowhere) (h.store.rooted.withHistory path kept) t2
    refine ⟨hw.store, hbehind, ?_, fun _ => hw.changes.directory (hroot read)⟩
    rw [hlog, hrecords]
    intro e he
    have hgrown := (prune_sublist pruned).mem he
    have hleft : ¬ ∃ e' ∈ b.history path ++
        [b.entryFor path.resolve (b.stamp path now) reason bytes],
        e' ∉ kept ∧ e'.IsAt (b.copyPlace file e.timestamp) := by
      rintro ⟨e', he', hdropped, hat⟩
      rw [← hfile] at hat
      have hsame := timestamp_of_copyPlace ((hes e' he').isAt h.store.rooted hplace hat)
      refine hdropped ?_
      rwa [← eq_of_timestamp hrising hgrown he' hsame]
    have hkept : b.IsKept t2 (l.note (b.stamp path now) bytes) file e :=
      (grown_kept h hp hfile copied e hgrown).congr rfl rfl rfl rfl ⟨rfl, rfl⟩ hpruned
        (fun h => h) hleft
    exact hkept.congr rfl rfl rfl rfl ⟨rfl, rfl⟩ hsaved (copyPlace_ne_manifest b _ _) fun h => h

/-! ### Runs -/

/-- What can come of a store if files of `W` may be written over, with what is noted of the copies
of a file. -/
inductive Logged (W : Path → Prop) (file : Path) : Backups → Tree → CopyLog → Prop
  | opened {b : Backups} {t : Tree} (opened : b.Opened t) : Logged W file b t .empty
  | create {b : Backups} {t : Tree} {l : CopyLog} (before : Logged W file b t l) (now : Readings)
      {path : Path} (reason : String) (legible : path.IsLegible) (here : path.resolve = file) :
      Logged W file (b.create t now path reason).2.1 (b.create t now path reason).2.2
        (l.after b t now path (b.create t now path reason).1)
  | other {b : Backups} {t : Tree} {l : CopyLog} (before : Logged W file b t l) (now : Readings)
      {path : Path} (reason : String) (legible : path.IsLegible)
      (elsewhere : path.resolve ≠ file) :
      Logged W file (b.create t now path reason).2.1 (b.create t now path reason).2.2 l
  | act {b b' : Backups} {t t' : Tree} {l : CopyLog} (before : Logged W file b t l)
      (act : Act W b t b' t') : Logged W file b' t' l

/-- Through a whole run in which neither the manifest nor copies of the file are written over, these
are kept. -/
theorem Logged.keeps (h : Logged W file b t l) (hf : b.IsWithin file) (hW : b.Spares W file) :
    b.Keeps t l file := by
  induction h with
  | opened opened =>
    obtain ⟨hs, hindex, hnone⟩ := opened.isStore
    refine ⟨hs, .inr hnone, ?_, ?_⟩
    · rw [hindex]
      exact fun e he => absurd he List.not_mem_nil
    · rw [hindex]
      exact fun hne => absurd rfl hne
  | @create b t l before now path reason legible here ih =>
    have hframe := create_frame b t now path reason
    have hr : (b.create t now path reason).2.1.root = b.root := by rw [hframe]
    have hd : (b.create t now path reason).2.1.directory = b.directory := by rw [hframe]
    have hf' := hf.congr hr.symm
    exact create_keeps_same (ih hf' (hW.congr hr.symm hd.symm)) hf' now legible here reason
  | @other b t l before now path reason legible elsewhere ih =>
    have hframe := create_frame b t now path reason
    have hr : (b.create t now path reason).2.1.root = b.root := by rw [hframe]
    have hd : (b.create t now path reason).2.1.directory = b.directory := by rw [hframe]
    have hf' := hf.congr hr.symm
    exact create_keeps_other (ih hf' (hW.congr hr.symm hd.symm)) hf' now legible elsewhere reason
  | act before act ih =>
    obtain ⟨hr, hd⟩ := act.frame
    have hf' := hf.congr hr.symm
    have hW' := hW.congr hr.symm hd.symm
    exact act.keeps (ih hf' hW') hf.place hW'

/-- After any run the timestamps of the records of a file in the project rise, and each record has a
copy with just the bytes that the file had when it was made, of which it has the hash; unless a
backup has taken the copy away and then failed, in which case there is none. -/
theorem history_has_copies (h : Logged W file b t l) (hf : b.IsWithin file)
    (hW : b.Spares W file) :
    ((b.history file).Pairwise fun e e' => e.timestamp < e'.timestamp) ∧
    ∀ e ∈ b.history file, ∃ copy bytes, copyOf e = .ok (some copy) ∧
      l.bytes e.timestamp = some bytes ∧ e.hash = .str (Digest.short bytes) ∧
      (t.read copy).toOption = if l.torn e.timestamp then none else some bytes := by
  have hk := h.keeps hf hW
  rw [history_eq hf.place]
  refine ⟨hk.store.index.pairwise file, fun e he => ?_⟩
  obtain ⟨bytes, hbytes, hshort, hthere, hgone⟩ := hk.kept e he
  have hcopy := (hk.store.index.isRecord hf.place he).copyOf_eq hk.store.rooted hf.place
  have hresolve := resolve_copyPath b hf.place e.timestamp
  refine ⟨_, bytes, hcopy, hbytes, hshort, ?_⟩
  cases htorn : l.torn e.timestamp with
  | false =>
    have hread := read_eq_ok.2 (hresolve.symm ▸ hthere htorn)
    rw [hread]
    rfl
  | true =>
    cases hread : t.read (b.copyPath file e.timestamp) with
    | error _ => rfl
    | ok bytes' =>
      have hn := node?_of_read hread
      rw [hresolve] at hn
      cases (hgone htorn).symm.trans (file?_eq_some.2 hn)

/-- Files outside of the directory for backups may be written over. -/
theorem spares_outside (b : Backups) (file : Path) : b.Spares (fun q => ¬ b.place <+: q) file := by
  refine ⟨fun h => h ?_, fun timestamp h => h (place_prefix_copyPlace b file timestamp)⟩
  rw [resolve_manifestPath]
  exact List.prefix_append _ _

/-! ### A project of one source file -/

theorem source_isWithin (h : b.root = ["w"]) : b.IsWithin source where
  place := source_isPlace
  inside := by
    rw [h]
    exact ⟨["App.jsx"], by decide, rfl, by decide⟩

theorem Logged.backedUp {s : Backups × Tree} (h : Logged W source s.1 s.2 l) :
    Logged W source (backedUp s source "").1 (backedUp s source "").2
      (l.after s.1 s.2 .zero source (s.1.create s.2 .zero source "").1) :=
  h.create .zero "" source_isPlace.isPlain.isLegible (Path.resolve_of_isPlace source_isPlace)

/-- What was noted of the copies of the source after one backup. -/
def sourceLog : CopyLog :=
  CopyLog.empty.after newStore.1 newStore.2 .zero source
    (newStore.1.create newStore.2 .zero source "").1

/-- The copy that was made of the source is there. -/
theorem history_has_copies_once :
    copiedOnce.1.history source ≠ [] ∧
      ((copiedOnce.1.history source).Pairwise fun e e' => e.timestamp < e'.timestamp) ∧
      ∀ e ∈ copiedOnce.1.history source, ∃ copy bytes,
        copyOf e = .ok (some copy) ∧ sourceLog.bytes e.timestamp = some bytes ∧
        e.hash = .str (Digest.short bytes) ∧
        (copiedOnce.2.read copy).toOption =
          if sourceLog.torn e.timestamp then none else some bytes := by
  have hvalues : copiedOnce.1.root = ["w"] ∧ (copiedOnce.1.history source).length = 1 := by
    decide +kernel
  obtain ⟨hroot, hone⟩ := hvalues
  have hnew : Logged (fun q => ¬ copiedOnce.1.place <+: q) source newStore.1 newStore.2 .empty :=
    .opened newStore_opened
  refine ⟨fun hnil => ?_, history_has_copies hnew.backedUp (source_isWithin hroot)
    (spares_outside _ _)⟩
  rw [hnil] at hone
  cases hone

/-- One copy is to be kept, and for a time that has no milliseconds. -/
def tearing : Settings :=
  Section.modification.defaults.apply
    [("max_backups", .int 1), ("auto_cleanup_days", .real (Number.Binary64.ofRat (10 ^ 308)))]

/-- The store after two backups of the source by such settings. -/
def tornStore : Backups × Tree :=
  backedUp (backedUp (begun sourceTree tearing) source "") source ""

/-- A backup takes the older copy away, then fails and leaves its record. -/
theorem failed_backup_tears_copy :
    ∃ l, Logged (fun q => ¬ tornStore.1.place <+: q) source tornStore.1 tornStore.2 l ∧
      tornStore.1.IsWithin source ∧
      ∃ e ∈ tornStore.1.history source, ∃ copy, copyOf e = .ok (some copy) ∧
        (tornStore.2.read copy).toOption = none := by
  have hvalues : (load sourceTree ["w"] tearing).isOk = true ∧
      sourceTree.file? (begun sourceTree tearing).1.manifestPath.resolve = none ∧
      tornStore.1.root = ["w"] ∧
      (tornStore.1.history source).any (fun e => (copyOf e).toOption.any fun copy =>
        copy.any fun c => (tornStore.2.read c).toOption.isNone) = true := by
    decide +kernel
  obtain ⟨hloads, hfresh, hroot, hany⟩ := hvalues
  have hbegun : Logged (fun q => ¬ tornStore.1.place <+: q) source (begun sourceTree tearing).1
      (begun sourceTree tearing).2 .empty :=
    .opened (begun_opened sourceTree_isProper hloads hfresh)
  obtain ⟨e, he, hgone⟩ := List.any_eq_true.1 hany
  refine ⟨_, hbegun.backedUp.backedUp, source_isWithin hroot, e, he, ?_⟩
  cases hcopy : copyOf e with
  | error f =>
    rw [hcopy] at hgone
    cases hgone
  | ok copy =>
    rw [hcopy] at hgone
    obtain ⟨c, rfl, hnone⟩ := (Option.any_eq_true _ copy).1 hgone
    exact ⟨c, rfl, Option.isNone_iff_eq_none.1 hnone⟩

end Backups

end Restyle
