import Restyle.Proofs.NewestRecord

/-!
The manifest says what the index says, or there is no manifest. So it stays while the copies can be
pruned, and one who opens the store anew finds all records or none.
-/
namespace Restyle

open Restyle.Tree BackupEntry

namespace Backups

variable {b b' : Backups} {t t' : Tree}

/-- Settings by which copies can always be pruned: their number is a whole one, and the time for
which they are kept is one in milliseconds. -/
structure Prunes (settings : Settings) : Prop where
  counts : ∃ n, settings.value "max_backups" = .int n
  ages : ∃ keep, keepMillis settings = .ok keep

theorem prunes_of_isSome {settings : Settings} {n : Int}
    (hcount : settings.value "max_backups" = .int n)
    (hkeep : (keepMillis settings).toOption.isSome = true) : Prunes settings where
  counts := ⟨n, hcount⟩
  ages := by
    cases h : keepMillis settings with
    | ok keep => exact ⟨keep, rfl⟩
    | error f => simp [h, Except.toOption] at hkeep

/-- Whether one who reads the manifest has the records of every file that the index has, or the
manifest is no file. -/
def Mirrored (b : Backups) (t : Tree) : Prop :=
  (∀ file : Path, file.IsPlace → b.IsSaved t file) ∨ t.file? b.manifestPath.resolve = none

/-- Whether the manifest is there or is no file. -/
def Unspoilt (b : Backups) (t : Tree) : Prop :=
  (∃ bytes, t.find b.manifestPath = .ok (b.manifestPath.resolve, some (.file bytes))) ∨
    t.file? b.manifestPath.resolve = none

theorem Mirrored.unspoilt (h : b.Mirrored t) : b.Unspoilt t := by
  rcases h with h | h
  · obtain ⟨index, hfind, -⟩ := h [] fun n hn => absurd hn List.not_mem_nil
    exact .inl ⟨_, hfind⟩
  · exact .inr h

theorem Unspoilt.changes (h : b.Unspoilt t) {W R : Path → Prop} (hc : Changes W R t t')
    (hW : ¬ W b.manifestPath.resolve) (hR : ¬ R b.manifestPath.resolve) : b.Unspoilt t' := by
  rcases h with ⟨bytes, hfind⟩ | h
  · refine .inl ⟨bytes, ?_⟩
    exact hc.find_some hfind hW hR
  · exact .inr (by rw [hc.file? hW hR, h])

/-- What is saved stays so while neither the records nor the manifest change. -/
theorem Mirrored.congr (h : b.Mirrored t) (hr : b'.root = b.root)
    (hd : b'.directory = b.directory)
    (hrecords : ∀ file : Path, file.IsPlace → recordsOf b'.index file = recordsOf b.index file)
    {W R : Path → Prop} (hc : Changes W R t t') (hW : ¬ W b.manifestPath.resolve)
    (hR : ¬ R b.manifestPath.resolve) : b'.Mirrored t' := by
  have hm := manifestPath_congr hd
  rcases h with h | h
  · refine .inl fun file hf => ?_
    obtain ⟨index, hfind, hsound, hsame⟩ := h file hf
    rw [← hrecords file hf] at hsame
    refine ⟨index, ?_, hsound.congr hr hd, hsame⟩
    rw [hm]
    exact hc.find_some hfind hW hR
  · refine .inr ?_
    rw [hm, hc.file? hW hR, h]

/-- Saving the index makes the manifest say the same, unless that cannot be written at all. -/
theorem saveIndex_mirrored (hb : b.IsRooted) (hs : b.IsSound b.index) (h : b.Unspoilt t) :
    b.Mirrored (b.saveIndex t) := by
  have saved (hfind : (b.saveIndex t).find b.manifestPath =
      .ok (b.manifestPath.resolve, some (.file (manifestBytes b.index)))) :
      b.Mirrored (b.saveIndex t) :=
    .inl fun file _ => ⟨b.index, hfind, hs, areAlike_records _ _⟩
  rcases h with ⟨bytes, hfind⟩ | h
  · exact saved (saveIndex_find hb hfind (by simp))
  · cases hw : t.write b.manifestPath (manifestBytes b.index) with
    | ok t' =>
      have heq : b.saveIndex t = t' := by
        unfold saveIndex
        rw [← manifestBytes, hw]
      refine saved ?_
      rw [heq]
      exact find_of_write (isLegible_manifestPath hb) hw
    | error e =>
      have heq : b.saveIndex t = t := by
        unfold saveIndex
        rw [← manifestBytes, hw]
      rw [heq]
      exact .inr h

/-! ### The operations -/

theorem recordWrite_mirrored (h : b.IsStore t) (hm : b.Mirrored t) {file : Path}
    (hf : file.IsLegible) (bytes : ByteArray) :
    (b.recordWrite t file bytes).1.Mirrored (b.recordWrite t file bytes).2 := by
  have hw := recordWrite_works (Q := fun _ => True) h hf trivial bytes
  rcases recordWrite_cases b t file bytes with ⟨-, hr⟩ | ⟨-, hr⟩
  · rw [hr]
    exact hm
  · rw [hr] at hw ⊢
    exact saveIndex_mirrored (h.rooted.withHistory file _) hw.store.index hm.unspoilt

/-- Records that name their copies are pruned without fail. -/
theorem prune_ok {settings : Settings} (hs : Prunes settings) (now : Clock) (t : Tree)
    {es : List BackupEntry} (hcopies : ∀ e ∈ es, ∃ c, copyOf e = .ok c) {f : Fault} {t' : Tree} :
    prune settings now t es ≠ (.error f, t') := by
  intro h
  obtain ⟨⟨count, hcount⟩, keep, hkeep⟩ := hs
  have hp := prune_cases settings now t es
  rw [h] at hp
  cases hp with
  | uncounted hcounted =>
    unfold excess at hcounted
    rw [hcount] at hcounted
    cases hcounted
  | full _ first => exact removeCopies_ne_error (List.take_sublist _ _) hcopies first
  | ageless _ _ age =>
    rw [hkeep] at age
    cases age
  | old _ _ _ second =>
    exact removeCopies_ne_error (List.filter_sublist.trans (List.drop_sublist _ _)) hcopies second

/-- Whether making a backup comes to an end: it is made or refused, or the file cannot be read or
copied. A path that cannot be asked for does not even begin. -/
def Completes (b : Backups) (t : Tree) (now : Readings) (file : Path) (reason : String) : Prop :=
  ∀ f, (b.create t now file reason).1 = .error (.fault f) → file.checked = .error f

/-- It does where copies can always be pruned. -/
theorem completes_of_prunes (h : b.IsStore t) (hs : Prunes b.settings) (now : Readings)
    {path : Path} (hp : path.IsLegible) (reason : String) : b.Completes t now path reason := by
  unfold Completes
  have hcases := b.create_cases t now path reason
  revert hcases
  generalize b.create t now path reason = r
  intro hcases f hf
  cases hcases with
  | refused unchecked => exact unchecked f (Except.error.inj hf)
  | unreadable => cases hf
  | uncopied => cases hf
  | @unpruned f bytes t1 t2 checked read copied pruned =>
    obtain ⟨hes, -⟩ := grown_records h hp reason read copied
    have hcopies : ∀ e ∈ b.history path ++
        [b.entryFor path.resolve (b.stamp path now) reason bytes], ∃ c, copyOf e = .ok c :=
      fun e he => ⟨_, (hes e he).copyOf_eq h.rooted hp.resolve⟩
    exact absurd pruned (prune_ok hs now.sweep _ hcopies)
  | made => cases hf

/-- Writing a copy of a file and pruning touches copies of that file. -/
theorem copied_changes (h : b.IsStore t) {now : Readings} {path : Path} (hp : path.IsLegible)
    {reason : String} {bytes : ByteArray} {t1 t2 : Tree}
    {r : Except Fault (List BackupEntry)} (read : t.read path.resolve = .ok bytes)
    (copied : writeCopy t (b.copyPath path.resolve (b.stamp path now)) bytes = (.ok (), t1))
    (pruned : prune b.settings now.sweep t1 (b.history path ++
      [b.entryFor path.resolve (b.stamp path now) reason bytes]) = (r, t2)) :
    Changes (fun q => ∃ timestamp, q = b.copyPlace path.resolve timestamp)
      (fun q => ∃ timestamp, q = b.copyPlace path.resolve timestamp) t t2 := by
  have hplace := hp.resolve
  obtain ⟨hes, -⟩ := grown_records h hp reason read copied
  have hcopied := writeCopy_changes (R := nowhere) t
    (isLegible_copyPath h.rooted hplace (b.stamp path now)) bytes
  have hpruned := prune_changes (W := nowhere) b.settings now.sweep t1 (b.history path ++
    [b.entryFor path.resolve (b.stamp path now) reason bytes])
  rw [copied, resolve_copyPath b hplace] at hcopied
  rw [pruned] at hpruned
  refine (hcopied.mono (fun q hq => ⟨_, hq⟩) fun _ h => h.elim).trans
    (hpruned.mono (fun _ h => h.elim) ?_)
  rintro q ⟨e, he, hat⟩
  exact ⟨_, (hes e he).isAt h.rooted hplace hat⟩

theorem not_copy_of_manifest {file : Path} :
    ¬ ∃ timestamp, b.manifestPath.resolve = b.copyPlace file timestamp :=
  fun ⟨timestamp, h⟩ => copyPlace_ne_manifest b file timestamp h.symm

theorem create_mirrored (h : b.IsStore t) (hm : b.Mirrored t) {now : Readings} {path : Path}
    (hp : path.IsLegible) {reason : String}
    (hdone : b.Completes t now path reason) :
    (b.create t now path reason).2.1.Mirrored (b.create t now path reason).2.2 := by
  have hplace := hp.resolve
  have hw := create_works (Q := fun _ => True) h now hp trivial reason
  unfold Completes at hdone
  have hcases := b.create_cases t now path reason
  revert hcases hw hdone
  generalize b.create t now path reason = r
  intro hdone hw hcases
  have hempty (file : Path) (_ : file.IsPlace) :
      recordsOf (b.withoutEmpty path.resolve.text).index file = recordsOf b.index file :=
    recordsOf_withoutEmpty h.index path.resolve.text file
  cases hcases with
  | refused => exact hm
  | unreadable =>
    exact hm.congr rfl rfl hempty (.refl t : Changes nowhere nowhere t t) (fun h => h) fun h => h
  | @uncopied bytes e t' read copied =>
    have hc : Changes nowhere nowhere t t' :=
      writeCopy_refused (isLegible_copyPath h.rooted hplace _) copied
    exact hm.congr rfl rfl hempty hc (fun h => h) fun h => h
  | @unpruned f bytes t1 t2 checked =>
    rw [hdone f rfl] at checked
    cases checked
  | @made bytes t1 t2 kept available checked read copied pruned =>
    have hunspoilt : (b.withHistory path kept).Unspoilt t2 :=
      hm.unspoilt.changes (copied_changes h hp read copied pruned) not_copy_of_manifest
        not_copy_of_manifest
    exact saveIndex_mirrored (h.rooted.withHistory path kept) hw.store.index hunspoilt

/-! ### Opening anew -/

/-- A store that is loaded again has the records that it had, or none. -/
theorem Loaded.mirrored (h : Loaded t b.root b' t') (hs : b.IsStore t)
    (hd : b'.directory = b.directory) (hm : b.Mirrored t) :
    b'.Mirrored t' ∧ ((∀ file : Path, file.IsPlace →
      AreAlike (recordsOf b.index file) (recordsOf b'.index file)) ∨ b'.index = []) := by
  have hroot := hs.rooted.root
  rcases hm with hm | hm
  · refine ⟨.inl fun file hf => ?_, .inl fun file hf => ?_⟩
    · exact (h.records hroot hd (hm file hf)).2
    · exact (h.records hroot hd (hm file hf)).1
  · have hc : Changes nowhere nowhere t t' := h.changes hroot
    have hn : t'.file? b'.manifestPath.resolve = none := by
      rw [manifestPath_congr hd, hc.file? (fun h => h) (fun h => h), hm]
    exact ⟨.inr hn, .inr (h.index_of_none hn)⟩

end Backups

end Restyle
