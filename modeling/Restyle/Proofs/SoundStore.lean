import Restyle.Proofs.Manifest

/-!
A store of backups that has made its index and its manifest itself, and what working on some files
comes to for it: of other files it touches neither the records nor the copies.
-/
namespace Restyle

open Restyle.Tree BackupEntry

namespace Backups

variable {b b' b'' : Backups} {t t' t'' : Tree} {Q Q' : Path → Prop}

/-- A store whose index and whose manifest, if there is one, were made by it. -/
structure IsStore (b : Backups) (t : Tree) : Prop where
  rooted : b.IsRooted
  proper : t.IsProper
  index : b.IsSound b.index
  manifest : ∀ bytes, t.node? b.manifestPath.resolve = some (.file bytes) →
    ∃ index, b.IsSound index ∧ bytes = manifestBytes index
  found : b.available = true → ∃ n, t.find b.manifestPath = .ok (b.manifestPath.resolve, n)

/-- Whether one who reads the manifest has the records of a file that the index has. -/
def IsSaved (b : Backups) (t : Tree) (file : Path) : Prop :=
  ∃ index, t.find b.manifestPath =
      .ok (b.manifestPath.resolve, some (.file (manifestBytes index))) ∧
    b.IsSound index ∧ AreAlike (recordsOf b.index file) (recordsOf index.joined file)

/-- The records of an index are read back from its manifest. -/
theorem areAlike_records (index : BackupIndex) (file : Path) :
    AreAlike (recordsOf index file) (recordsOf index.joined file) := by
  rw [recordsOf_joined]
  exact areAlike_joined _

/-- Files of `Q`, and where copies of them go. -/
def Removes (b : Backups) (Q : Path → Prop) (q : Path) : Prop :=
  Q q ∨ ∃ file timestamp, file.IsPlace ∧ Q file ∧ q = b.copyPlace file timestamp

/-- Those, and the manifest. -/
def Writes (b : Backups) (Q : Path → Prop) (q : Path) : Prop :=
  q = b.manifestPath.resolve ∨ b.Removes Q q

/-- What working on the files of `Q` may come to. -/
structure Works (Q : Path → Prop) (b : Backups) (t : Tree) (b' : Backups) (t' : Tree) :
    Prop where
  root : b'.root = b.root
  directory : b'.directory = b.directory
  available : b'.available = b.available
  changes : Changes (b.Writes Q) (b.Removes Q) t t'
  store : b'.IsStore t'
  records : ∀ file : Path, file.IsPlace → ¬ Q file →
    recordsOf b'.index file = recordsOf b.index file
  saved : ∀ file : Path, file.IsPlace → ¬ Q file → b.IsSaved t file → b'.IsSaved t' file

theorem manifestPath_congr (hd : b'.directory = b.directory) :
    b'.manifestPath = b.manifestPath := by
  unfold manifestPath
  rw [hd]

theorem place_congr (hd : b'.directory = b.directory) : b'.place = b.place := by
  unfold place
  rw [hd]

theorem copyPlace_congr (hr : b'.root = b.root) (hd : b'.directory = b.directory) :
    b'.copyPlace = b.copyPlace := by
  funext file timestamp
  unfold copyPlace place tail
  rw [hr, hd]

theorem copyName_ne_manifestName (file : Path) (timestamp : Int) :
    copyName file timestamp ≠ manifestName := by
  intro e
  have h := congrArg (fun s => s.toList.reverse.head?) e
  simp [toList_copyName, manifestName] at h

theorem copyPlace_ne_manifest (b : Backups) (file : Path) (timestamp : Int) :
    b.copyPlace file timestamp ≠ b.manifestPath.resolve := by
  rw [resolve_manifestPath]
  intro e
  have h := List.append_cancel_left e
  unfold tail at h
  rw [← List.nil_append [manifestName]] at h
  exact copyName_ne_manifestName file timestamp (by simpa using (List.append_inj_right' h rfl))

theorem Writes.mono (hQ : ∀ q, Q q → Q' q) {q : Path} (h : b.Writes Q q) : b.Writes Q' q := by
  rcases h with h | h | ⟨file, timestamp, hf, hq, h⟩
  · exact .inl h
  · exact .inr (.inl (hQ q h))
  · exact .inr (.inr ⟨file, timestamp, hf, hQ file hq, h⟩)

theorem Removes.mono (hQ : ∀ q, Q q → Q' q) {q : Path} (h : b.Removes Q q) :
    b.Removes Q' q := by
  rcases h with h | ⟨file, timestamp, hf, hq, h⟩
  · exact .inl (hQ q h)
  · exact .inr ⟨file, timestamp, hf, hQ file hq, h⟩

namespace Works

theorem refl (h : b.IsStore t) : Works Q b t b t where
  root := rfl
  directory := rfl
  available := rfl
  changes := .refl t
  store := h
  records _ _ _ := rfl
  saved _ _ _ hs := hs

theorem mono (h : Works Q b t b' t') (hQ : ∀ q, Q q → Q' q) : Works Q' b t b' t' where
  root := h.root
  directory := h.directory
  available := h.available
  changes := h.changes.mono (fun _ hq => hq.mono hQ) fun _ hq => hq.mono hQ
  store := h.store
  records file hf hq := h.records file hf fun hf' => hq (hQ file hf')
  saved file hf hq := h.saved file hf fun hf' => hq (hQ file hf')

theorem trans (h : Works Q b t b' t') (h' : Works Q b' t' b'' t'') : Works Q b t b'' t'' where
  root := h'.root.trans h.root
  directory := h'.directory.trans h.directory
  available := h'.available.trans h.available
  changes := by
    have hc := copyPlace_congr h.root h.directory
    refine h.changes.trans (h'.changes.mono ?_ ?_)
    · intro q hq
      unfold Writes Removes at hq ⊢
      rwa [hc, manifestPath_congr h.directory] at hq
    · intro q hq
      unfold Removes at hq ⊢
      rwa [hc] at hq
  store := h'.store
  records file hf hq := (h'.records file hf hq).trans (h.records file hf hq)
  saved file hf hq hs := h'.saved file hf hq (h.saved file hf hq hs)

/-- Writing and removing files of `Q` and copies of them. -/
theorem ofChanges (h : b.IsStore t) {W R : Path → Prop} (hc : Changes W R t t')
    (hwr : ∀ q, W q ∨ R q → b.Removes Q q ∧ q ≠ b.manifestPath.resolve) :
    Works Q b t b t' where
  root := rfl
  directory := rfl
  available := rfl
  changes := hc.mono (fun q hq => .inr (hwr q (.inl hq)).1) fun q hq => (hwr q (.inr hq)).1
  store :=
    { rooted := h.rooted
      proper := hc.proper h.proper
      index := h.index
      manifest := by
        intro bytes hn
        have hsame := hc.file? (fun hw => (hwr _ (.inl hw)).2 rfl) fun hr => (hwr _ (.inr hr)).2 rfl
        exact h.manifest bytes (file?_eq_some.1 (hsame ▸ file?_eq_some.2 hn))
      found := by
        intro ha
        obtain ⟨n, hf⟩ := h.found ha
        exact ⟨_, hc.find hf⟩ }
  records _ _ _ := rfl
  saved := by
    rintro file _ _ ⟨index, hf, hs, hsame⟩
    refine ⟨index, ?_, hs, hsame⟩
    exact hc.find_some hf (fun hw => (hwr _ (.inl hw)).2 rfl) fun hr => (hwr _ (.inr hr)).2 rfl

/-- Writing and removing files of `Q` alone, which lie outside of the directory for backups. -/
theorem ofFiles (h : b.IsStore t) (hout : ∀ q, Q q → ¬ b.place <+: q) {W R : Path → Prop}
    (hc : Changes W R t t') (hQ : ∀ q, W q ∨ R q → Q q) : Works Q b t b t' := by
  refine .ofChanges h hc fun q hq => ⟨.inl (hQ q hq), ?_⟩
  rintro rfl
  refine hout _ (hQ _ hq) ?_
  rw [resolve_manifestPath]
  exact List.prefix_append _ _

/-- Changing what the index says of files of `Q`. -/
theorem ofIndex (h : b.IsStore t) {index : BackupIndex} (hs : b.IsSound index)
    (hr : ∀ file : Path, file.IsPlace → ¬ Q file →
      recordsOf index file = recordsOf b.index file) :
    Works Q b t { b with index } t where
  root := rfl
  directory := rfl
  available := rfl
  changes := .refl t
  store :=
    { rooted := ⟨h.rooted.root, h.rooted.directory⟩
      proper := h.proper
      index := hs.congr rfl rfl
      manifest bytes hn := by
        obtain ⟨index', hs', hbytes⟩ := h.manifest bytes hn
        exact ⟨index', hs'.congr rfl rfl, hbytes⟩
      found := h.found }
  records := hr
  saved := by
    rintro file hf hq ⟨index', hfind, hs', hsame⟩
    refine ⟨index', hfind, hs'.congr rfl rfl, ?_⟩
    rw [← hr file hf hq] at hsame
    exact hsame

/-- Changing settings. -/
theorem ofSettings (h : b.IsStore t) (settings : Settings) :
    Works Q b t { b with settings } t where
  root := rfl
  directory := rfl
  available := rfl
  changes := .refl t
  store :=
    { rooted := ⟨h.rooted.root, h.rooted.directory⟩
      proper := h.proper
      index := h.index.congr rfl rfl
      manifest bytes hn := by
        obtain ⟨index, hs, hbytes⟩ := h.manifest bytes hn
        exact ⟨index, hs.congr rfl rfl, hbytes⟩
      found := h.found }
  records _ _ _ := rfl
  saved := by
    rintro file _ _ ⟨index, hfind, hs, hsame⟩
    exact ⟨index, hfind, hs.congr rfl rfl, hsame⟩

/-- Saving the index. -/
theorem save (h : b.IsStore t) : Works Q b t b (b.saveIndex t) := by
  have hc : Changes (· = b.manifestPath.resolve) nowhere t (b.saveIndex t) :=
    saveIndex_changes h.rooted t
  refine
    { root := rfl
      directory := rfl
      available := rfl
      changes := hc.mono (fun _ hq => .inl hq) fun _ hq => hq.elim
      store :=
        { rooted := h.rooted
          proper := hc.proper h.proper
          index := h.index
          manifest := ?_
          found := fun ha => ?_ }
      records := fun _ _ _ => rfl
      saved := ?_ }
  · intro bytes hn
    unfold saveIndex at hn
    split at hn
    · next t' hw =>
      have hfile := (find_eq (find_of_write (isLegible_manifestPath h.rooted) hw)).2
      rw [hn] at hfile
      exact ⟨b.index, h.index, by simpa [manifestBytes] using hfile.symm⟩
    · exact h.manifest bytes hn
  · obtain ⟨n, hf⟩ := h.found ha
    exact ⟨_, hc.find hf⟩
  · rintro file _ _ ⟨index, hf, -, -⟩
    exact ⟨b.index, saveIndex_find h.rooted hf (by simp), h.index, areAlike_records _ _⟩

end Works

/-! ### Making a backup -/

/-- A record names its copy. -/
theorem IsRecord.copyOf_eq (hb : b.IsRooted) {file : Path} (hf : file.IsPlace) {e : BackupEntry}
    (h : b.IsRecord file e) : copyOf e = .ok (some (b.copyPath file e.timestamp)) :=
  copyOf_text (isLegible_copyPath hb hf e.timestamp) h.copy h.askable

theorem IsRecord.isAt (hb : b.IsRooted) {file : Path} (hf : file.IsPlace) {e : BackupEntry}
    (h : b.IsRecord file e) {q : Path} (hq : e.IsAt q) : q = b.copyPlace file e.timestamp := by
  obtain ⟨c, hc, rfl⟩ := hq
  rw [h.copyOf_eq hb hf] at hc
  cases hc
  exact resolve_copyPath b hf e.timestamp

theorem le_nextTimestamp (es : List BackupEntry) (now : Clock) :
    now.millis ≤ nextTimestamp es now := by
  unfold nextTimestamp
  split
  · split <;> omega
  · exact Int.le_refl _

/-- The next timestamp is later than all that are there. -/
theorem lt_nextTimestamp {es : List BackupEntry}
    (h : es.Pairwise fun e e' => e.timestamp < e'.timestamp) (now : Clock) {e : BackupEntry}
    (he : e ∈ es) : e.timestamp < nextTimestamp es now := by
  have hne : es ≠ [] := List.ne_nil_of_mem he
  have hlast : e.timestamp ≤ (es.getLast hne).timestamp := by
    rw [← List.dropLast_concat_getLast hne] at h he
    rcases List.mem_append.1 he with he | he
    · exact Int.le_of_lt ((List.pairwise_append.1 h).2.2 e he _ (List.mem_singleton_self _))
    · exact Int.le_of_eq (congrArg _ (List.mem_singleton.1 he))
  unfold nextTimestamp
  rw [List.getLast?_eq_some_getLast hne]
  simp only
  split <;> omega

theorem pairwise_grown {es : List BackupEntry}
    (h : es.Pairwise fun e e' => e.timestamp < e'.timestamp) {now : Clock} {e : BackupEntry}
    (he : e.timestamp = nextTimestamp es now) :
    (es ++ [e]).Pairwise fun e e' => e.timestamp < e'.timestamp := by
  refine List.pairwise_append.2 ⟨h, by simp, ?_⟩
  intro x hx y hy
  rw [List.mem_singleton.1 hy, he]
  exact lt_nextTimestamp h now hx

theorem read_askable {p : Path} {bytes : ByteArray} (h : t.read p = .ok bytes) :
    p.refusal? = none := refusal?_of_find_ok (read_eq_ok.1 h)

/-- What is true of the history of a file and of a copy of it that was just made. -/
theorem grown_records (h : b.IsStore t) {file : Path} (hf : file.IsLegible) {now : Readings}
    (reason : String) {bytes : ByteArray} {t1 : Tree}
    (hread : t.read file.resolve = .ok bytes)
    (hcopy : writeCopy t (b.copyPath file.resolve (b.stamp file now)) bytes = (.ok (), t1)) :
    (∀ e ∈ b.history file ++ [b.entryFor file.resolve (b.stamp file now) reason bytes],
      b.IsRecord file.resolve e) ∧
    (b.history file ++ [b.entryFor file.resolve (b.stamp file now) reason bytes]).Pairwise
      fun e e' => e.timestamp < e'.timestamp := by
  have hplace := hf.resolve
  have hhistory : b.history file = recordsOf b.index file.resolve := rfl
  constructor
  · intro e he
    rcases List.mem_append.1 he with he | he
    · exact h.index.isRecord hplace (hhistory ▸ he)
    · rw [List.mem_singleton.1 he]
      exact isRecord_entryFor (read_askable hread)
        (find_of_writeCopy (isLegible_copyPath h.rooted hplace _) hcopy) reason bytes
  · exact pairwise_grown (hhistory ▸ h.index.pairwise file.resolve) rfl

theorem isPaired_of_read {p : Path} {bytes : ByteArray} (h : t.read p = .ok bytes) :
    Text.IsPaired p.text.toList := Path.isPaired_text (read_askable h)

/-- Putting other records of a file in the place of those that it has. -/
theorem Works.ofHistory (h : b.IsStore t) {file : Path} (hf : file.IsLegible)
    (hQ : Q file.resolve) (hpaired : Text.IsPaired file.resolve.text.toList)
    {es : List BackupEntry} (hes : ∀ e ∈ es, b.IsRecord file.resolve e)
    (hrising : es.Pairwise fun e e' => e.timestamp < e'.timestamp) :
    Works Q b t (b.withHistory file es) t := by
  refine .ofIndex h (h.index.assign hf.resolve hpaired hes hrising) ?_
  intro file' hf' hq
  rw [recordsOf_assign hf.resolve hf', if_neg]
  rintro rfl
  exact hq hQ

/-- Writing a copy of a file and removing older ones. -/
theorem Works.ofCopies (h : b.IsStore t) {file : Path} (hf : file.IsPlace) (hQ : Q file)
    {es : List BackupEntry} (hes : ∀ e ∈ es, b.IsRecord file e) {timestamp : Int}
    (hc : Changes (· = b.copyPlace file timestamp) (fun q => ∃ e ∈ es, e.IsAt q) t t') :
    Works Q b t b t' := by
  refine .ofChanges h hc ?_
  rintro q (rfl | ⟨e, he, hq⟩)
  · exact ⟨.inr ⟨file, timestamp, hf, hQ, rfl⟩, copyPlace_ne_manifest b _ _⟩
  · rw [(hes e he).isAt h.rooted hf hq]
    exact ⟨.inr ⟨file, e.timestamp, hf, hQ, rfl⟩, copyPlace_ne_manifest b _ _⟩

theorem Works.withoutEmpty (h : b.IsStore t) (key : String) :
    Works Q b t (b.withoutEmpty key) t := by
  have hs := h.index.filter fun e => !(e.1 == key && e.2.isEmpty)
  exact .ofIndex h hs fun file _ _ => recordsOf_withoutEmpty h.index key file

/-- Making a backup of a file works on that file alone. -/
theorem create_works (h : b.IsStore t) (now : Readings) {file : Path} (hf : file.IsLegible)
    (hQ : Q file.resolve) (reason : String) :
    Works Q b t (b.create t now file reason).2.1 (b.create t now file reason).2.2 := by
  have hplace := hf.resolve
  have hcopies (bytes : ByteArray) {t1 : Tree}
      (hcopy : writeCopy t (b.copyPath file.resolve (b.stamp file now)) bytes = (.ok (), t1)) :
      Changes (· = b.copyPlace file.resolve (b.stamp file now)) nowhere t t1 := by
    have hc := writeCopy_changes (R := nowhere) t
      (isLegible_copyPath h.rooted hplace (b.stamp file now)) bytes
    rw [resolve_copyPath b hplace, hcopy] at hc
    exact hc
  have hcases := b.create_cases t now file reason
  revert hcases
  generalize b.create t now file reason = r
  intro hcases
  cases hcases with
  | refused => exact .refl h
  | unreadable => exact .withoutEmpty h _
  | @uncopied bytes e t' read copied =>
    have hc : Changes nowhere nowhere t t' :=
      writeCopy_refused (isLegible_copyPath h.rooted hplace _) copied
    have hw : Works Q b t b t' := .ofChanges h hc fun q hq => (hq.elim id id).elim
    exact hw.trans (.withoutEmpty hw.store _)
  | @unpruned f bytes t1 t2 checked read copied pruned =>
    obtain ⟨hes, hrising⟩ := grown_records h hf reason read copied
    have hp := prune_changes (W := (· = b.copyPlace file.resolve (b.stamp file now))) b.settings
      now.sweep t1 (b.history file ++ [b.entryFor file.resolve (b.stamp file now) reason bytes])
    rw [pruned] at hp
    have hc := ((hcopies bytes copied).mono (fun _ h => h) fun _ h => h.elim).trans hp
    have hw : Works Q b t b t2 := .ofCopies h hplace hQ hes hc
    exact hw.trans (.ofHistory hw.store hf hQ (isPaired_of_read read) hes hrising)
  | @made bytes t1 t2 kept available checked read copied pruned =>
    obtain ⟨hes, hrising⟩ := grown_records h hf reason read copied
    have hp := prune_changes (W := (· = b.copyPlace file.resolve (b.stamp file now))) b.settings
      now.sweep t1 (b.history file ++ [b.entryFor file.resolve (b.stamp file now) reason bytes])
    rw [pruned] at hp
    have hc := ((hcopies bytes copied).mono (fun _ h => h) fun _ h => h.elim).trans hp
    have hw : Works Q b t b t2 := .ofCopies h hplace hQ hes hc
    have hkept := prune_sublist pruned
    have hw' := hw.trans (.ofHistory hw.store hf hQ (isPaired_of_read read)
      (fun e he => hes e (hkept.mem he)) (hrising.sublist hkept))
    exact hw'.trans (.save hw'.store)

/-- Making a backup changes the manifest and copies of the file. -/
theorem create_touches (h : b.IsStore t) (now : Readings) {path : Path} (hp : path.IsLegible)
    (reason : String) : ∃ W R : Path → Prop,
      Changes W R t (b.create t now path reason).2.2 ∧
      ∀ q, W q ∨ R q → q = b.manifestPath.resolve ∨
        ∃ timestamp, q = b.copyPlace path.resolve timestamp := by
  refine ⟨_, _, create_changes h.rooted t now hp reason, ?_⟩
  rintro q ((hm | hc) | (⟨e, he, hat⟩ | hc))
  · exact .inl hm
  · exact .inr ⟨_, hc⟩
  · have he' : e ∈ recordsOf b.index path.resolve := he
    exact .inr ⟨_, (h.index.isRecord hp.resolve he').isAt h.rooted hp.resolve hat⟩
  · exact .inr ⟨_, hc⟩

/-! ### Recording what was written -/

theorem mem_setLast {f : BackupEntry → BackupEntry} {es : List BackupEntry} {e : BackupEntry}
    (h : e ∈ setLast f es) : ∃ e' ∈ es, e = e' ∨ e = f e' := by
  unfold setLast at h
  split at h
  · next e' hlast =>
    rcases List.mem_append.1 h with h | h
    · exact ⟨e, (List.dropLast_sublist es).mem h, .inl rfl⟩
    · exact ⟨e', List.mem_of_getLast? hlast, .inr (List.mem_singleton.1 h)⟩
  · exact ⟨e, h, .inl rfl⟩

theorem pairwise_setLast {f : BackupEntry → BackupEntry}
    (hf : ∀ e, (f e).timestamp = e.timestamp) {es : List BackupEntry}
    (h : es.Pairwise fun e e' => e.timestamp < e'.timestamp) :
    (setLast f es).Pairwise fun e e' => e.timestamp < e'.timestamp := by
  unfold setLast
  split
  · next e hlast =>
    obtain ⟨init, rfl⟩ := List.getLast?_eq_some_iff.1 hlast
    rw [List.dropLast_concat]
    obtain ⟨hinit, -, hbefore⟩ := List.pairwise_append.1 h
    refine List.pairwise_append.2 ⟨hinit, by simp, ?_⟩
    intro x hx y hy
    rw [List.mem_singleton.1 hy, hf]
    exact hbefore x hx e (List.mem_singleton_self e)
  · exact h

/-- A record that says what was written over the file. -/
def rewritten (bytes : ByteArray) (e : BackupEntry) : BackupEntry :=
  { e with written := .str (Digest.short bytes) }

/-- What recording comes to: nothing, or other records of the file and a manifest that is saved. -/
theorem recordWrite_cases (b : Backups) (t : Tree) (file : Path) (bytes : ByteArray) :
    (b.history file = [] ∧ b.recordWrite t file bytes = (b, t)) ∨
      b.history file ≠ [] ∧ b.recordWrite t file bytes =
        (b.withHistory file (setLast (rewritten bytes) (b.history file)),
          (b.withHistory file (setLast (rewritten bytes) (b.history file))).saveIndex t) := by
  unfold recordWrite
  split
  · next h => exact .inl ⟨h, rfl⟩
  · next hne => exact .inr ⟨hne, rfl⟩

/-- Recording what was written over a file works on that file alone. -/
theorem recordWrite_works (h : b.IsStore t) {file : Path} (hf : file.IsLegible)
    (hQ : Q file.resolve) (bytes : ByteArray) :
    Works Q b t (b.recordWrite t file bytes).1 (b.recordWrite t file bytes).2 := by
  rcases recordWrite_cases b t file bytes with ⟨-, hr⟩ | ⟨hne, hr⟩
  · rw [hr]
    exact .refl h
  · rw [hr]
    have hhistory : b.history file = recordsOf b.index file.resolve := rfl
    have hpaired : Text.IsPaired file.resolve.text.toList := by
      rcases recordsOf_cases b.index file.resolve with hnil | hmem
      · exact absurd (hhistory.trans hnil) hne
      · obtain ⟨_, -, hkey, hpaired, -⟩ := h.index.files _ hmem
        exact hpaired
    have hrecords : ∀ e ∈ setLast (rewritten bytes) (b.history file),
        b.IsRecord file.resolve e := by
      intro e he
      obtain ⟨e', he', rfl | rfl⟩ := mem_setLast he
      · exact h.index.isRecord hf.resolve (hhistory ▸ he')
      · exact (h.index.isRecord hf.resolve (hhistory ▸ he')).written bytes
    have hrising := pairwise_setLast (f := rewritten bytes) (fun _ => rfl)
      (hhistory ▸ h.index.pairwise file.resolve)
    have hw := Works.ofHistory (Q := Q) h hf hQ hpaired hrecords hrising
    exact hw.trans (.save hw.store)

end Backups

end Restyle
