import Restyle.Backup.Store
import Restyle.Proofs.TreeChange
import Restyle.Proofs.IntText
import Restyle.Proofs.Pairs

/-!
What the store of backups does to the tree: it writes the copy and the manifest, and removes copies
that its records name.
-/
namespace Restyle

/-- Whether a record says that its copy is at a place. -/
def BackupEntry.IsAt (e : BackupEntry) (q : Path) : Prop :=
  ∃ c, Backups.copyOf e = .ok (some c) ∧ c.resolve = q

namespace Readings

/-- Both readings at the beginning of time. -/
def zero : Readings := .still ⟨0⟩

/-- Whether no millisecond passes between the readings. -/
def IsPrompt (now : Readings) : Prop := now.sweep.millis ≤ now.stamp.millis

theorem isPrompt_still (now : Clock) : (still now).IsPrompt := Int.le_refl _

end Readings

namespace Backups

open Restyle.Tree

/-- The project is at a place, and the directory for backups can be named. -/
structure IsRooted (b : Backups) : Prop where
  root : b.root.IsPlace
  directory : b.directory.IsLegible

/-- Where the directory for backups is. -/
def place (b : Backups) : Path := b.directory.resolve

/-- The name of a copy. -/
def copyName (file : Path) (timestamp : Int) : String :=
  file.name ++ "." ++ toString timestamp ++ ".backup"

/-- The part of a copy's path below the directory for backups. -/
def tail (b : Backups) (file : Path) (timestamp : Int) : Path :=
  ((b.root.below? file).getD (outside :: file)).dropLast ++ [copyName file timestamp]

theorem copyPath_eq (b : Backups) (file : Path) (timestamp : Int) :
    b.copyPath file timestamp = b.directory ++ b.tail file timestamp := by
  unfold copyPath tail
  cases b.root.below? file <;> simp [copyName]

theorem toList_copyName (file : Path) (timestamp : Int) :
    (copyName file timestamp).toList =
      file.name.toList ++ '.' :: (Value.intText timestamp ++ ".backup".toList) := by
  unfold copyName
  simp only [String.toList_append, Value.toList_toString, List.append_assoc]
  rfl

theorem isName_copyName {file : Path} (h : '/' ∉ file.name.toList) (timestamp : Int) :
    IsName (copyName file timestamp) ∧ copyName file timestamp ≠ ".." := by
  have hl : 8 ≤ (copyName file timestamp).toList.length := by
    rw [toList_copyName]
    have e : ".backup".toList.length = 7 := rfl
    simp only [List.length_append, List.length_cons, e]
    omega
  have short {s : String} (hs : s.toList.length < 8) : copyName file timestamp ≠ s := by
    rintro rfl
    omega
  refine ⟨⟨short (by decide), short (by decide), ?_⟩, short (by decide)⟩
  rw [toList_copyName]
  have hn : '/' ∉ Value.intText timestamp := by
    intro hm
    rcases Value.mem_intText hm with h | h <;> simp at h
  simp [h, hn]

theorem name_notMem {file : Path} (h : file.IsPlace) : '/' ∉ file.name.toList := by
  unfold Path.name
  rcases List.mem_cons.1 (List.getLastD_mem_cons (l := file) (a := "")) with e | hm
  · rw [e]
    simp
  · exact (h _ hm).1.2.2

theorem isName_outside : IsName outside ∧ outside ≠ ".." := by
  refine ⟨⟨by decide, by decide, by decide⟩, by decide⟩

theorem isPlace_below {root file : Path} (h : file.IsPlace) :
    ((root.below? file).getD (outside :: file)).IsPlace := by
  cases hb : root.below? file with
  | none =>
    intro n hn
    rcases List.mem_cons.1 hn with rfl | hn
    · exact isName_outside
    · exact h n hn
  | some p =>
    have e : root ++ p = file := Path.below?_eq_some.1 hb
    intro n hn
    exact h n (by rw [← e]; exact List.mem_append_right _ hn)

theorem isPlace_tail (b : Backups) {file : Path} (h : file.IsPlace) (timestamp : Int) :
    (b.tail file timestamp).IsPlace := by
  refine (isPlace_below h).dropLast.append ?_
  intro n hn
  obtain rfl := List.mem_singleton.1 hn
  exact isName_copyName (name_notMem h) timestamp

/-- Where a copy is. -/
def copyPlace (b : Backups) (file : Path) (timestamp : Int) : Path :=
  b.place ++ b.tail file timestamp

theorem isLegible_copyPath {b : Backups} (hb : b.IsRooted) {file : Path} (h : file.IsPlace)
    (timestamp : Int) : (b.copyPath file timestamp).IsLegible := by
  rw [copyPath_eq]
  exact hb.directory.append (isPlace_tail b h timestamp).isPlain

theorem resolve_copyPath (b : Backups) {file : Path} (h : file.IsPlace) (timestamp : Int) :
    (b.copyPath file timestamp).resolve = b.copyPlace file timestamp := by
  rw [copyPath_eq, Path.resolve_append_of_isPlace _ (isPlace_tail b h timestamp)]
  rfl

theorem place_prefix_copyPlace (b : Backups) (file : Path) (timestamp : Int) :
    b.place <+: b.copyPlace file timestamp := List.prefix_append _ _

theorem isPlace_manifestName : Path.IsPlace [manifestName] := by
  intro n hn
  obtain rfl := List.mem_singleton.1 hn
  exact ⟨⟨by decide, by decide, by decide⟩, by decide⟩

theorem isLegible_manifestPath {b : Backups} (hb : b.IsRooted) : b.manifestPath.IsLegible :=
  hb.directory.append isPlace_manifestName.isPlain

theorem resolve_manifestPath (b : Backups) :
    b.manifestPath.resolve = b.place ++ [manifestName] :=
  Path.resolve_append_of_isPlace _ isPlace_manifestName

/-! ### Removing copies -/

variable {t t' : Tree} {W R : Path → Prop}

theorem checked_eq_ok {p q : Path} : p.checked = .ok q ↔ p.refusal? = none ∧ q = p := by
  unfold Path.checked
  cases h : p.refusal? with
  | none => simp [eq_comm]
  | some r => simp

theorem copyOf_text {e : BackupEntry} {c : Path} (hc : c.IsLegible) (he : e.copy = .str c.text)
    (hr : c.refusal? = none) : copyOf e = .ok (some c) := by
  unfold copyOf
  simp only [he, Path.names_text hc, checked_eq_ok.2 ⟨hr, rfl⟩, Except.map, Path.isAbsolute_text,
    if_true]

theorem removeCopy_changes {e : BackupEntry} (h : removeCopy t e = .ok t') :
    Changes W e.IsAt t t' := by
  unfold removeCopy at h
  cases hc : copyOf e with
  | error f =>
    rw [hc] at h
    cases h
  | ok copy =>
    rw [hc] at h
    cases h
    cases copy with
    | none => exact .refl t
    | some c =>
      simp only [Option.bind_some]
      cases hr : t.remove c with
      | error _ => exact .refl t
      | ok t' =>
        refine (remove_changes hr).mono (fun _ h => h) ?_
        rintro p rfl
        exact ⟨c, hc, rfl⟩

/-- Only places that the records name lose their file. -/
theorem removeCopies_changes (t : Tree) (es : List BackupEntry) :
    Changes W (fun q => ∃ e ∈ es, e.IsAt q) t (removeCopies t es).2 := by
  induction es generalizing t with
  | nil => exact .refl t
  | cons e es ih =>
    unfold removeCopies
    cases he : removeCopy t e with
    | error f => exact .refl t
    | ok t' =>
      have h1 : Changes W (fun q => ∃ e' ∈ e :: es, e'.IsAt q) t t' :=
        (removeCopy_changes he).mono (fun _ h => h) fun q hq => ⟨e, List.mem_cons_self, hq⟩
      have h2 : Changes W (fun q => ∃ e' ∈ e :: es, e'.IsAt q) t' (removeCopies t' es).2 :=
        (ih t').mono (fun _ h => h) fun q ⟨e', he', hq⟩ => ⟨e', List.mem_cons_of_mem _ he', hq⟩
      exact h1.trans h2

/-- What pruning can come to: records that cannot be counted, or whose age is not to be had, copies
that cannot be removed, and records that are kept. -/
inductive Pruning (settings : Settings) (now : Clock) (t : Tree) (es : List BackupEntry) :
    Except Fault (List BackupEntry) × Tree → Prop
  | uncounted {f : Fault} (count : excess settings es.length = .error f) :
      Pruning settings now t es (.error f, t)
  | full {n : Nat} {f : Fault} {t1 : Tree} (count : excess settings es.length = .ok n)
      (first : removeCopies t (es.take n) = (.error f, t1)) :
      Pruning settings now t es (.error f, t1)
  | ageless {n : Nat} {f : Fault} {t1 : Tree} (count : excess settings es.length = .ok n)
      (first : removeCopies t (es.take n) = (.ok (), t1)) (age : keepMillis settings = .error f) :
      Pruning settings now t es (.error f, t1)
  | old {n : Nat} {keep : Int} {f : Fault} {t1 t2 : Tree}
      (count : excess settings es.length = .ok n)
      (first : removeCopies t (es.take n) = (.ok (), t1)) (age : keepMillis settings = .ok keep)
      (second : removeCopies t1 ((es.drop n).filter fun e =>
        decide (e.timestamp < now.millis - keep)) = (.error f, t2)) :
      Pruning settings now t es (.error f, t2)
  | kept {n : Nat} {keep : Int} {t1 t2 : Tree} (count : excess settings es.length = .ok n)
      (first : removeCopies t (es.take n) = (.ok (), t1)) (age : keepMillis settings = .ok keep)
      (second : removeCopies t1 ((es.drop n).filter fun e =>
        decide (e.timestamp < now.millis - keep)) = (.ok (), t2)) :
      Pruning settings now t es
        (.ok ((es.drop n).filter fun e => !decide (e.timestamp < now.millis - keep)), t2)

theorem prune_cases (settings : Settings) (now : Clock) (t : Tree) (es : List BackupEntry) :
    Pruning settings now t es (prune settings now t es) := by
  unfold prune
  split
  · next hn => exact .uncounted hn
  · next n hn =>
    split
    · next hr => exact .full hn hr
    · next t1 hr =>
      split
      · next hk => exact .ageless hn hr hk
      · next keep hk =>
        simp only
        split
        · next hr2 => exact .old hn hr hk hr2
        · next hr2 => exact .kept hn hr hk hr2

/-- Of a part of some records only places that those name lose their file. -/
theorem removeCopies_sublist {es es' : List BackupEntry} (hes : es'.Sublist es)
    {r : Except Fault Unit} (h : removeCopies t es' = (r, t')) :
    Changes W (fun q => ∃ e ∈ es, e.IsAt q) t t' := by
  have hc := removeCopies_changes (W := W) t es'
  rw [h] at hc
  exact hc.mono (fun _ h => h) fun q ⟨e, he, hq⟩ => ⟨e, hes.mem he, hq⟩

/-- What pruning may remove: copies of records that it does not keep. -/
theorem prune_changes (settings : Settings) (now : Clock) (t : Tree) (es : List BackupEntry) :
    Changes W (fun q => ∃ e ∈ es, e.IsAt q) t (prune settings now t es).2 := by
  have hp := prune_cases settings now t es
  revert hp
  generalize prune settings now t es = r
  intro hp
  cases hp with
  | uncounted count => exact .refl t
  | full count first => exact removeCopies_sublist (List.take_sublist _ _) first
  | ageless count first age => exact removeCopies_sublist (List.take_sublist _ _) first
  | old count first age second =>
    exact (removeCopies_sublist (List.take_sublist _ _) first).trans
      (removeCopies_sublist (List.filter_sublist.trans (List.drop_sublist _ _)) second)
  | kept count first age second =>
    exact (removeCopies_sublist (List.take_sublist _ _) first).trans
      (removeCopies_sublist (List.filter_sublist.trans (List.drop_sublist _ _)) second)

theorem prune_sublist {settings : Settings} {now : Clock} {es kept : List BackupEntry}
    (h : prune settings now t es = (.ok kept, t')) : kept.Sublist es := by
  have hp := prune_cases settings now t es
  rw [h] at hp
  cases hp with
  | kept count first age second => exact List.filter_sublist.trans (List.drop_sublist _ _)

/-! ### Copying -/

theorem writeCopy_changes (t : Tree) {copy : Path} (hc : copy.IsLegible) (bytes : ByteArray) :
    Changes (· = copy.resolve) R t (writeCopy t copy bytes).2 := by
  unfold writeCopy
  have h1 := ensureDirectory_changes (W := (· = copy.resolve)) (R := R) t hc.dropLast
  split
  · next h => rw [h] at h1; exact h1
  · next h =>
    rw [h] at h1
    split
    · exact h1
    · next hw => exact h1.trans (write_changes hc hw)

theorem writeCopy_refused {copy : Path} (hc : copy.IsLegible) {bytes : ByteArray} {e : TreeError}
    (h : writeCopy t copy bytes = (.error e, t')) : Changes W R t t' := by
  unfold writeCopy at h
  have h1 := ensureDirectory_changes (W := W) (R := R) t hc.dropLast
  split at h
  · next h' =>
    rw [h'] at h1
    cases h
    exact h1
  · next h' =>
    rw [h'] at h1
    split at h
    · cases h
      exact h1
    · cases h

theorem find_of_writeCopy {copy : Path} (hc : copy.IsLegible) {bytes : ByteArray}
    (h : writeCopy t copy bytes = (.ok (), t')) :
    t'.find copy = .ok (copy.resolve, some (.file bytes)) := by
  unfold writeCopy at h
  split at h
  · cases h
  · split at h
    · cases h
    · next hw =>
      cases h
      exact find_of_write hc hw

/-- Saving the records writes the manifest, or nothing. -/
theorem saveIndex_changes {b : Backups} (hb : b.IsRooted) (t : Tree) :
    Changes (· = b.manifestPath.resolve) R t (b.saveIndex t) := by
  unfold saveIndex
  split
  · next h => exact write_changes (isLegible_manifestPath hb) h
  · exact .refl t

/-! ### Making a backup -/

/-- The record of a copy. -/
def entryFor (b : Backups) (path : Path) (timestamp : Int) (reason : String)
    (bytes : ByteArray) : BackupEntry :=
  { file := .str path.text, copy := .str (b.copyPath path timestamp).text, timestamp
    hash := .str (Digest.short bytes), reason := .str reason, written := .null }

/-- The timestamp of the next copy of a file. -/
def stamp (b : Backups) (file : Path) (now : Readings) : Int :=
  nextTimestamp (b.history file) now.stamp

/-- The records of a file with another list in their place. -/
def withHistory (b : Backups) (file : Path) (es : List BackupEntry) : Backups :=
  { b with index := assign file.resolve.text es b.index }

/-- What making a backup can come to: a refusal, a copy that fails, a copy after which the old ones
cannot be told apart, and a backup. -/
inductive Creation (b : Backups) (t : Tree) (now : Readings) (file : Path) (reason : String) :
    Except Problem BackupEntry × Backups × Tree → Prop
  | refused {p : Problem} (unchecked : ∀ f, p = .fault f → file.checked = .error f) :
      Creation b t now file reason (.error p, b, t)
  | unreadable {e : TreeError} (read : t.read file.resolve = .error e) :
      Creation b t now file reason
        (.error (.backupFailed file.resolve e), b.withoutEmpty file.resolve.text, t)
  | uncopied {bytes : ByteArray} {e : TreeError} {t' : Tree}
      (read : t.read file.resolve = .ok bytes)
      (copied : writeCopy t (b.copyPath file.resolve (b.stamp file now)) bytes = (.error e, t')) :
      Creation b t now file reason
        (.error (.backupFailed file.resolve e), b.withoutEmpty file.resolve.text, t')
  | unpruned {f : Fault} {bytes : ByteArray} {t1 t2 : Tree} (checked : file.checked = .ok file)
      (read : t.read file.resolve = .ok bytes)
      (copied : writeCopy t (b.copyPath file.resolve (b.stamp file now)) bytes = (.ok (), t1))
      (pruned : prune b.settings now.sweep t1 (b.history file ++
        [b.entryFor file.resolve (b.stamp file now) reason bytes]) = (.error f, t2)) :
      Creation b t now file reason (.error (.fault f), b.withHistory file (b.history file ++
        [b.entryFor file.resolve (b.stamp file now) reason bytes]), t2)
  | made {bytes : ByteArray} {t1 t2 : Tree} {kept : List BackupEntry}
      (available : b.available = true) (checked : file.checked = .ok file)
      (read : t.read file.resolve = .ok bytes)
      (copied : writeCopy t (b.copyPath file.resolve (b.stamp file now)) bytes = (.ok (), t1))
      (pruned : prune b.settings now.sweep t1 (b.history file ++
        [b.entryFor file.resolve (b.stamp file now) reason bytes]) = (.ok kept, t2)) :
      Creation b t now file reason (.ok (b.entryFor file.resolve (b.stamp file now) reason bytes),
        b.withHistory file kept, (b.withHistory file kept).saveIndex t2)

theorem create_cases (b : Backups) (t : Tree) (now : Readings) (file : Path) (reason : String) :
    Creation b t now file reason (b.create t now file reason) := by
  unfold create
  split
  · exact .refused fun f e => by cases e
  · split
    · exact .refused fun f e => by cases e
    · next havailable =>
      split
      · next h => exact .refused fun f e => by cases e; exact h
      · next path h =>
        obtain ⟨-, rfl⟩ := checked_eq_ok.1 h
        simp only
        split
        · next hread => exact .unreadable hread
        · next bytes hread =>
          split
          · next hcopy => exact .uncopied hread hcopy
          · next hcopy =>
            split
            · next hprune => exact .unpruned h hread hcopy hprune
            · next hprune => exact .made (by simpa using havailable) h hread hcopy hprune

theorem isAt_entryFor {b : Backups} (hb : b.IsRooted) {path : Path} (hp : path.IsPlace)
    {timestamp : Int} {reason : String} {bytes : ByteArray} {q : Path}
    (h : (b.entryFor path timestamp reason bytes).IsAt q) : q = b.copyPlace path timestamp := by
  obtain ⟨c, hc, rfl⟩ := h
  unfold copyOf entryFor at hc
  simp only [Path.names_text (isLegible_copyPath hb hp timestamp)] at hc
  cases hk : (b.copyPath path timestamp).checked with
  | error f =>
    rw [hk] at hc
    cases hc
  | ok p =>
    obtain ⟨-, rfl⟩ := checked_eq_ok.1 hk
    rw [hk] at hc
    simp only [Except.map, Path.isAbsolute_text, if_true, Except.ok.injEq, Option.some.injEq] at hc
    rw [← hc, resolve_copyPath b hp]

theorem IsRooted.withHistory {b : Backups} (hb : b.IsRooted) (file : Path)
    (es : List BackupEntry) : (b.withHistory file es).IsRooted := ⟨hb.root, hb.directory⟩

/-- Making a backup writes the copy and the manifest. Of what the file's records name, and of the
new copy, it may remove. -/
theorem create_changes {b : Backups} (hb : b.IsRooted) (t : Tree) (now : Readings) {file : Path}
    (hf : file.IsLegible) (reason : String) :
    Changes (fun q => q = b.manifestPath.resolve ∨
        q = b.copyPlace file.resolve (b.stamp file now))
      (fun q => (∃ e ∈ b.history file, e.IsAt q) ∨
        q = b.copyPlace file.resolve (b.stamp file now))
      t (b.create t now file reason).2.2 := by
  have hplace := hf.resolve
  have hcopy (bytes : ByteArray) := writeCopy_changes
    (R := fun q => (∃ e ∈ b.history file, e.IsAt q) ∨
      q = b.copyPlace file.resolve (b.stamp file now)) t
    (isLegible_copyPath hb hplace (b.stamp file now)) bytes
  rw [resolve_copyPath b hplace] at hcopy
  have hold (bytes : ByteArray) (q : Path)
      (h : ∃ e ∈ b.history file ++
        [b.entryFor file.resolve (b.stamp file now) reason bytes], e.IsAt q) :
      (∃ e ∈ b.history file, e.IsAt q) ∨ q = b.copyPlace file.resolve (b.stamp file now) := by
    obtain ⟨e, he, hq⟩ := h
    rcases List.mem_append.1 he with he | he
    · exact .inl ⟨e, he, hq⟩
    · obtain rfl := List.mem_singleton.1 he
      exact .inr (isAt_entryFor hb hplace hq)
  have hprune (t1 : Tree) (bytes : ByteArray) := (prune_changes
    (W := fun q => q = b.manifestPath.resolve ∨ q = b.copyPlace file.resolve (b.stamp file now))
    b.settings now.sweep t1 (b.history file ++
      [b.entryFor file.resolve (b.stamp file now) reason bytes])).mono (fun _ h => h) (hold bytes)
  have hcases := b.create_cases t now file reason
  revert hcases
  generalize b.create t now file reason = r
  intro hcases
  cases hcases with
  | refused => exact .refl t
  | unreadable => exact .refl t
  | @uncopied bytes e t' read copied =>
    have h := hcopy bytes
    rw [copied] at h
    exact h.mono (fun _ h => .inr h) fun _ h => h
  | @unpruned f bytes t1 t2 checked read copied pruned =>
    have h1 := hcopy bytes
    have h2 := hprune t1 bytes
    rw [copied] at h1
    rw [pruned] at h2
    exact (h1.mono (fun _ h => .inr h) fun _ h => h).trans h2
  | @made bytes t1 t2 kept available checked read copied pruned =>
    have h1 := hcopy bytes
    have h2 := hprune t1 bytes
    rw [copied] at h1
    rw [pruned] at h2
    have hsaved (q : Path) (hq : q = b.manifestPath.resolve) : q = b.manifestPath.resolve ∨
        q = b.copyPlace file.resolve (b.stamp file now) := .inl hq
    have h3 := (saveIndex_changes
      (R := fun q => (∃ e ∈ b.history file, e.IsAt q) ∨
        q = b.copyPlace file.resolve (b.stamp file now))
      (hb.withHistory file kept) t2).mono hsaved fun _ h => h
    exact ((h1.mono (fun _ h => .inr h) fun _ h => h).trans h2).trans h3

/-- What making a backup leaves as it is. -/
theorem create_frame (b : Backups) (t : Tree) (now : Readings) (file : Path) (reason : String) :
    (b.create t now file reason).2.1 =
      { b with index := (b.create t now file reason).2.1.index } := by
  have hcases := b.create_cases t now file reason
  revert hcases
  generalize b.create t now file reason = r
  intro hcases
  cases hcases <;> rfl

/-! ### Restoring -/

/-- A restore writes the file, or does nothing and says so. -/
theorem restore_cases {b : Backups} {file : Path} {timestamp : Option Value} {restored : Bool}
    (h : b.restore t file timestamp = .ok (restored, t')) :
    (restored = false ∧ t' = t) ∨ restored = true ∧ ∃ bytes, t.write file bytes = .ok t' := by
  unfold restore at h
  split at h
  · cases h
  · cases h
    exact .inl ⟨rfl, rfl⟩
  · next entry _ =>
    cases hc : copyOf entry with
    | error f =>
      rw [hc] at h
      cases h
    | ok copy =>
      rw [hc] at h
      simp only [Except.map, Except.ok.injEq] at h
      split at h
      · cases h
        exact .inl ⟨rfl, rfl⟩
      · next bytes _ =>
        split at h
        · cases h
          exact .inl ⟨rfl, rfl⟩
        · next hw =>
          cases h
          exact .inr ⟨rfl, bytes, hw⟩

theorem restore_changes {b : Backups} {file : Path} (hf : file.IsLegible)
    {timestamp : Option Value} {restored : Bool}
    (h : b.restore t file timestamp = .ok (restored, t')) :
    Changes (· = file.resolve) R t t' := by
  rcases restore_cases h with ⟨-, rfl⟩ | ⟨-, bytes, hw⟩
  · exact .refl t'
  · exact write_changes hf hw

/-! ### Places that the records name -/

/-- Whether a record names a place as that of its copy. -/
def Records (b : Backups) (q : Path) : Prop := ∃ x ∈ b.index, ∃ e ∈ x.2, e.IsAt q

theorem exists_of_mem_history {b : Backups} {file : Path} {e : BackupEntry}
    (h : e ∈ b.history file) : ∃ x ∈ b.index, x.1 = file.resolve.text ∧ e ∈ x.2 := by
  unfold history at h
  cases hl : b.index.lookup file.resolve.text with
  | none =>
    rw [hl] at h
    simp at h
  | some es =>
    rw [hl] at h
    exact ⟨_, mem_of_lookup hl, rfl, h⟩

theorem records_of_history {b : Backups} {file : Path} {q : Path}
    (h : ∃ e ∈ b.history file, e.IsAt q) : b.Records q := by
  obtain ⟨e, he, hq⟩ := h
  obtain ⟨x, hx, -, hex⟩ := exists_of_mem_history he
  exact ⟨x, hx, e, hex, hq⟩

theorem records_withHistory {b : Backups} {file : Path} {es : List BackupEntry} {q : Path}
    (h : (b.withHistory file es).Records q) : b.Records q ∨ ∃ e ∈ es, e.IsAt q := by
  obtain ⟨x, hx, e, he, hq⟩ := h
  rcases mem_assign hx with rfl | hx
  · exact .inr ⟨e, he, hq⟩
  · exact .inl ⟨x, hx, e, he, hq⟩

/-- Places that the records name after a backup are named before, or lie below the directory for
backups. -/
theorem records_create {b : Backups} (hb : b.IsRooted) {t : Tree} {now : Readings} {file : Path}
    (hf : file.IsLegible) {reason : String} {q : Path}
    (h : (b.create t now file reason).2.1.Records q) : b.Records q ∨ b.place <+: q := by
  have hnew (bytes : ByteArray) (es : List BackupEntry) (hes : es.Sublist (b.history file ++
      [b.entryFor file.resolve (b.stamp file now) reason bytes])) (h : ∃ e ∈ es, e.IsAt q) :
      b.Records q ∨ b.place <+: q := by
    obtain ⟨e, he, hq⟩ := h
    rcases List.mem_append.1 (hes.mem he) with he | he
    · exact .inl (records_of_history ⟨e, he, hq⟩)
    · obtain rfl := List.mem_singleton.1 he
      rw [isAt_entryFor hb hf.resolve hq]
      exact .inr (place_prefix_copyPlace b _ _)
  have hcases := b.create_cases t now file reason
  revert hcases h
  generalize b.create t now file reason = r
  intro h hcases
  have hempty (h : (b.withoutEmpty file.resolve.text).Records q) :
      b.Records q ∨ b.place <+: q := by
    obtain ⟨x, hx, e, he, hq⟩ := h
    exact .inl ⟨x, (List.mem_filter.1 hx).1, e, he, hq⟩
  cases hcases with
  | refused => exact .inl h
  | unreadable => exact hempty h
  | uncopied read copied => exact hempty h
  | @unpruned f bytes t1 t2 checked read copied pruned =>
    rcases records_withHistory h with h | h
    · exact .inl h
    · exact hnew bytes _ (List.Sublist.refl _) h
  | @made bytes t1 t2 kept available checked read copied pruned =>
    rcases records_withHistory h with h | h
    · exact .inl h
    · exact hnew bytes _ (prune_sublist pruned) h

end Backups

end Restyle
