import Restyle.Proofs.LoadedStore
import Restyle.Proofs.Retention

/-!
The latest copy of a file. Copies of different files, and copies of one file with different
timestamps, lie at different places; so work on other files leaves the copy as it is.
-/
namespace Restyle

open Restyle.Tree BackupEntry

namespace Backups

variable {b b' : Backups} {t t' : Tree} {Q : Path → Prop}

/-! ### Where copies lie -/

/-- A file inside of the project that lies neither in the directory for backups nor in one with the
name under which files from outside are copied. -/
structure IsInside (b : Backups) (file : Path) : Prop where
  place : file.IsPlace
  inside : ∃ p : Path, p ≠ [] ∧ file = b.root ++ p ∧ p.head? ≠ some outside
  away : ¬ b.place <+: file

/-- A file inside of the project that does not lie in a directory with the name under which files
from outside are copied. -/
structure IsWithin (b : Backups) (file : Path) : Prop where
  place : file.IsPlace
  inside : ∃ p : Path, p ≠ [] ∧ file = b.root ++ p ∧ p.dropLast.head? ≠ some outside

theorem IsInside.isWithin {file : Path} (h : b.IsInside file) : b.IsWithin file where
  place := h.place
  inside := by
    obtain ⟨p, hp, hfile, hhead⟩ := h.inside
    refine ⟨p, hp, hfile, fun hfirst => hhead ?_⟩
    rw [← hfirst]
    cases p with
    | nil => rfl
    | cons n p =>
      cases p with
      | nil => cases hfirst
      | cons m p => rfl

theorem eq_of_append_point {a a' n n' : List Char} (hn : '.' ∉ n) (hn' : '.' ∉ n')
    (h : a ++ '.' :: n = a' ++ '.' :: n') : a = a' ∧ n = n' := by
  rcases List.append_eq_append_iff.1 h with ⟨c, ha, hc⟩ | ⟨c, ha, hc⟩
  · cases c with
    | nil =>
      obtain ⟨-, hc⟩ := List.cons.inj hc
      exact ⟨by simpa using ha.symm, hc⟩
    | cons x c =>
      obtain ⟨-, hc⟩ := List.cons.inj hc
      exact absurd (hc ▸ List.mem_append_right _ List.mem_cons_self) hn
  · cases c with
    | nil =>
      obtain ⟨-, hc⟩ := List.cons.inj hc
      exact ⟨by simpa using ha, hc.symm⟩
    | cons x c =>
      obtain ⟨-, hc⟩ := List.cons.inj hc
      exact absurd (hc ▸ List.mem_append_right _ List.mem_cons_self) hn'

theorem point_notMem_intText (n : Int) : '.' ∉ Value.intText n := by
  intro h
  rcases Value.mem_intText h with h | h
  · cases h
  · revert h
    decide

theorem copyName_injective {file file' : Path} {timestamp timestamp' : Int}
    (h : copyName file timestamp = copyName file' timestamp') :
    file.name = file'.name ∧ timestamp = timestamp' := by
  have hl := congrArg String.toList h
  rw [toList_copyName, toList_copyName, ← List.cons_append, ← List.cons_append,
    ← List.append_assoc, ← List.append_assoc] at hl
  obtain ⟨hname, hint⟩ := eq_of_append_point (point_notMem_intText _) (point_notMem_intText _)
    (List.append_cancel_right hl)
  exact ⟨String.toList_inj.1 hname, Value.intText_injective hint⟩

theorem name_mem {file : Path} (h : file ≠ []) : file.name ∈ file := by
  unfold Path.name
  rw [List.getLastD_eq_getLast?, List.getLast?_eq_some_getLast h]
  exact List.getLast_mem h

theorem eq_dropLast_append_name (root : Path) {p : Path} (h : p ≠ []) :
    p = p.dropLast ++ [Path.name (root ++ p)] := by
  have hname : Path.name (root ++ p) = p.getLast h := by
    unfold Path.name
    rw [List.getLastD_eq_getLast?, List.getLast?_append, List.getLast?_eq_some_getLast h]
    rfl
  rw [hname, List.dropLast_concat_getLast h]

/-- A place is that of one copy of one file, as far as files inside of the project go. -/
theorem copyPlace_injective {file file' : Path} (hf : b.IsWithin file)
    {timestamp timestamp' : Int}
    (h : b.copyPlace file' timestamp' = b.copyPlace file timestamp) :
    (file' = file ∨ file' = b.root) ∧ timestamp' = timestamp := by
  obtain ⟨p, hp, rfl, houtside⟩ := hf.inside
  have htail := List.append_cancel_left h
  unfold tail at htail
  obtain ⟨hdirs, hnames⟩ := List.append_inj' htail rfl
  obtain ⟨hname, rfl⟩ := copyName_injective (List.singleton_inj.1 hnames)
  refine ⟨?_, rfl⟩
  rw [Path.below?_eq_some.2 rfl, Option.getD_some] at hdirs
  cases hb : b.root.below? file' with
  | some p' =>
    rw [hb, Option.getD_some] at hdirs
    obtain rfl := Path.below?_eq_some.1 hb
    by_cases hp' : p' = []
    · exact .inr (by rw [hp', List.append_nil])
    · refine .inl ?_
      rw [eq_dropLast_append_name b.root hp', hdirs, hname,
        ← eq_dropLast_append_name b.root hp]
  | none =>
    rw [hb, Option.getD_none] at hdirs
    by_cases hnil : file' = []
    · have hempty : Path.name (b.root ++ p) = "" := by
        rw [← hname, hnil]
        rfl
      have hfile : b.root ++ p ≠ [] := by simp [hp]
      exact absurd hempty (hf.place _ (name_mem hfile)).1.1
    · rw [List.dropLast_cons_of_ne_nil hnil] at hdirs
      refine absurd ?_ houtside
      rw [← hdirs]
      rfl

/-- Files other than one: they lie outside of the directory for backups, and are not the project's
directory. -/
def Others (b : Backups) (file : Path) (q : Path) : Prop :=
  ¬ b.place <+: q ∧ q ≠ file ∧ q ≠ b.root

theorem copy_not_removed {file : Path} (hf : b.IsInside file) (timestamp : Int) :
    ¬ b.Removes (b.Others file) (b.copyPlace file timestamp) := by
  rintro (h | ⟨file', timestamp', -, ⟨-, hne, hroot⟩, h⟩)
  · exact h.1 (place_prefix_copyPlace b file timestamp)
  · rcases (copyPlace_injective hf.isWithin h.symm).1 with e | e
    · exact hne e
    · exact hroot e

theorem copy_not_written {file : Path} (hf : b.IsInside file) (timestamp : Int) :
    ¬ b.Writes (b.Others file) (b.copyPlace file timestamp) := by
  rintro (h | h)
  · exact copyPlace_ne_manifest b file timestamp h
  · exact copy_not_removed hf timestamp h

theorem file_not_removed {file : Path} (hf : b.IsInside file) :
    ¬ b.Removes (b.Others file) file := by
  rintro (h | ⟨file', timestamp', -, -, h⟩)
  · exact h.2.1 rfl
  · exact hf.away (h ▸ place_prefix_copyPlace b file' timestamp')

theorem ne_manifest_of_away {q : Path} (h : ¬ b.place <+: q) : q ≠ b.manifestPath.resolve := by
  rintro rfl
  rw [resolve_manifestPath] at h
  exact h (List.prefix_append _ _)

theorem file_not_written {file : Path} (hf : b.IsInside file) :
    ¬ b.Writes (b.Others file) file := by
  rintro (h | h)
  · exact ne_manifest_of_away hf.away h
  · exact file_not_removed hf h

theorem IsInside.congr {file : Path} (h : b.IsInside file) (hr : b'.root = b.root)
    (hd : b'.directory = b.directory) : b'.IsInside file where
  place := h.place
  inside := by rw [hr]; exact h.inside
  away := by rw [place_congr hd]; exact h.away

theorem Others.congr (hr : b'.root = b.root) (hd : b'.directory = b.directory) (file : Path) :
    b'.Others file = b.Others file := by
  funext q
  unfold Others
  rw [hr, place_congr hd]

/-! ### The latest copy -/

/-- Whether the latest copy of a file is there and has the bytes. -/
def Holds (b : Backups) (t : Tree) (file : Path) (bytes : ByteArray) : Prop :=
  ∃ e, (recordsOf b.index file).getLast? = some e ∧
    t.find (b.copyPath file e.timestamp) =
      .ok (b.copyPlace file e.timestamp, some (.file bytes))

theorem Holds.changes {file : Path} {bytes : ByteArray} (h : b.Holds t file bytes)
    {W R : Path → Prop} (hc : Changes W R t t')
    (hne : ∀ timestamp, ¬ W (b.copyPlace file timestamp) ∧ ¬ R (b.copyPlace file timestamp)) :
    b.Holds t' file bytes := by
  obtain ⟨e, he, hfind⟩ := h
  refine ⟨e, he, ?_⟩
  exact hc.find_some hfind (hne _).1 (hne _).2

/-- Records that are alike have the same copies. -/
theorem Holds.alike {file : Path} {bytes : ByteArray} (h : b.Holds t file bytes)
    (hr : b'.root = b.root) (hd : b'.directory = b.directory)
    (hrecords : AreAlike (recordsOf b.index file) (recordsOf b'.index file)) :
    b'.Holds t file bytes := by
  obtain ⟨e, he, hfind⟩ := h
  have hlast := rel_getLast? hrecords
  rw [he] at hlast
  revert hlast
  generalize hlast' : (recordsOf b'.index file).getLast? = last
  rintro ⟨halike⟩
  refine ⟨_, hlast', ?_⟩
  rw [halike.timestamp, copyPath_congr hr hd, copyPlace_congr hr hd]
  exact hfind

/-- Work on other files leaves the latest copy of a file as it is. -/
theorem Holds.works {file : Path} {bytes : ByteArray} (h : b.Holds t file bytes)
    (hf : b.IsInside file) (hw : b.Works (b.Others file) t b' t') : b'.Holds t' file bytes := by
  have hholds := h.changes hw.changes fun timestamp =>
    ⟨copy_not_written hf timestamp, copy_not_removed hf timestamp⟩
  refine hholds.alike hw.root hw.directory ?_
  rw [hw.records file hf.place fun hq => hq.2.1 rfl]
  exact areAlike_refl _

/-- A backup that was made holds what the file had. -/
theorem create_holds (h : b.IsStore t) (hdays : keepsDays b.settings) {now : Readings}
    (hprompt : now.IsPrompt) {file : Path} (hf : b.IsInside file) {path : Path}
    (hp : path.IsLegible) (hresolve : path.resolve = file) {reason : String} {e : BackupEntry}
    (hc : b.create t now path reason = (.ok e, b', t')) :
    b.available = true ∧ ∃ bytes, t.read file = .ok bytes ∧ b'.Holds t' file bytes := by
  have hcases := b.create_cases t now path reason
  rw [hc] at hcases
  cases hcases with
  | @made bytes t1 t2 kept available checked read copied pruned =>
    have hlegible := isLegible_copyPath h.rooted hp.resolve (b.stamp path now)
    have hcopy := find_of_writeCopy hlegible copied
    rw [resolve_copyPath b hp.resolve] at hcopy
    have hnow : now.sweep.millis ≤
        (b.entryFor path.resolve (b.stamp path now) reason bytes).timestamp :=
      Int.le_trans hprompt (le_nextTimestamp (b.history path) now.stamp)
    obtain ⟨hlast, hprune⟩ := prune_newest (W := nowhere) hdays hnow pruned
    have hhistory : b.history path = recordsOf b.index path.resolve := rfl
    subst hresolve
    refine ⟨available, bytes, read, ?_⟩
    have hpruned : (b.withHistory path kept).Holds t2 path.resolve bytes := by
      refine ⟨b.entryFor path.resolve (b.stamp path now) reason bytes, ?_, ?_⟩
      · unfold withHistory
        rw [recordsOf_assign hf.place hf.place, if_pos rfl]
        exact hlast
      · have hkept : t2.node? (b.copyPlace path.resolve (b.stamp path now)) =
            some (.file bytes) := by
          refine hprune.node_some (fun h => h) ?_ (node?_of_find hcopy)
          rintro ⟨e, he, hq⟩
          rw [hhistory] at he
          have hat := (h.index.isRecord hf.place he).isAt h.rooted hf.place hq
          have hlt := lt_nextTimestamp (h.index.pairwise path.resolve) now.stamp he
          have heq := (copyPlace_injective hf.isWithin hat).2
          unfold stamp at heq
          rw [hhistory] at heq
          omega
        have hfind := hprune.find hcopy
        rw [hkept] at hfind
        exact hfind
    exact hpruned.changes (saveIndex_changes (R := nowhere) (h.rooted.withHistory path kept) t2)
      fun timestamp => ⟨copyPlace_ne_manifest _ _ _, fun h => h⟩

/-! ### Recording what was written -/

theorem getLast?_setLast {f : BackupEntry → BackupEntry} {es : List BackupEntry}
    {e : BackupEntry} (h : es.getLast? = some e) : (setLast f es).getLast? = some (f e) := by
  unfold setLast
  rw [h]
  exact List.getLast?_concat

/-- Recording what was written changes the manifest at most. -/
theorem recordWrite_changes (hb : b.IsRooted) (t : Tree) (file : Path) (bytes : ByteArray) :
    Changes (· = b.manifestPath.resolve) nowhere t (b.recordWrite t file bytes).2 := by
  rcases recordWrite_cases b t file bytes with ⟨-, hr⟩ | ⟨-, hr⟩
  · rw [hr]
    exact .refl t
  · rw [hr]
    exact saveIndex_changes (hb.withHistory file (setLast (rewritten bytes) (b.history file))) t

/-- Recording what was written leaves the copies as they are. -/
theorem recordWrite_holds {file : Path} {content : ByteArray} (h : b.Holds t file content)
    (hb : b.IsRooted) (hf : file.IsPlace) {path : Path} (hp : path.IsLegible)
    (bytes : ByteArray) :
    (b.recordWrite t path bytes).1.Holds (b.recordWrite t path bytes).2 file content := by
  rcases recordWrite_cases b t path bytes with ⟨-, hr⟩ | ⟨-, hr⟩
  · rw [hr]
    exact h
  · rw [hr]
    have hindex : (b.withHistory path (setLast (rewritten bytes) (b.history path))).Holds t file
        content := by
      obtain ⟨e, he, hfind⟩ := h
      unfold withHistory Holds
      rw [recordsOf_assign hp.resolve hf]
      split
      · next heq =>
        have hhistory : b.history path = recordsOf b.index file := by rw [heq]; rfl
        exact ⟨rewritten bytes e, getLast?_setLast (hhistory ▸ he), hfind⟩
      · exact ⟨e, he, hfind⟩
    exact hindex.changes (saveIndex_changes (R := nowhere) (hb.withHistory path _) t)
      fun timestamp => ⟨copyPlace_ne_manifest _ _ _, fun h => h⟩

/-- If recording does something the manifest is saved, unless a directory lies in its place. -/
theorem recordWrite_saved (h : b.IsStore t) {path : Path} (hp : path.IsLegible)
    {bytes : ByteArray} {file : Path}
    (hs : b.IsSaved t file ∨ b.history path ≠ [] ∧ b.available = true ∧
      t.node? b.manifestPath.resolve ≠ some .directory) :
    (b.recordWrite t path bytes).1.IsSaved (b.recordWrite t path bytes).2 file := by
  have hw := recordWrite_works (Q := fun _ => True) h hp trivial bytes
  have hfree : ∀ n, t.find b.manifestPath = .ok (b.manifestPath.resolve, n) →
      n ≠ some .directory := by
    intro n hn
    rcases hs with ⟨index, hfind, -, -⟩ | ⟨-, -, hne⟩
    · rw [hn] at hfind
      obtain ⟨-, rfl⟩ := Prod.mk.inj (Except.ok.inj hfind)
      simp
    · exact node?_of_find hn ▸ hne
  rcases recordWrite_cases b t path bytes with ⟨hnil, hr⟩ | ⟨-, hr⟩
  · rw [hr]
    rcases hs with hs | ⟨hne, -, -⟩
    · exact hs
    · exact absurd hnil hne
  · rw [hr] at hw ⊢
    obtain ⟨n, hn⟩ : ∃ n, t.find b.manifestPath = .ok (b.manifestPath.resolve, n) := by
      rcases hs with ⟨index, hfind, -, -⟩ | ⟨-, ha, -⟩
      · exact ⟨_, hfind⟩
      · exact h.found ha
    exact ⟨_, saveIndex_find (h.rooted.withHistory path _) hn (hfree n hn), hw.store.index,
      areAlike_records _ _⟩

/-! ### What a file can be given back -/

/-- Whether a file is there and its latest copy has the content; if `lasting`, also for one who
reads the manifest. -/
structure Recovers (lasting : Prop) (b : Backups) (t : Tree) (file : Path)
    (content : ByteArray) : Prop where
  store : b.IsStore t
  inside : b.IsInside file
  holds : b.Holds t file content
  there : ∃ bytes, t.find file = .ok (file, some (.file bytes))
  saved : lasting → b.IsSaved t file

variable {lasting : Prop} {file : Path} {content : ByteArray}

/-- Work on other files does not change what a file can be given back. -/
theorem Recovers.works (h : b.Recovers lasting t file content)
    (hw : b.Works (b.Others file) t b' t') : b'.Recovers lasting t' file content where
  store := hw.store
  inside := h.inside.congr hw.root hw.directory
  holds := h.holds.works h.inside hw
  there := by
    obtain ⟨bytes, hfind⟩ := h.there
    refine ⟨bytes, ?_⟩
    exact hw.changes.find_some hfind (file_not_written h.inside) (file_not_removed h.inside)
  saved hl := hw.saved file h.inside.place (fun hq => hq.2.1 rfl) (h.saved hl)

/-- Loading the store again does not either, if the manifest says what the index says. -/
theorem Recovers.loaded (h : b.Recovers lasting t file content) (hl : lasting)
    (hload : Loaded t b.root b' t') (hd : b'.directory = b.directory) :
    b'.Recovers lasting t' file content := by
  have hroot := h.store.rooted.root
  have hc : Changes nowhere nowhere t t' := hload.changes hroot
  obtain ⟨hrecords, hsaved⟩ := hload.records hroot hd (h.saved hl)
  refine ⟨hload.isStore_again h.store hd, h.inside.congr hload.root hd, ?_, ?_, fun _ => hsaved⟩
  · have hholds := h.holds.changes hc fun _ => ⟨fun h => h, fun h => h⟩
    exact hholds.alike hload.root hd hrecords
  · obtain ⟨bytes, hfind⟩ := h.there
    refine ⟨bytes, ?_⟩
    exact hc.find_some hfind (fun h => h) fun h => h

/-- Nor does recording what was written over any file. -/
theorem Recovers.record (h : b.Recovers lasting t file content) {path : Path}
    (hp : path.IsLegible) (bytes : ByteArray) :
    (b.recordWrite t path bytes).1.Recovers lasting (b.recordWrite t path bytes).2 file
      content := by
  have hw := recordWrite_works (Q := fun _ => True) h.store hp trivial bytes
  refine ⟨hw.store, h.inside.congr hw.root hw.directory,
    recordWrite_holds h.holds h.store.rooted h.inside.place hp bytes, ?_,
    fun hl => recordWrite_saved h.store hp (.inl (h.saved hl))⟩
  obtain ⟨old, hfind⟩ := h.there
  have hc := recordWrite_changes h.store.rooted t path bytes
  refine ⟨old, ?_⟩
  exact hc.find_some hfind (ne_manifest_of_away h.inside.away) fun h => h

theorem Recovers.imp {lasting' : Prop} (h : b.Recovers lasting t file content)
    (hl : lasting' → lasting) : b.Recovers lasting' t file content :=
  ⟨h.store, h.inside, h.holds, h.there, fun hl' => h.saved (hl hl')⟩

/-- Recording what was written over the file itself saves the manifest, unless a directory lies in
its place. -/
theorem Recovers.recordLast (h : b.Recovers False t file content) (ha : b.available = true)
    (bytes : ByteArray) :
    (b.recordWrite t file bytes).1.Recovers (t.node? b.manifestPath.resolve ≠ some .directory)
      (b.recordWrite t file bytes).2 file content := by
  have hlegible := h.inside.place.isPlain.isLegible
  have hrecorded := h.record hlegible bytes
  refine ⟨hrecorded.store, hrecorded.inside, hrecorded.holds, hrecorded.there, fun hfree => ?_⟩
  refine recordWrite_saved h.store hlegible (.inr ⟨?_, ha, hfree⟩)
  obtain ⟨e, he, -⟩ := h.holds
  intro hnil
  rw [history_eq h.inside.place] at hnil
  rw [hnil] at he
  cases he

/-- What can be given back is given back. -/
theorem Recovers.restore (h : b.Recovers lasting t file content) :
    ∃ t', b.restore t file none = .ok (true, t') ∧ t'.find file = .ok (file, some (.file content)) ∧
      b.Works (· = file) t b t' := by
  obtain ⟨e, he, hcopy⟩ := h.holds
  obtain ⟨old, hfind⟩ := h.there
  have hplace := h.inside.place
  have hresolve := Path.resolve_of_isPlace hplace
  have hlegible := hplace.isPlain.isLegible
  have hhistory : (b.history file).getLast? = some e := by
    rw [history_eq hplace]
    exact he
  have hrecord := h.store.index.isRecord hplace (List.mem_of_getLast? he)
  have hentry : b.find file none = .ok e := by
    have hchecked : file.checked.mapError Problem.fault = .ok file := by
      rw [checked_eq_ok.2 ⟨refusal?_of_find_ok hfind, rfl⟩]
      rfl
    unfold find
    rw [hchecked]
    simp only [bind, Except.bind, hhistory]
  have hcopyOf := hrecord.copyOf_eq h.store.rooted hplace
  have hread : t.read (b.copyPath file e.timestamp) = .ok content := by
    rw [read_eq_ok, resolve_copyPath b hplace]
    exact hcopy
  have hwrite := write_of_find hfind (by simp) content
  have hfound := find_of_write hlegible hwrite
  rw [hresolve] at hfound
  refine ⟨_, ?_, hfound, ?_⟩
  · unfold Backups.restore
    simp only [hentry, hcopyOf, Except.map, Option.bind_some, hread, Except.toOption, hwrite]
  · refine .ofFiles h.store (fun q hq => hq ▸ h.inside.away)
      (write_changes (R := nowhere) hlegible hwrite) fun q hq => ?_
    rcases hq with hq | hq
    · rw [hq, hresolve]
    · exact hq.elim

end Backups

end Restyle
