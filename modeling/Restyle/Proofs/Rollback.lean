import Restyle.Proofs.LatestCopy
import Restyle.Proofs.Session

/-!
A change that succeeds can be taken back: whatever is done to other files after it, rolling back
gives the file the bytes that it had before.
-/
namespace Restyle

open Restyle.Tree

namespace Tree

variable {t : Tree}

theorem node?_ne_directory {q : Path} (h : ∃ bytes, t.file? q = some bytes) :
    t.node? q ≠ some .directory := by
  obtain ⟨bytes, h⟩ := h
  rw [file?_eq_some.1 h]
  simp

end Tree

namespace Backups

variable {b b' : Backups} {t t' : Tree} {file : Path} {content : ByteArray}

/-- A file that is there is not the project's directory, if something lies in that. -/
theorem ne_root_of_read (hb : b.IsRooted) (hin : b.IsInside file) {q : Path} {n : Option Node}
    (hthere : t.find file = .ok (q, n)) {path : Path} {bytes : ByteArray}
    (hread : t.read path = .ok bytes) : path.resolve ≠ b.root := by
  obtain ⟨p, hp, rfl, -⟩ := hin.inside
  have hd := node?_of_walk hb.root hp (walk_of_find hthere)
  intro e
  have hn := node?_of_read hread
  rw [e, ← List.nil_append b.root, hd] at hn
  cases hn

theorem create_settings (b : Backups) (t : Tree) (now : Readings) (path : Path) (reason : String) :
    (b.create t now path reason).2.1.settings = b.settings := by
  rw [create_frame]

/-- A store leaves files outside of its directory alone. -/
theorem IsStore.live (h : b.IsStore t) {q : Path} (hq : ¬ b.place <+: q) : b.Live q := by
  refine ⟨hq, ?_⟩
  rintro ⟨x, hx, e, he, hat⟩
  obtain ⟨file, hf, -, -, hrecords⟩ := h.index.files x hx
  rw [(hrecords e he).isAt h.rooted hf hat] at hq
  exact hq (place_prefix_copyPlace b _ _)

theorem create_find (h : b.IsStore t) (hin : b.IsInside file)
    (hthere : t.find file = .ok (file, some (.file content))) (now : Readings) {path : Path}
    (hp : path.IsLegible) (reason : String) :
    (b.create t now path reason).2.2.find file = .ok (file, some (.file content)) := by
  have hw := create_works (Q := fun _ => True) h now hp trivial reason
  have hsame := (create_live h.rooted t now hp reason (h.live hin.away)).2
  have hfile : t.file? file = some content := file?_of_find hthere
  rw [hw.changes.find hthere, file?_eq_some.1 (hsame.trans hfile)]

/-- Another backup, be it of the same file or of another, leaves the latest copy with the same
content while the file has that. -/
theorem Holds.create (h : b.IsStore t) (hdays : keepsDays b.settings) {now : Readings}
    (hprompt : now.IsPrompt) (hin : b.IsInside file) (hholds : b.Holds t file content)
    (hthere : t.find file = .ok (file, some (.file content))) {path : Path} (hp : path.IsLegible)
    (hout : ¬ b.place <+: path.resolve) {reason : String} {e : BackupEntry}
    (hc : b.create t now path reason = (.ok e, b', t')) : b'.Holds t' file content := by
  by_cases heq : path.resolve = file
  · obtain ⟨-, bytes, hread, hnew⟩ := create_holds h hdays hprompt hin hp heq hc
    have hsame : bytes = content := by
      have hn := node?_of_read hread
      rw [Path.resolve_of_isPlace hin.place, node?_of_find hthere] at hn
      simpa using hn.symm
    exact hsame ▸ hnew
  · have hcases := b.create_cases t now path reason
    rw [hc] at hcases
    cases hcases with
    | made available checked read copied pruned =>
      have hroot := ne_root_of_read h.rooted hin hthere read
      rw [Path.resolve_resolve] at hroot
      have hw := create_works (Q := b.Others file) h now hp ⟨hout, heq, hroot⟩ reason
      rw [hc] at hw
      exact hholds.works hin hw

end Backups

namespace Plan

variable {p : Plan} {b b' : Backups} {t t' : Tree}

/-- The backup of the stylesheet leaves the latest copy of the source. -/
theorem backupSheet_holds (h : b.IsStore t) (hdays : Backups.keepsDays b.settings) {now : Readings}
    (hprompt : now.IsPrompt) (hin : b.IsInside p.source) {content : ByteArray}
    (hholds : b.Holds t p.source content)
    (hthere : t.find p.source = .ok (p.source, some (.file content)))
    (hs : ∀ s, p.sheet = some s → s.path.IsLegible) (hout : ∀ q ∈ p.files, ¬ b.place <+: q)
    {copy : Option BackupEntry} (hb : p.backupSheet b t now = (.ok copy, b', t')) :
    b'.Holds t' p.source content ∧
      t'.find p.source = .ok (p.source, some (.file content)) ∧
      b'.root = b.root ∧ b'.directory = b.directory := by
  unfold backupSheet at hb
  cases hcopy : p.sheetToCopy with
  | none =>
    rw [hcopy] at hb
    cases hb
    exact ⟨hholds, hthere, rfl, rfl⟩
  | some path =>
    rw [hcopy] at hb
    unfold sheetToCopy at hcopy
    obtain ⟨s, hsome, rfl⟩ := Option.map_eq_some_iff.1 hcopy
    have hsheet := (Option.filter_eq_some_iff.1 hsome).1
    have hlegible := hs s hsheet
    simp only at hb
    split at hb
    · cases hb
    · next e b1 t1 hcreate =>
      cases hb
      have hw := Backups.create_works (Q := fun _ => True) h now hlegible trivial
        sheetReason
      have hthere1 := Backups.create_find h hin hthere now hlegible sheetReason
      have hholds1 := Backups.Holds.create h hdays hprompt hin hholds hthere hlegible
        (hout _ (sheet_mem_files hsheet)) hcreate
      rw [hcreate] at hw hthere1
      exact ⟨hholds1, hthere1, hw.root, hw.directory⟩

/-- After a plan was carried out the latest copy of its source has what the source had before. -/
theorem carryOut_holds (h : b.IsStore t) (hdays : Backups.keepsDays b.settings) {now : Readings}
    (hprompt : now.IsPrompt) (hin : b.IsInside p.source)
    (hs : ∀ s, p.sheet = some s → s.path.IsLegible)
    (hout : ∀ q ∈ p.files, ¬ b.place <+: q) {f : Framework}
    {styles : Style.Declarations} {e : Edited}
    (hc : p.carryOut f b t now styles = (.ok e, b', t')) :
    b.available = true ∧ ∃ content, t.file? p.source = some content ∧
      b'.Holds t' p.source content ∧
      ∃ bytes, t'.find p.source = .ok (p.source, some (.file bytes)) := by
  have hlegible := hin.place.isPlain.isLegible
  have hresolve := Path.resolve_of_isPlace hin.place
  unfold carryOut at hc
  split at hc
  · cases hc
  · next copy b1 t1 hcreate =>
    have hw1 := Backups.create_works (Q := (· = p.source)) h now hlegible hresolve
      (sourceReason f)
    obtain ⟨havailable, content, hread, hholds1⟩ :=
      Backups.create_holds h hdays hprompt hin hlegible hresolve hcreate
    have hfind := read_eq_ok.1 hread
    rw [hresolve] at hfind
    have hthere1 := Backups.create_find h hin hfind now hlegible (sourceReason f)
    have hsettings := Backups.create_settings b t now p.source (sourceReason f)
    rw [hcreate] at hw1 hthere1 hsettings
    have hplace1 := Backups.place_congr hw1.directory
    refine ⟨havailable, content, file?_of_find hfind, ?_⟩
    split at hc
    · cases hc
    · next sheetCopy b2 t2 hbackup =>
      obtain ⟨hholds2, hthere2, hr2, hd2⟩ := backupSheet_holds hw1.store (hsettings ▸ hdays)
        hprompt (hin.congr hw1.root hw1.directory) hholds1 hthere1 hs (hplace1 ▸ hout) hbackup
      have hcw := write_changes (t := t2) hlegible hs
      split at hc
      · cases hc
      · next t3 hwrite =>
        cases hc
        rw [hwrite] at hcw
        refine ⟨hholds2.changes hcw fun timestamp => ⟨fun hq => ?_, fun h => h⟩, ?_⟩
        · refine hout _ hq ?_
          rw [Backups.copyPlace_congr (hr2.trans hw1.root) (hd2.trans hw1.directory)]
          exact Backups.place_prefix_copyPlace b _ _
        · obtain ⟨bytes, hn⟩ := hcw.isFile (fun h => h) (node?_of_find hthere2)
          exact ⟨bytes, by rw [hcw.find hthere2, hn]⟩

end Plan

namespace Workspace

open Backups

variable {t : Tree} {lasting : Prop} {file : Path} {content : ByteArray}

theorem recordAll_recovers {e : Editor} (h : e.backups.Recovers lasting t file content)
    {ms : List Modification} (hms : ∀ m ∈ ms, m.path.IsLegible) :
    (recordAll e t ms).1.backups.Recovers lasting (recordAll e t ms).2 file content := by
  induction ms generalizing e t with
  | nil => exact h
  | cons m ms ih =>
    exact ih (e := (e.record t m.path m.after.toUTF8).1)
      (h.record (hms m List.mem_cons_self) _) fun m hm => hms m (List.mem_cons_of_mem _ hm)

/-- The first record is of a file that has a copy, so it saves the manifest. -/
theorem recordAll_saves {e : Editor} (h : e.backups.Recovers False t file content)
    (ha : e.backups.available = true) {m : Modification} {ms : List Modification}
    (hm : m.path = file) (hms : ∀ m ∈ ms, m.path.IsLegible) :
    (recordAll e t (m :: ms)).1.backups.available = true ∧
      (recordAll e t (m :: ms)).1.backups.Recovers
        ((recordAll e t (m :: ms)).2.node? e.backups.manifestPath.resolve ≠ some .directory)
        (recordAll e t (m :: ms)).2 file content := by
  subst hm
  have hlegible := h.inside.place.isPlain.isLegible
  have hmsworks : ∀ m ∈ ms, m.path.IsLegible ∧ True := fun m hm => ⟨hms m hm, trivial⟩
  have hw1 := record_edits (e := e) (Q := fun _ => True) h.store hlegible trivial m.after.toUTF8
  have hw2 := recordAll_edits (Q := fun _ => True) hw1.works.store hmsworks
  have hfirst : (e.record t m.path m.after.toUTF8).1.backups.Recovers
      ((recordAll e t (m :: ms)).2.node? e.backups.manifestPath.resolve ≠ some .directory)
      (e.record t m.path m.after.toUTF8).2 m.path content := by
    refine (h.recordLast ha m.after.toUTF8).imp fun hfree hd => ?_
    exact hfree (hw2.works.changes.directory (hw1.works.changes.directory hd))
  exact ⟨(hw2.works.available.trans hw1.works.available).trans ha, recordAll_recovers hfirst hms⟩

/-- After a change that succeeded its source can be given back what it had, also by one who opens
the project anew unless a directory lies in the place of the manifest. -/
theorem apply_recovers {w : Workspace} (h : w.editor.backups.IsStore t) {now : Readings}
    {payload : Value} {plan : Plan} (hplan : w.Plans t now payload plan) {e : Edited}
    (hok : (w.apply t now payload).1.outcome = .ok e)
    (hdays : keepsDays w.editor.backups.settings) (hprompt : now.IsPrompt)
    (hin : w.editor.backups.IsInside plan.source)
    (hout : ∀ q ∈ plan.files, ¬ w.editor.backups.place <+: q) :
    (w.apply t now payload).2.1.editor.backups.available = true ∧
      ∃ content, t.file? plan.source = some content ∧
        (w.apply t now payload).2.1.editor.backups.Recovers
          ((w.apply t now payload).2.2.node? w.editor.backups.manifestPath.resolve ≠
            some .directory) (w.apply t now payload).2.2 plan.source content := by
  have happly := w.apply_cases t now payload
  revert happly hok
  generalize w.apply t now payload = r
  intro hok happly
  cases happly with
  | unplanned fails editor =>
    rw [fails] at hok
    cases hok
  | failed planned carried fails editor =>
    rw [fails] at hok
    cases hok
  | @done plan' f styles e' report b w' t1 events planned carried succeeds editor =>
    obtain rfl := planned.unique hplan
    have hlegible := hin.place.isPlain.isLegible
    have hresolve := Path.resolve_of_isPlace hin.place
    have hsheet := planned.sheet_isLegible h.rooted
    have hw := Plan.carryOut_works (Q := fun q => ¬ w.editor.backups.place <+: q) h f now styles
      hlegible hsheet hout fun q hq => hq
    obtain ⟨havailable, content, hcontent, hholds, hthere⟩ :=
      Plan.carryOut_holds h hdays hprompt hin hsheet hout carried
    have hpaths := Plan.modifications_of_carryOut carried
    rw [carried] at hw
    obtain ⟨-, hbackups⟩ := notifyAll_root
      (recordAll { w.editor with backups := b } t1 e'.modifications).1 events
    rw [editor, hbackups]
    cases hms : e'.modifications with
    | nil =>
      rw [hms] at hpaths
      cases hpaths
    | cons m ms =>
      rw [hms, List.map_cons] at hpaths
      obtain ⟨hm, -⟩ := List.cons.inj hpaths
      have hmslegible : ∀ m ∈ ms, m.path.IsLegible := fun m' hm' =>
        (planned.modification h carried (hms ▸ List.mem_cons_of_mem m hm')).1
      have hunsaved : b.Recovers False t1 plan'.source content :=
        ⟨hw.store, hin.congr hw.root hw.directory, hholds, hthere, fun h => h.elim⟩
      obtain ⟨hafter, hrecovers⟩ := recordAll_saves (e := { w.editor with backups := b }) hunsaved
        (hw.available.trans havailable) hm hmslegible
      rw [manifestPath_congr hw.directory] at hrecovers
      exact ⟨hafter, content, hcontent, hrecovers⟩

end Workspace

namespace Session

open Backups

variable {s s' s0 : Session} {lasting : Prop} {file : Path} {content : ByteArray}

/-- The session after a request. -/
def applied (s : Session) (now : Readings) (payload : Value) : Session :=
  ⟨(s.workspace.apply s.tree now payload).2.1, (s.workspace.apply s.tree now payload).2.2⟩

/-- Whether rolling back a file succeeds, however the file is named, and leaves it with the
content. -/
def GivesBack (s : Session) (file : Path) (content : Option ByteArray) : Prop :=
  (∃ v, s.editor.pathOf v = .ok file) ∧ ∀ now v, s.editor.pathOf v = .ok file →
    ∃ e t', s.editor.rollback s.tree now v none = .ok (true, e, t') ∧ t'.file? file = content

theorem pathOf_text {e : Editor} (hf : file.IsPlace) (hask : file.refusal? = none) :
    e.pathOf (.str file.text) = .ok file := by
  have hjoin : e.root.join file.text = file := by
    unfold Path.join
    rw [if_pos Path.isAbsolute_text, Path.names_text hf.isPlain.isLegible]
  unfold Editor.pathOf
  simp only
  rw [hjoin, checked_eq_ok.2 ⟨hask, rfl⟩]
  exact congrArg Except.ok (Path.resolve_of_isPlace hf)

theorem givesBack_of_recovers (h : s.backups.Recovers lasting s.tree file content) :
    s.GivesBack file (some content) := by
  obtain ⟨old, hthere⟩ := h.there
  refine ⟨⟨_, pathOf_text h.inside.place (refusal?_of_find_ok hthere)⟩, ?_⟩
  intro now v hv
  obtain ⟨t1, hrestore, hfind, hw⟩ := h.restore
  have hread : t1.read file = .ok content := by
    rw [read_eq_ok, Path.resolve_of_isPlace h.inside.place]
    exact hfind
  have hfile : t1.file? file = some content := file?_of_find hfind
  refine ⟨(s.editor.record t1 file content).1.notify (Editor.fileChanged now file),
    (s.editor.record t1 file content).2, ?_, ?_⟩
  · have hrestore' : s.editor.backups.restore s.tree file none = .ok (true, t1) := hrestore
    unfold Editor.rollback
    simp only [hv, hrestore', hread, bind, Except.bind, if_true]
    rfl
  · have hrecord : (s.editor.record t1 file content).2 =
        (s.backups.recordWrite t1 file content).2 := rfl
    have hc := recordWrite_changes h.store.rooted t1 file content
    rw [hrecord, hc.file? (ne_manifest_of_away h.inside.away) fun h => h]
    exact hfile

/-- A file without records is not given back. -/
theorem not_givesBack_of_history (h : s.backups.history file = []) (content : Option ByteArray) :
    ¬ s.GivesBack file content := by
  rintro ⟨⟨v, hv⟩, hall⟩
  obtain ⟨e, t', hr, -⟩ := hall ⟨0⟩ v hv
  have hnone : s.editor.backups.restore s.tree file none = .ok (false, s.tree) ∨
      ∃ f, s.editor.backups.restore s.tree file none = .error f := by
    have hhistory : s.editor.backups.history file = [] := h
    unfold restore Backups.find
    cases hc : file.checked with
    | error f => exact .inr ⟨f, rfl⟩
    | ok q =>
      obtain ⟨-, rfl⟩ := checked_eq_ok.1 hc
      simp only [Except.mapError, bind, Except.bind, hhistory]
      exact .inl rfl
  unfold Editor.rollback at hr
  rcases hnone with hnone | ⟨f, hnone⟩
  · simp only [hv, hnone, bind, Except.bind] at hr
    cases hr
  · simp only [hv, hnone, bind, Except.bind] at hr
    cases hr

/-- Without records nothing is given back. -/
theorem not_givesBack_of_empty (h : s.backups.index = []) (content : Option ByteArray) :
    ¬ s.GivesBack file content := by
  refine not_givesBack_of_history ?_ content
  unfold history
  rw [h]
  rfl

/-- What a file can be given back does not change while others are worked on. -/
theorem Run.recovers (h : s.backups.Recovers lasting s.tree file content) (hs : s.IsOpen)
    (hrun : Run (s.backups.Others file) lasting s s') :
    s'.backups.Recovers lasting s'.tree file content := by
  have hout (q : Path) (hq : s.backups.Others file q) : ¬ s.backups.place <+: q := hq.1
  induction hrun with
  | start => exact h
  | act before act ih =>
    obtain ⟨ho, hr, hd⟩ := before.isOpen hs hout
    rw [← Others.congr hr hd] at act
    exact ih.works (act.works ho fun q hq => hq.1).1
  | reload before may reload ih =>
    obtain ⟨ho, -, -⟩ := before.isOpen hs hout
    obtain ⟨hl, hd, -⟩ := reload.loaded ho
    exact ih.loaded may hl hd

/-- Where a directory lies in the place of the manifest, the records are gone when the project is
opened anew. -/
theorem Opened.forgets {root : Path} {settings : Settings.Both} (h : Opened root settings s0)
    (hs : s.IsOpen) (hr : s.backups.root = s0.backups.root)
    (hd : s.backups.directory = s0.backups.directory) (ha : s.backups.available = true)
    (hm : s.tree.node? s.backups.manifestPath.resolve = some .directory) :
    ∃ s', Reload s s' ∧ s'.backups.index = [] := by
  obtain ⟨t, -, -, hopened⟩ := h.opened
  obtain ⟨-, hload⟩ := ofSettings_eq_ok hopened
  have hplace := h.legible.resolve
  have hl0 := load_eq_ok hplace.isPlain.isLegible hload
  have hdirectory : s0.workspace.editor.backups.directory = s.backups.directory := hd.symm
  have hmanifest : s0.workspace.editor.backups.manifestPath = s.backups.manifestPath :=
    manifestPath_congr hdirectory
  have hc : Changes nowhere nowhere s.tree (s.tree.ensureDirectory s.backups.directory).2 :=
    ensureDirectory_changes s.tree hs.store.rooted.directory
  have hindex : loadIndex (s.tree.ensureDirectory s0.workspace.editor.backups.directory).2
      s0.workspace.editor.backups.manifestPath = .ok [] := by
    obtain ⟨n, hfind⟩ := hs.store.found ha
    have hnode := hc.directory hm
    have hfound := hc.find hfind
    rw [hnode] at hfound
    rw [hdirectory, hmanifest]
    exact loadIndex_of_not_file hfound rfl
  obtain ⟨b1, hload1, hd1, hempty⟩ := load_again hload hindex
  obtain ⟨w1, hopened1, rfl⟩ := ofSettings_again hopened hload1
  exact ⟨⟨w1, _⟩, .reopen hopened1 (hl0.root.symm.trans hr.symm) (hd1.trans hdirectory), hempty⟩

/-- A change that was made in an open project, of a file that lies in it, while the clock did not go
on. -/
structure Made (root : Path) (settings : Settings.Both) (s0 s : Session) (now : Readings)
    (payload : Value) (plan : Plan) : Prop where
  opened : Opened root settings s0
  reached : Run (fun q => ¬ s0.backups.place <+: q) True s0 s
  planned : s.workspace.Plans s.tree now payload plan
  succeeded : ∃ e, (s.workspace.apply s.tree now payload).1.outcome = .ok e
  keeps : keepsDays s.backups.settings
  prompt : now.IsPrompt
  inside : s.backups.IsInside plan.source
  outside : ∀ q ∈ plan.files, ¬ s.backups.place <+: q

/-- A change that was made is taken back by rolling back, after anything that is done to other files
while the project stays open; and also if it is opened anew meanwhile, unless a directory lies in the
place of the manifest. -/
theorem rollback_takes_apply_back {root : Path} {settings : Settings.Both} {now : Readings}
    {payload : Value} {plan : Plan} (h : Made root settings s0 s now payload plan) :
    (∀ s', Run (s.backups.Others plan.source) False (s.applied now payload) s' →
      s'.GivesBack plan.source (s.tree.file? plan.source)) ∧
    ((∀ s', Run (s.backups.Others plan.source) True (s.applied now payload) s' →
        s'.GivesBack plan.source (s.tree.file? plan.source)) ↔
      (s.applied now payload).tree.node? s.backups.manifestPath.resolve ≠ some .directory) := by
  obtain ⟨hs, hr, hd⟩ := h.reached.isOpen h.opened.isOpen fun _ hq => hq
  obtain ⟨e, hok⟩ := h.succeeded
  obtain ⟨havailable, content, hcontent, hrecovers⟩ :=
    Workspace.apply_recovers hs.store h.planned hok h.keeps h.prompt h.inside h.outside
  have hact : Act (fun q => ¬ s.backups.place <+: q) s (s.applied now payload) :=
    .apply now payload fun plan' hplan' => hplan'.unique h.planned ▸ h.outside
  have hworks := (hact.works hs fun _ hq => hq).1
  have hopen := hact.isOpen hs fun _ hq => hq
  have hothers : (s.applied now payload).backups.Others plan.source =
      s.backups.Others plan.source := Others.congr hworks.root hworks.directory _
  have hgives : ∀ s', Run (s.backups.Others plan.source)
      ((s.applied now payload).tree.node? s.backups.manifestPath.resolve ≠ some .directory)
      (s.applied now payload) s' → s'.GivesBack plan.source (some content) := by
    intro s' hrun
    rw [← hothers] at hrun
    exact givesBack_of_recovers (Run.recovers hrecovers hopen hrun)
  rw [hcontent]
  refine ⟨fun s' hrun => hgives s' (hrun.mono False.elim), ?_, ?_⟩
  · intro hall hm
    rw [← manifestPath_congr hworks.directory] at hm
    obtain ⟨s', hreload, hempty⟩ := h.opened.forgets hopen (hworks.root.trans hr)
      (hworks.directory.trans hd) havailable hm
    exact not_givesBack_of_empty hempty _ (hall s' (.reload .start trivial hreload))
  · exact fun hfree s' hrun => hgives s' (hrun.mono fun _ => hfree)

/-! ### Two projects -/

/-- The settings in force where none are given. -/
def defaults : Settings.Both := ⟨Section.resolution.defaults, Section.modification.defaults⟩

/-- The project in `w`, just opened. -/
def fresh (t : Tree) : Session :=
  match Workspace.ofSettings t ["w"] defaults with
  | .ok (w, t) => ⟨w, t⟩
  | .error _ => ⟨Workspace.smallWorkspace, t⟩

/-- The same once it was asked for its framework. -/
def asked (t : Tree) : Session :=
  { fresh t with
    workspace.resolver.detected := some (Detection.plain .react Detection.endingConfidence
      "JSX/TSX files found in file system") }

/-- Asks for a colour. -/
def redIn (file : String) : Value :=
  .table [("styles", .table [("color", .str "red")]),
    ("sourceInfo", .table [("filePath", .str file), ("lineNumber", .int 1)])]

/-- The project after the colour was changed. -/
def reddened (t : Tree) (file : String) : Session := (asked t).applied .zero (redIn file)

/-- A source file in a directory that has the name of the manifest. -/
def nestedTree : Tree :=
  ⟨[(["w"], .directory), (["w", "manifest.json"], .directory),
    (["w", "manifest.json", "App.jsx"], .file "<div>x</div>\n".toUTF8)]⟩

theorem ofSettings_fresh {t : Tree} (h : (Workspace.ofSettings t ["w"] defaults).isOk = true) :
    Workspace.ofSettings t ["w"] defaults = .ok ((fresh t).workspace, (fresh t).tree) := by
  unfold fresh
  split
  · next hopened => exact hopened
  · next hfault =>
    rw [hfault] at h
    cases h

theorem opened_fresh {t : Tree} (ht : t.IsProper)
    (h : (Workspace.ofSettings t ["w"] defaults).isOk = true ∧
      t.file? (fresh t).backups.manifestPath.resolve = none) :
    Opened ["w"] defaults (fresh t) :=
  ⟨(by decide : Path.IsPlace ["w"]).isPlain.isLegible, t, ht, h.2, ofSettings_fresh h.1⟩

/-- What a change that is asked for in a project that was just opened takes to be made. -/
theorem exists_made (t : Tree) (payload : Value) (below : Path) (ht : t.IsProper)
    (hplace : Path.IsPlace ("w" :: below)) (hbelow : below ≠ [] ∧ below.head? ≠ some outside)
    (haway : ¬ ["w", ".sourcelens-backups"] <+: "w" :: below)
    (hfresh : (Workspace.ofSettings t ["w"] defaults).isOk = true ∧
      t.file? (fresh t).backups.manifestPath.resolve = none)
    (hasked : (asked t).backups.root = ["w"] ∧
      (asked t).backups.place = ["w", ".sourcelens-backups"] ∧
      ((asked t).backups.settings.value "auto_cleanup_days").toBinary? = some (.finite 7) ∧
      ((asked t).workspace.planOf? (asked t).tree .zero payload).map
        (fun p => (p.source, p.files)) = some ("w" :: below, ["w" :: below]) ∧
      ((asked t).workspace.apply (asked t).tree .zero payload).1.edited?.isSome = true) :
    ∃ plan, Made ["w"] defaults (fresh t) (asked t) .zero payload plan ∧
      plan.source = "w" :: below := by
  obtain ⟨hroot, hstore, hkeeps, hplan, hedited⟩ := hasked
  obtain ⟨plan, hmake, heq⟩ := Option.map_eq_some_iff.1 hplan
  obtain ⟨hsource, hfiles⟩ := Prod.mk.inj heq
  obtain ⟨e, he⟩ := Option.isSome_iff_exists.1 hedited
  refine ⟨plan, ?_, hsource⟩
  exact {
    opened := opened_fresh ht hfresh
    reached := .act .start (.look rfl rfl)
    planned := Workspace.planOf?_eq_some.1 hmake
    succeeded := ⟨e, Workspace.toOption_eq_some.1 he⟩
    keeps := ⟨.finite 7, hkeeps, by decide⟩
    prompt := Readings.isPrompt_still _
    inside := by
      rw [hsource]
      exact ⟨hplace, ⟨below, hbelow.1, by rw [hroot]; rfl, hbelow.2⟩, hstore ▸ haway⟩
    outside := by
      intro q hq
      rw [hfiles] at hq
      rw [List.mem_singleton.1 hq, hstore]
      exact haway }

/-- A change in a project of one source file is taken back, also after it was opened anew. -/
theorem rollback_takes_apply_back_small :
    ∃ plan, Made ["w"] defaults (fresh Workspace.smallTree) (asked Workspace.smallTree) .zero
      (redIn "App.jsx") plan ∧ plan.source = ["w", "App.jsx"] ∧
    ∀ s', Run ((asked Workspace.smallTree).backups.Others plan.source) True
      (reddened Workspace.smallTree "App.jsx") s' →
        s'.GivesBack plan.source (some "<div>x</div>\n".toUTF8) := by
  obtain ⟨plan, hmade, hsource⟩ := exists_made Workspace.smallTree (redIn "App.jsx") ["App.jsx"]
    Workspace.smallTree_isProper (by decide) (by decide) (by decide) (by decide +kernel)
    (by decide +kernel)
  have hafter : (asked Workspace.smallTree).tree.file? ["w", "App.jsx"] =
        some "<div>x</div>\n".toUTF8 ∧
      ((reddened Workspace.smallTree "App.jsx").tree.file?
        (asked Workspace.smallTree).backups.manifestPath.resolve).isSome = true := by
    decide +kernel
  obtain ⟨hcontent, hmanifest⟩ := hafter
  have hgives := (rollback_takes_apply_back hmade).2.2
    (node?_ne_directory (Option.isSome_iff_exists.1 hmanifest))
  rw [hsource, hcontent] at hgives
  exact ⟨plan, hmade, hsource, hsource ▸ hgives⟩

/-- A change of a file in a directory with the name of the manifest cannot be taken back once the
project was opened anew: the directory for its copy lies in the place of the manifest. -/
theorem reopening_forgets_apply :
    ∃ plan, Made ["w"] defaults (fresh nestedTree) (asked nestedTree) .zero
      (redIn "manifest.json/App.jsx") plan ∧
    ¬ ∀ s', Run ((asked nestedTree).backups.Others plan.source) True
      (reddened nestedTree "manifest.json/App.jsx") s' →
        s'.GivesBack plan.source ((asked nestedTree).tree.file? plan.source) := by
  obtain ⟨plan, hmade, -⟩ := exists_made nestedTree (redIn "manifest.json/App.jsx")
    ["manifest.json", "App.jsx"] (Tree.isProper_of_entries (by decide)) (by decide) (by decide)
    (by decide) (by decide +kernel) (by decide +kernel)
  have hafter : (Workspace.ofSettings (reddened nestedTree "manifest.json/App.jsx").tree ["w"]
        defaults).isOk = true ∧
      (reddened nestedTree "manifest.json/App.jsx").backups.root = ["w"] ∧
      (fresh (reddened nestedTree "manifest.json/App.jsx").tree).backups.directory =
        (reddened nestedTree "manifest.json/App.jsx").backups.directory ∧
      (fresh (reddened nestedTree "manifest.json/App.jsx").tree).backups.index.isEmpty = true := by
    decide +kernel
  obtain ⟨hopens, hroot, hdirectory, hempty⟩ := hafter
  have hreload : Reload (reddened nestedTree "manifest.json/App.jsx")
      (fresh (reddened nestedTree "manifest.json/App.jsx").tree) :=
    .reopen (ofSettings_fresh hopens) hroot.symm hdirectory
  exact ⟨plan, hmade, fun hall => not_givesBack_of_empty (List.isEmpty_iff.1 hempty) _
    (hall _ (.reload .start trivial hreload))⟩

end Session

end Restyle
