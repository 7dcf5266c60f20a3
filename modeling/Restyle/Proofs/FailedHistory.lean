import Restyle.Proofs.CopiedFiles

/-!
What a change that fails does to the histories of files, and so to what they can be given back
afterwards. A file that was copied before the change failed goes back to what it had just before.
-/
namespace Restyle

open Restyle.Tree

namespace Backups

variable {b : Backups} {t t' : Tree} {file : Path}

/-- Where a restore succeeds, the newest copy was read and written over the file. -/
theorem restore_newest (h : b.restore t file none = .ok (true, t')) :
    ∃ e c bytes, (b.history file).getLast? = some e ∧ copyOf e = .ok (some c) ∧
      t.read c = .ok bytes ∧ t.write file bytes = .ok t' := by
  unfold restore Backups.find at h
  cases hchecked : file.checked with
  | error f =>
    simp only [hchecked, Except.mapError, bind, Except.bind] at h
    cases h
  | ok path =>
    obtain ⟨-, rfl⟩ := checked_eq_ok.1 hchecked
    simp only [hchecked, Except.mapError, bind, Except.bind] at h
    cases hlast : (b.history path).getLast? with
    | none =>
      rw [hlast] at h
      cases h
    | some e =>
      simp only [hlast] at h
      cases hcopy : copyOf e with
      | error f =>
        rw [hcopy] at h
        cases h
      | ok copy =>
        simp only [hcopy, Except.map, Except.ok.injEq] at h
        cases copy with
        | none => cases h
        | some c =>
          cases hread : t.read c with
          | error _ =>
            simp only [Option.bind_some, hread, Except.toOption] at h
            cases h
          | ok bytes =>
            simp only [Option.bind_some, hread, Except.toOption] at h
            cases hwrite : t.write path bytes with
            | error _ =>
              rw [hwrite] at h
              cases h
            | ok t1 =>
              rw [hwrite] at h
              cases h
              exact ⟨e, c, bytes, rfl, hcopy, hread, hwrite⟩

end Backups

/-- A stylesheet of which a text was read is there. -/
theorem SheetPlan.read_of_read {t : Tree} {p : Path} {text : String}
    (h : SheetPlan.read t p = .ok (some text)) : t.read p = .ok text.toUTF8 := by
  unfold SheetPlan.read at h
  split at h
  · cases h
  · cases h
  · cases hr : Component.readText t p with
    | error f =>
      rw [hr] at h
      cases h
    | ok text' =>
      rw [hr] at h
      cases h
      exact Plan.read_of_readText hr

namespace Workspace

/-- A request that fails leaves all as it is, or was for a plan that was begun. -/
theorem apply_failed_cases {w : Workspace} {t : Tree} {now : Readings} {payload : Value}
    {p : Problem} (h : w.editor.backups.IsStore t)
    (hout : ∀ plan, w.Plans t now payload plan → ∀ q ∈ plan.files,
      ¬ w.editor.backups.place <+: q)
    (hfail : (w.apply t now payload).1.outcome = .error p) :
    ((w.apply t now payload).2.1.editor.backups = w.editor.backups ∧
      (w.apply t now payload).2.2 = t) ∨
    ∃ plan, w.Plans t now payload plan ∧
      plan.CarriedOut now w.editor.backups t (w.apply t now payload).2.1.editor.backups
        (w.apply t now payload).2.2 := by
  have happly := w.apply_cases t now payload
  revert happly hfail
  generalize w.apply t now payload = r
  intro hfail happly
  cases happly with
  | unplanned fails editor => exact .inl ⟨by rw [editor], rfl⟩
  | @done plan f styles e report b w' t1 events planned carried succeeds editor =>
    rw [succeeds] at hfail
    cases hfail
  | @failed plan f styles p' report b w' t' planned carried fails editor =>
    have hcarried := Plan.carryOut_carriedOut h f now styles
      (planned.source_isPlace h.proper).isPlain.isLegible (planned.sheet_isLegible h.rooted)
      (hout plan planned)
    rw [carried] at hcarried
    rw [editor]
    exact .inr ⟨plan, planned, hcarried⟩

/-- A file that is there lies apart from those that a plan copies. -/
theorem Plans.apart {w : Workspace} {t : Tree} {now : Readings} {payload : Value} {plan : Plan}
    (h : w.Plans t now payload plan) (hb : w.editor.backups.IsRooted) {file q : Path}
    {n : Option Node} (hin : w.editor.backups.IsInside file) (hthere : t.find file = .ok (q, n)) :
    w.editor.backups.Apart (· ∈ plan.copied) file := by
  refine hin.apart fun place hplace => ?_
  rcases List.mem_cons.1 hplace with rfl | hplace
  · exact Backups.ne_root_of_read hb hin hthere (Plan.read_of_readText h.isFor.1.before)
  · obtain ⟨path, hpath, rfl⟩ := List.mem_map.1 hplace
    rw [Option.mem_toList] at hpath
    unfold Plan.sheetToCopy at hpath
    obtain ⟨s, hsome, rfl⟩ := Option.map_eq_some_iff.1 hpath
    obtain ⟨hsheet, hcurrent⟩ := Option.filter_eq_some_iff.1 hsome
    obtain ⟨name, -, -, hread⟩ := h.isFor.1.sheet s hsheet
    obtain ⟨text, htext⟩ := Option.isSome_iff_exists.1 hcurrent
    rw [htext] at hread
    exact Backups.ne_root_of_read hb hin hthere (SheetPlan.read_of_read hread)

end Workspace

namespace Session

open Backups

variable {s s0 s' : Session} {file : Path}

theorem GivesBack.unique {content content' : Option ByteArray} (h : s.GivesBack file content)
    (h' : s.GivesBack file content') : content = content' := by
  obtain ⟨v, hv⟩ := h.1
  obtain ⟨e, t', hr, hfile⟩ := h.2 ⟨0⟩ v hv
  obtain ⟨e', t'', hr', hfile'⟩ := h'.2 ⟨0⟩ v hv
  rw [hr] at hr'
  cases hr'
  exact hfile.symm.trans hfile'

/-- What a file is given back is in its newest copy. -/
theorem holds_of_givesBack (hs : s.IsOpen) (hin : s.backups.IsInside file) {content : ByteArray}
    (h : s.GivesBack file (some content)) : s.backups.Holds s.tree file content := by
  obtain ⟨⟨v, hv⟩, hall⟩ := h
  obtain ⟨e, t', hr, hfile⟩ := hall ⟨0⟩ v hv
  have hplace := hin.place
  rcases Workspace.rollback_cases hv hplace.isPlain.isLegible hr with
    ⟨hno, -⟩ | ⟨-, t1, bytes, hrestore, -, -, -, rfl⟩
  · cases hno
  obtain ⟨e, c, content', hlast, hcopy, hread, hwrite⟩ := restore_newest hrestore
  rw [history_eq hplace] at hlast
  have hrecord := hs.store.index.isRecord hplace (List.mem_of_getLast? hlast)
  rw [hrecord.copyOf_eq hs.store.rooted hplace] at hcopy
  cases hcopy
  have hwritten : t1.file? file = some content' := by
    have hfind := find_of_write hplace.isPlain.isLegible hwrite
    rw [Path.resolve_of_isPlace hplace] at hfind
    exact file?_of_find hfind
  have hc := recordWrite_changes hs.store.rooted t1 file bytes
  have hsame := hc.file? (ne_manifest_of_away hin.away) fun h => h
  cases (hsame.trans hwritten).symm.trans hfile
  refine ⟨e, hlast, ?_⟩
  rw [← resolve_copyPath s.backups hplace]
  exact read_eq_ok.1 hread

/-- A change that fails in an open project, of files outside of the directory for backups. -/
structure Failed (root : Path) (settings : Settings.Both) (s0 s : Session) (now : Readings)
    (payload : Value) : Prop where
  opened : Opened root settings s0
  reached : Run (fun q => ¬ s0.backups.place <+: q) True s0 s
  failed : ∃ p, (s.workspace.apply s.tree now payload).1.outcome = .error p
  outside : ∀ plan, s.workspace.Plans s.tree now payload plan → ∀ q ∈ plan.files,
    ¬ s.backups.place <+: q

/-- The store after a change that failed is in order, and files that were there are still. -/
theorem Failed.isOpen {root : Path} {settings : Settings.Both} {now : Readings} {payload : Value}
    (h : Failed root settings s0 s now payload) :
    s.IsOpen ∧ (s.applied now payload).IsOpen ∧
      (s.applied now payload).backups.root = s.backups.root ∧
      (s.applied now payload).backups.directory = s.backups.directory := by
  obtain ⟨hs, hr, hd⟩ := h.reached.isOpen h.opened.isOpen fun _ hq => hq
  have hact : Act (fun q => ¬ s.backups.place <+: q) s (s.applied now payload) :=
    .apply now payload h.outside
  have hw := (hact.works hs fun _ hq => hq).1
  exact ⟨hs, hact.isOpen hs fun _ hq => hq, hw.root, hw.directory⟩

/-- What became of the records and of the newest copy of a file that is there. -/
theorem Failed.fate {root : Path} {settings : Settings.Both} {now : Readings} {payload : Value}
    (h : Failed root settings s0 s now payload) (hin : s.backups.IsInside file)
    {old : ByteArray} (hread : s.tree.read file = .ok old) :
    Fate True now s.backups s.tree file (s.applied now payload).backups
        (s.applied now payload).tree ∧
      ∃ bytes, (s.applied now payload).tree.find file = .ok (file, some (.file bytes)) := by
  obtain ⟨hs, -, -, -⟩ := h.isOpen
  obtain ⟨p, hp⟩ := h.failed
  have hthere := read_eq_ok.1 hread
  rw [Path.resolve_of_isPlace hin.place] at hthere
  rcases Workspace.apply_failed_cases hs.store h.outside hp with
    ⟨hbackups, htree⟩ | ⟨plan, hplan, hcarried⟩
  · have hbackups' : (s.applied now payload).backups = s.backups := hbackups
    have htree' : (s.applied now payload).tree = s.tree := htree
    rw [hbackups', htree']
    exact ⟨.refl, old, hthere⟩
  · have hapart := hplan.apart hs.store.rooted hin hthere
    obtain ⟨bytes, hn⟩ := hcarried.changes.isFile hin.away (node?_of_find hthere)
    refine ⟨(hcarried.fate file hin.place).imp fun _ => hapart, bytes, ?_⟩
    have hfind := hcarried.changes.find hthere
    rw [hn] at hfind
    exact hfind

theorem Failed.givesBack {root : Path} {settings : Settings.Both} {now : Readings} {payload : Value}
    (h : Failed root settings s0 s now payload) (hin : s.backups.IsInside file)
    {old content : ByteArray} (hread : s.tree.read file = .ok old)
    (hholds : (s.applied now payload).backups.Holds (s.applied now payload).tree file content) :
    (s.applied now payload).GivesBack file (some content) := by
  obtain ⟨-, hs', hr, hd⟩ := h.isOpen
  have hthere := (h.fate hin hread).2
  have hrecovers : (s.applied now payload).backups.Recovers False (s.applied now payload).tree
      file content := ⟨hs'.store, hin.congr hr hd, hholds, hthere, fun h => h.elim⟩
  exact givesBack_of_recovers hrecovers

/-- Where the history has changed, rolling back gives what the file had just before. -/
theorem Failed.givesBack_old {root : Path} {settings : Settings.Both} {now : Readings}
    {payload : Value} (h : Failed root settings s0 s now payload) (hin : s.backups.IsInside file)
    {old : ByteArray} (hread : s.tree.read file = .ok old)
    (hne : (s.applied now payload).backups.history file ≠ s.backups.history file)
    (hsome : (s.applied now payload).backups.history file ≠ []) :
    (s.applied now payload).GivesBack file (some old) := by
  rw [history_eq hin.place, history_eq hin.place] at hne
  rw [history_eq hin.place] at hsome
  cases (h.fate hin hread).1 with
  | kept records copy => exact absurd records hne
  | swept records sweeps => exact absurd records hsome
  | @renewed e bytes before newest later hash unwritten found copy =>
    have hn := node?_of_read hread
    rw [Path.resolve_of_isPlace hin.place] at hn
    have hold : bytes = old := Option.some.inj (before.symm.trans (file?_eq_some.2 hn))
    exact h.givesBack hin hread (hold ▸ copy trivial)

/-- Where it has not, the file can be given back what it could be before. -/
theorem Failed.givesBack_same {root : Path} {settings : Settings.Both} {now : Readings}
    {payload : Value} (h : Failed root settings s0 s now payload) (hin : s.backups.IsInside file)
    {old target : ByteArray} (hread : s.tree.read file = .ok old)
    (hsame : (s.applied now payload).backups.history file = s.backups.history file)
    (htarget : s.GivesBack file (some target)) :
    (s.applied now payload).GivesBack file (some target) := by
  cases (h.fate hin hread).1 with
  | kept records copy =>
    exact h.givesBack hin hread (copy trivial target (holds_of_givesBack h.isOpen.1 hin htarget))
  | swept records sweeps =>
    have hnil : s.backups.history file = [] := by
      rw [← hsame, history_eq hin.place, records]
    exact absurd htarget (not_givesBack_of_history hnil _)
  | @renewed e bytes before newest later hash unwritten found copy =>
    rw [history_eq hin.place, history_eq hin.place] at hsame
    have hlt := later e (hsame ▸ List.mem_of_getLast? newest)
    omega

/-- After a change that failed the history of each file is what it was, or the file was to be copied
and its newest record is new, unless that was too old at once and none is left. Rolling back the file
then gives what it had just before the change; so the file keeps what it can be given back iff its
history has not changed, or it had just that. -/
theorem rollback_after_failure {root : Path} {settings : Settings.Both} {now : Readings}
    {payload : Value} (h : Failed root settings s0 s now payload) :
    (∀ q : Path, q.IsPlace →
      (s.applied now payload).backups.history q = s.backups.history q ∨
        (∃ plan, s.workspace.Plans s.tree now payload plan ∧ q ∈ plan.copied) ∧
        ((s.applied now payload).backups.history q = [] ∧ Sweeps s.backups.settings now ∨
          s.backups.Renews s.tree (s.applied now payload).backups q)) ∧
    ∀ q old, s.backups.IsInside q → s.tree.read q = .ok old →
      ((s.applied now payload).backups.history q ≠ s.backups.history q →
        (s.applied now payload).backups.history q ≠ [] →
        (s.applied now payload).GivesBack q (some old)) ∧
      ∀ target, s.GivesBack q (some target) →
        ((s.applied now payload).GivesBack q (some target) ↔
          (s.applied now payload).backups.history q = s.backups.history q ∨
          (s.applied now payload).backups.history q ≠ [] ∧ old = target) := by
  have hs := h.isOpen.1
  constructor
  · intro q hq
    obtain ⟨p, hp⟩ := h.failed
    rcases Workspace.apply_failed_cases hs.store h.outside hp with
      ⟨hbackups, -⟩ | ⟨plan, hplan, hcarried⟩
    · have hsame : (s.applied now payload).backups = s.backups := hbackups
      exact .inl (by rw [hsame])
    · by_cases hmem : q ∈ plan.copied
      · rcases (hcarried.fate q hq).cases hq with hsame | hafter
        · exact .inl hsame
        · exact .inr ⟨⟨plan, hplan, hmem⟩, hafter⟩
      · rw [history_eq hq, history_eq hq]
        exact .inl (hcarried.others q hq hmem)
  · intro q old hin hread
    refine ⟨h.givesBack_old hin hread, fun target htarget => ?_⟩
    by_cases hsame : (s.applied now payload).backups.history q = s.backups.history q
    · exact ⟨fun _ => .inl hsame, fun _ => h.givesBack_same hin hread hsame htarget⟩
    · constructor
      · intro hgives
        have hsome : (s.applied now payload).backups.history q ≠ [] := fun hnil =>
          not_givesBack_of_history hnil _ hgives
        have hold := (h.givesBack_old hin hread hsame hsome).unique hgives
        exact .inr ⟨hsome, Option.some.inj hold⟩
      · rintro (h' | ⟨hsome, rfl⟩)
        · exact absurd h' hsame
        · exact h.givesBack_old hin hread hsame hsome

/-! ### A change that fails after the backup -/

/-- What a change may write, from what is planned for it. -/
theorem within_of_planOf? {now : Readings} {payload : Value} {files : List Path} {Q : Path → Prop}
    (h : (s.workspace.planOf? s.tree now payload).map Plan.files = some files)
    (hQ : ∀ q ∈ files, Q q) :
    ∀ plan, s.workspace.Plans s.tree now payload plan → ∀ q ∈ plan.files, Q q := by
  intro plan hplan
  rw [Workspace.planOf?_eq_some.2 hplan] at h
  cases h
  exact hQ

theorem holds_of_latest {b : Backups} {t : Tree} (hf : file.IsPlace) {bytes : ByteArray}
    (h : ((b.latest? file).bind fun e =>
      (t.read (b.copyPath file e.timestamp)).toOption) = some bytes) : b.Holds t file bytes := by
  obtain ⟨e, he, hread⟩ := Option.bind_eq_some_iff.1 h
  have hlast : (b.history file).getLast? = some e := he
  have hfind := read_eq_ok.1 (Workspace.toOption_eq_some.1 hread)
  rw [history_eq hf] at hlast
  rw [resolve_copyPath b hf] at hfind
  exact ⟨e, hlast, hfind⟩

/-- A project whose source was changed once. -/
def changedOnce : Session := reddened Workspace.smallTree "App.jsx"

/-- The source after that. -/
def redText : String := "<div style=\x7b\x7b color: 'red' \x7d\x7d>x</div>\n"

theorem changedOnce_values :
    changedOnce.backups.root = ["w"] ∧
    changedOnce.backups.place = ["w", ".sourcelens-backups"] ∧
    (changedOnce.tree.read ["w", "App.jsx"]).toOption = some redText.toUTF8 ∧
    ((changedOnce.backups.latest? ["w", "App.jsx"]).bind fun e => (changedOnce.tree.read
      (changedOnce.backups.copyPath ["w", "App.jsx"] e.timestamp)).toOption) =
        some "<div>x</div>\n".toUTF8 ∧
    (changedOnce.workspace.planOf? changedOnce.tree .zero Workspace.halfColor).map Plan.files =
      some [["w", "App.jsx"]] ∧
    (changedOnce.workspace.apply changedOnce.tree .zero Workspace.halfColor).1.edited?.isSome =
      false ∧
    (changedOnce.backups.history ["w", "App.jsx"]).length = 1 ∧
    ((changedOnce.applied .zero Workspace.halfColor).backups.history ["w", "App.jsx"]).length =
      2 := by
  decide +kernel

theorem smallTree_opened : Opened ["w"] defaults (fresh Workspace.smallTree) :=
  opened_fresh Workspace.smallTree_isProper (by decide +kernel)

/-- The first change writes no file of the store. -/
theorem changedOnce_within :
    ∀ plan, (asked Workspace.smallTree).workspace.Plans (asked Workspace.smallTree).tree .zero
      (redIn "App.jsx") plan → ∀ q ∈ plan.files,
        ¬ (asked Workspace.smallTree).backups.place <+: q := by
  have hplan : ((asked Workspace.smallTree).workspace.planOf? (asked Workspace.smallTree).tree .zero
      (redIn "App.jsx")).map Plan.files = some [["w", "App.jsx"]] ∧
      (asked Workspace.smallTree).backups.place = ["w", ".sourcelens-backups"] := by
    decide +kernel
  refine within_of_planOf? hplan.1 ?_
  rw [hplan.2]
  decide

/-- The colour of half a name makes a second change of that project fail. -/
theorem changedOnce_failed :
    Failed ["w"] defaults (fresh Workspace.smallTree) changedOnce .zero Workspace.halfColor := by
  obtain ⟨-, hplace, -, -, hplan, hfails, -⟩ := changedOnce_values
  have hasked : Run (fun q => ¬ (fresh Workspace.smallTree).backups.place <+: q) True
      (fresh Workspace.smallTree) (asked Workspace.smallTree) := .act .start (.look rfl rfl)
  have hact : Act (fun q => ¬ (fresh Workspace.smallTree).backups.place <+: q)
      (asked Workspace.smallTree) changedOnce :=
    .apply .zero (redIn "App.jsx") changedOnce_within
  exact {
    opened := smallTree_opened
    reached := .act hasked hact
    failed := Workspace.exists_error_of_edited? hfails
    outside := by
      refine within_of_planOf? hplan ?_
      rw [hplace]
      decide }

/-- What the source is, and what it can be given back before the change that fails. -/
theorem changedOnce_givesBack :
    changedOnce.backups.IsInside ["w", "App.jsx"] ∧
    changedOnce.tree.read ["w", "App.jsx"] = .ok redText.toUTF8 ∧
    changedOnce.GivesBack ["w", "App.jsx"] (some "<div>x</div>\n".toUTF8) := by
  have hplace : Path.IsPlace ["w", "App.jsx"] := by decide
  obtain ⟨hroot, hstore, hread, hlatest, -⟩ := changedOnce_values
  have hin : changedOnce.backups.IsInside ["w", "App.jsx"] := by
    refine ⟨hplace, ⟨["App.jsx"], by decide, ?_, by decide⟩, ?_⟩
    · rw [hroot]
      rfl
    · rw [hstore]
      decide
  have hread' := Workspace.toOption_eq_some.1 hread
  have hthere := read_eq_ok.1 hread'
  rw [Path.resolve_of_isPlace hplace] at hthere
  have hrecovers : changedOnce.backups.Recovers False changedOnce.tree ["w", "App.jsx"]
      "<div>x</div>\n".toUTF8 :=
    ⟨changedOnce_failed.isOpen.1.store, hin, holds_of_latest hplace hlatest, ⟨_, hthere⟩,
      fun h => h.elim⟩
  exact ⟨hin, hread', givesBack_of_recovers hrecovers⟩

/-- The change that fails adds a record. -/
theorem changedOnce_history :
    (changedOnce.applied .zero Workspace.halfColor).backups.history ["w", "App.jsx"] ≠
      changedOnce.backups.history ["w", "App.jsx"] ∧
    (changedOnce.applied .zero Workspace.halfColor).backups.history ["w", "App.jsx"] ≠ [] := by
  obtain ⟨-, -, -, -, -, -, hone, htwo⟩ := changedOnce_values
  constructor
  · intro hsame
    rw [hsame, hone] at htwo
    cases htwo
  · intro hnil
    rw [hnil] at htwo
    cases htwo

theorem rollback_after_failure_half :
    Failed ["w"] defaults (fresh Workspace.smallTree) changedOnce .zero Workspace.halfColor ∧
    (changedOnce.applied .zero Workspace.halfColor).GivesBack ["w", "App.jsx"]
      (some redText.toUTF8) := by
  obtain ⟨hin, hread, -⟩ := changedOnce_givesBack
  obtain ⟨hne, hsome⟩ := changedOnce_history
  have hafter := (rollback_after_failure changedOnce_failed).2 _ _ hin hread
  exact ⟨changedOnce_failed, hafter.1 hne hsome⟩

/-- The change fails, and what the file could be given back before can no longer be given. -/
theorem failure_moves_target :
    Failed ["w"] defaults (fresh Workspace.smallTree) changedOnce .zero Workspace.halfColor ∧
    changedOnce.GivesBack ["w", "App.jsx"] (some "<div>x</div>\n".toUTF8) ∧
    (changedOnce.applied .zero Workspace.halfColor).backups.history ["w", "App.jsx"] ≠
      changedOnce.backups.history ["w", "App.jsx"] ∧
    ¬ (changedOnce.applied .zero Workspace.halfColor).GivesBack ["w", "App.jsx"]
      (some "<div>x</div>\n".toUTF8) := by
  obtain ⟨hin, hread, hgives⟩ := changedOnce_givesBack
  obtain ⟨hne, hsome⟩ := changedOnce_history
  refine ⟨changedOnce_failed, hgives, hne, fun hback => ?_⟩
  have hred := (changedOnce_failed.givesBack_old hin hread hne hsome).unique hback
  have hbytes : redText.toUTF8 ≠ "<div>x</div>\n".toUTF8 := by decide
  exact hbytes (Option.some.inj hred)

end Session

end Restyle
