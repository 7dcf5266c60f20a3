import Restyle.Proofs.Baseline
import Restyle.Proofs.ResolvedPath
import Restyle.Proofs.Rollback

/-!
Taking back a change with what it remembers of its files, right after it was made. Every file gets
the text that was read from it when the change was planned; where nothing was read, an empty one.
-/
namespace Restyle

open Restyle.Tree

namespace Ledger

/-- What files have once the former texts were written back, one after the other. -/
def giveBack (seen : Ledger) (ms : List Modification) : Ledger :=
  ms.foldl (fun seen m => Function.update seen m.path.resolve (some m.before.toUTF8)) seen

theorem giveBack_cons (seen : Ledger) (m : Modification) (ms : List Modification) :
    seen.giveBack (m :: ms) =
      giveBack (Function.update seen m.path.resolve (some m.before.toUTF8)) ms := rfl

theorem giveBack_congr {seen seen' : Ledger} {ms : List Modification} {q : Path}
    (h : seen q = seen' q) : seen.giveBack ms q = seen'.giveBack ms q := by
  induction ms generalizing seen seen' with
  | nil => exact h
  | cons m ms ih =>
    rw [giveBack_cons, giveBack_cons]
    apply ih
    by_cases hq : q = m.path.resolve
    · rw [hq, Function.update_self, Function.update_self]
    · rw [Function.update_of_ne hq, Function.update_of_ne hq, h]

end Ledger

namespace Backups

theorem recordWrite_frame (b : Backups) (t : Tree) (file : Path) (bytes : ByteArray) :
    (b.recordWrite t file bytes).1.root = b.root ∧
      (b.recordWrite t file bytes).1.directory = b.directory := by
  rcases recordWrite_cases b t file bytes with ⟨-, hr⟩ | ⟨-, hr⟩ <;> rw [hr] <;> exact ⟨rfl, rfl⟩

theorem IsRooted.recordWrite {b : Backups} (hb : b.IsRooted) (t : Tree) (file : Path)
    (bytes : ByteArray) : (b.recordWrite t file bytes).1.IsRooted := by
  obtain ⟨hr, hd⟩ := recordWrite_frame b t file bytes
  exact ⟨hr ▸ hb.root, hd ▸ hb.directory⟩

end Backups

namespace Plan

variable {p : Plan} {b b' : Backups} {t t' : Tree}

/-- The files that a plan has written are there. -/
theorem write_found (hp : p.source.IsLegible) (hs : ∀ s, p.sheet = some s → s.path.IsLegible)
    (h : p.write t = (.ok (), t')) :
    (∃ bytes, t'.find p.source = .ok (p.source.resolve, some (.file bytes))) ∧
      ∀ s, p.sheet = some s →
        ∃ bytes, t'.find s.path = .ok (s.path.resolve, some (.file bytes)) := by
  unfold write at h
  have hw := writeText_cases t hp p.after
  revert h hw
  generalize writeText t p.source p.after = r
  intro h hw
  cases hw with
  | refused write => cases h
  | emptied encode changes file => cases h
  | @done bytes t1 encode changes find =>
    simp only at h
    cases hsheet : p.sheet with
    | none =>
      rw [hsheet] at h
      cases h
      exact ⟨⟨bytes, find⟩, fun s hs => by cases hs⟩
    | some s =>
      rw [hsheet] at h
      simp only at h
      have hws := writeSheet_cases t1 (hs s hsheet)
      revert h hws
      generalize writeSheet t1 s = r
      intro h hws
      cases hws with
      | refused changes' ofText =>
        simp only at h
        split at h
        · split at h <;> cases h
        · cases h
      | emptied encode' changes' file' => cases h
      | @done bytes' t2 encode' changes' find' =>
        cases h
        obtain ⟨bytes1, hn⟩ := changes'.isFile (fun h => h) (node?_of_find find)
        refine ⟨⟨bytes1, by rw [changes'.find find, hn]⟩, fun s' hs' => ?_⟩
        cases hs'
        exact ⟨bytes', find'⟩

/-- What carrying out a plan remembers of its files. -/
theorem remembered_of_carryOut {f : Framework} {now : Readings} {styles : Style.Declarations}
    {e : Edited} (h : p.carryOut f b t now styles = (.ok e, b', t')) :
    e.modifications.map (fun m => (m.path, m.before)) =
      (p.source, p.before) :: p.sheet.toList.map fun s => (s.path, s.current.getD "") := by
  unfold carryOut at h
  split at h
  · cases h
  · split at h
    · cases h
    · split at h
      · cases h
      · cases h
        simp [sourceModification, sheetModification, Function.comp_def]

theorem carryOut_rooted (hb : b.IsRooted) (f : Framework) (now : Readings)
    (styles : Style.Declarations) :
    (p.carryOut f b t now styles).2.1.IsRooted ∧
      (p.carryOut f b t now styles).2.1.directory = b.directory := by
  have hcreate (b : Backups) (t : Tree) (path : Path) (reason : String) :
      (b.create t now path reason).2.1.directory = b.directory := by
    rw [Backups.create_frame]
  have hsheet {b : Backups} (hb : b.IsRooted) (t : Tree) : (p.backupSheet b t now).2.1.IsRooted ∧
      (p.backupSheet b t now).2.1.directory = b.directory := by
    unfold backupSheet
    split
    · exact ⟨hb, rfl⟩
    · next path _ =>
      have h1 := hb.create t now path sheetReason
      have h2 := hcreate b t path sheetReason
      split <;> next hr => rw [hr] at h1 h2; exact ⟨h1, h2⟩
  have h1 := hb.create t now p.source (sourceReason f)
  have h2 := hcreate b t p.source (sourceReason f)
  unfold carryOut
  split
  · next hr => rw [hr] at h1 h2; exact ⟨h1, h2⟩
  · next copy b1 t1 hr =>
    rw [hr] at h1 h2
    obtain ⟨h3, h4⟩ := hsheet h1 t1
    split
    · next hr => rw [hr] at h3 h4; exact ⟨h3, h4.trans h2⟩
    · next sheetCopy b2 t2 hr =>
      rw [hr] at h3 h4
      split <;> exact ⟨h3, h4.trans h2⟩

/-- Whether the former state of a file of the plan is not known: it is the stylesheet, and nothing
was found at its path when the change was planned, be it that there was nothing or that the path led
through a directory that was only made then. An empty file is what is written back in that case. -/
def Forgets (p : Plan) (t : Tree) (q : Path) : Prop :=
  q ≠ p.source.resolve ∧ (∃ s, p.sheet = some s ∧ s.current = none) ∧
    t.file? q ≠ some ByteArray.empty

/-- The text that was read from a stylesheet is what it has. -/
theorem file?_of_read {path : Path} {text : String}
    (h : SheetPlan.read t path = .ok (some text)) :
    t.file? path.resolve = some text.toUTF8 := by
  unfold SheetPlan.read at h
  split at h
  · cases h
  · cases h
  · cases hr : Component.readText t path with
    | error f =>
      rw [hr] at h
      cases h
    | ok s =>
      rw [hr] at h
      cases h
      exact file?_eq_some.2 (node?_of_read (read_of_readText hr))

/-- Writing back what a plan remembers gives a file what it had, unless that was forgotten. -/
theorem giveBack_eq_iff {root : Path} {sheet : Value} (hp : p.IsFor t root sheet p.source)
    {ms : List Modification}
    (hms : ms.map (fun m => (m.path, m.before)) =
      (p.source, p.before) :: p.sheet.toList.map fun s => (s.path, s.current.getD ""))
    (seen : Ledger) {m : Modification} (hm : m ∈ ms) :
    seen.giveBack ms.reverse m.path.resolve = t.file? m.path.resolve ↔
      ¬ p.Forgets t m.path.resolve := by
  have hsource : t.file? p.source.resolve = some p.before.toUTF8 :=
    file?_eq_some.2 (node?_of_read (read_of_readText hp.before))
  unfold Forgets
  cases ms with
  | nil => cases hm
  | cons first rest =>
    rw [List.map_cons] at hms
    obtain ⟨hfirst, hrest⟩ := List.cons.inj hms
    obtain ⟨hpath, hbefore⟩ := Prod.mk.inj hfirst
    -- the source is written last, so it has its text even if it is the stylesheet as well
    have hlast : seen.giveBack (first :: rest).reverse p.source.resolve =
        t.file? p.source.resolve := by
      rw [List.reverse_cons, Ledger.giveBack, List.foldl_append, List.foldl_cons, List.foldl_nil,
        hpath, hbefore, Function.update_self, hsource]
    by_cases hq : m.path.resolve = p.source.resolve
    · rw [hq, hlast]
      simp
    · have hmem : m ∈ rest := by
        rcases List.mem_cons.1 hm with rfl | hm
        · exact absurd (congrArg Path.resolve hpath) hq
        · exact hm
      cases hsheet : p.sheet with
      | none =>
        rw [hsheet] at hrest
        rw [List.map_eq_nil_iff.1 hrest] at hmem
        cases hmem
      | some s =>
        rw [hsheet] at hrest
        obtain ⟨m', rfl, hm'⟩ : ∃ m', rest = [m'] ∧ (m'.path, m'.before) =
            (s.path, s.current.getD "") := by
          simpa [List.map_eq_singleton_iff] using hrest
        obtain rfl := List.mem_singleton.1 hmem
        obtain ⟨hpath', hbefore'⟩ := Prod.mk.inj hm'
        obtain ⟨name, -, -, hread⟩ := hp.sheet s hsheet
        have hgiven : seen.giveBack (first :: [m]).reverse m.path.resolve =
            some (s.current.getD "").toUTF8 := by
          have hne : m.path.resolve ≠ first.path.resolve := hpath ▸ hq
          simp only [List.reverse_cons, List.reverse_nil, List.nil_append, List.singleton_append,
            Ledger.giveBack, List.foldl_cons, List.foldl_nil]
          rw [Function.update_of_ne hne, Function.update_self, hbefore']
        rw [hgiven]
        cases hc : s.current with
        | some text =>
          rw [hc] at hread
          rw [hpath', file?_of_read hread]
          simp [hc]
        | none =>
          simp [hq, hc, eq_comm]

end Plan

namespace Workspace

open Backups

variable {t t' : Tree}

theorem recordAll_frame {e : Editor} (hb : e.backups.IsRooted) (ms : List Modification) :
    Changes (· = e.backups.manifestPath.resolve) nowhere t (recordAll e t ms).2 ∧
      (recordAll e t ms).1.backups.IsRooted ∧
      (recordAll e t ms).1.backups.directory = e.backups.directory := by
  induction ms generalizing e t with
  | nil => exact ⟨.refl t, hb, rfl⟩
  | cons m ms ih =>
    obtain ⟨-, hd⟩ := recordWrite_frame e.backups t m.path m.after.toUTF8
    obtain ⟨hc, hr, hd'⟩ := ih (e := (e.record t m.path m.after.toUTF8).1)
      (t := (e.record t m.path m.after.toUTF8).2) (hb.recordWrite t m.path m.after.toUTF8)
    have hmanifest : (e.record t m.path m.after.toUTF8).1.backups.manifestPath =
        e.backups.manifestPath := manifestPath_congr hd
    rw [hmanifest] at hc
    exact ⟨(recordWrite_changes hb t m.path m.after.toUTF8).trans hc, hr, hd'.trans hd⟩

/-- Files that are there can all be written back, and have their former texts then. -/
theorem writeBack_done {e : Editor} (hb : e.backups.IsRooted) {ms : List Modification}
    (hms : ∀ m ∈ ms, m.path.IsLegible ∧
      ∃ bytes, t.find m.path.resolve = .ok (m.path.resolve, some (.file bytes))) :
    (e.writeBack t ms).1 = some (ms.map fun m => m.path.resolve) ∧
      ∀ q, q ≠ e.backups.manifestPath.resolve →
        (e.writeBack t ms).2.2.file? q = Ledger.giveBack t.file? ms q := by
  induction ms generalizing e t with
  | nil => exact ⟨rfl, fun q _ => rfl⟩
  | cons m ms ih =>
    obtain ⟨hlegible, bytes, hfind⟩ := hms m List.mem_cons_self
    have hplace := hlegible.resolve
    have hw := write_of_find hfind (by simp) m.before.toUTF8
    have hc := write_changes (R := nowhere) hplace.isPlain.isLegible hw
    have hfound := find_of_write hplace.isPlain.isLegible hw
    rw [Path.resolve_of_isPlace hplace] at hc hfound
    obtain ⟨-, hd⟩ := recordWrite_frame e.backups
      (t.put m.path.resolve (.file m.before.toUTF8)) m.path.resolve m.before.toUTF8
    have hrecord := recordWrite_changes hb (t.put m.path.resolve (.file m.before.toUTF8))
      m.path.resolve m.before.toUTF8
    have hstep : Changes (fun q => q = m.path.resolve ∨ q = e.backups.manifestPath.resolve) nowhere
        t (e.record (t.put m.path.resolve (.file m.before.toUTF8)) m.path.resolve
          m.before.toUTF8).2 :=
      (hc.mono (fun _ => .inl) fun _ h => h).trans (hrecord.mono (fun _ => .inr) fun _ h => h)
    have hmanifest : (e.record (t.put m.path.resolve (.file m.before.toUTF8)) m.path.resolve
        m.before.toUTF8).1.backups.manifestPath = e.backups.manifestPath := manifestPath_congr hd
    obtain ⟨hpaths, hfiles⟩ := ih
      (e := (e.record (t.put m.path.resolve (.file m.before.toUTF8)) m.path.resolve
        m.before.toUTF8).1)
      (hb.recordWrite _ _ _) fun m' hm' => by
        obtain ⟨hlegible', bytes', hfind'⟩ := hms m' (List.mem_cons_of_mem _ hm')
        obtain ⟨bytes'', hn⟩ := hstep.isFile (fun h => h) (node?_of_find hfind')
        exact ⟨hlegible', bytes'', by rw [hstep.find hfind', hn]⟩
    unfold Editor.writeBack
    simp only [hw]
    refine ⟨by rw [hpaths]; rfl, fun q hq => ?_⟩
    rw [hmanifest] at hfiles
    rw [hfiles q hq, Ledger.giveBack_cons]
    apply Ledger.giveBack_congr
    by_cases hqm : q = m.path.resolve
    · subst hqm
      rw [Function.update_self]
      exact (hrecord.file? hq fun h => h).trans (file?_of_find hfound)
    · rw [Function.update_of_ne hqm, hstep.file? (by simp [hqm, hq]) fun h => h]

/-- Taking back a change right after it was made succeeds. Each of its files but the manifest then
has just what it had before, unless that was not known when the change was planned. -/
theorem undo_restores_iff {w : Workspace} {now : Readings} {payload : Value} {plan : Plan}
    {u : Undo} (hb : w.editor.backups.IsRooted) (ht : t.IsProper) (hplan : w.Plans t now payload plan)
    (hu : (w.apply t now payload).1.undo? = some u) (later : Clock) :
    ((w.apply t now payload).2.1.editor.undo (w.apply t now payload).2.2 later u).1 = true ∧
    ∀ m ∈ u.modifications, m.path.resolve ≠ w.editor.backups.manifestPath.resolve →
      (((w.apply t now payload).2.1.editor.undo (w.apply t now payload).2.2 later u).2.2.file?
          m.path.resolve = t.file? m.path.resolve ↔ ¬ plan.Forgets t m.path.resolve) := by
  have happly := w.apply_cases t now payload
  revert happly hu
  generalize w.apply t now payload = r
  intro hu happly
  unfold EditReport.undo? at hu
  cases happly with
  | unplanned fails editor =>
    rw [fails] at hu
    cases hu
  | failed planned carried fails editor =>
    rw [fails] at hu
    cases hu
  | @done plan' f styles e report b w' t1 events planned carried succeeds editor =>
    rw [succeeds] at hu
    cases hu
    obtain rfl := planned.unique hplan
    have hsource := (planned.source_isPlace ht).isPlain.isLegible
    have hsheet := planned.sheet_isLegible hb
    have hremembered := Plan.remembered_of_carryOut carried
    obtain ⟨hrooted, hdirectory⟩ := Plan.carryOut_rooted (p := plan') (t := t) hb f now styles
    rw [carried] at hrooted hdirectory
    obtain ⟨t0, hwritten⟩ := Plan.written_last carried
    obtain ⟨⟨bytes, hfind⟩, hfindSheet⟩ := Plan.write_found hsource hsheet hwritten
    obtain ⟨hc, hrooted', hdirectory'⟩ :=
      recordAll_frame (t := t1) (e := { w.editor with backups := b }) hrooted e.modifications
    -- the files are still there, and their places can be asked for as well
    have hthere : ∀ m ∈ e.modifications.reverse, m.path.IsLegible ∧ ∃ bytes,
        (recordAll { w.editor with backups := b } t1 e.modifications).2.find m.path.resolve =
          .ok (m.path.resolve, some (.file bytes)) := by
      intro m hm
      have hpath : m.path = plan'.source ∨ ∃ s, plan'.sheet = some s ∧ m.path = s.path := by
        have hmem := List.mem_map_of_mem (f := fun m : Modification => m.path)
          (List.mem_reverse.1 hm)
        rw [Plan.modifications_of_carryOut carried] at hmem
        simpa [eq_comm] using hmem
      obtain ⟨hlegible, bytes, hfound⟩ : m.path.IsLegible ∧
          ∃ bytes, t1.find m.path = .ok (m.path.resolve, some (.file bytes)) := by
        rcases hpath with hp | ⟨s, hs, hp⟩
        · exact hp ▸ ⟨hsource, bytes, hfind⟩
        · exact hp ▸ ⟨hsheet s hs, hfindSheet s hs⟩
      obtain ⟨bytes', hn⟩ := hc.isFile (fun h => h) (node?_of_find hfound)
      exact ⟨hlegible, bytes', find_resolve hlegible (by rw [hc.find hfound, hn])⟩
    obtain ⟨hroot, hbackups⟩ := notifyAll_root
      (recordAll { w.editor with backups := b } t1 e.modifications).1 events
    have hrooted'' : w'.editor.backups.IsRooted := by
      rw [editor, hbackups]
      exact hrooted'
    obtain ⟨hpaths, hfiles⟩ := writeBack_done hrooted'' hthere
    have hmanifest : w'.editor.backups.manifestPath = w.editor.backups.manifestPath := by
      apply manifestPath_congr
      rw [editor, hbackups]
      exact hdirectory'.trans hdirectory
    unfold Editor.undo
    simp only [if_true]
    split
    · next h =>
      rw [h] at hpaths
      cases hpaths
    · next paths e' t' h =>
      rw [h, hmanifest] at hfiles
      refine ⟨rfl, fun m hm hne => ?_⟩
      rw [hfiles _ hne]
      exact Plan.giveBack_eq_iff planned.isFor.1 hremembered _ hm

/-! ### A project with a stylesheet -/

/-- The small project where classes go into a stylesheet. -/
def styledWorkspace : Workspace :=
  let settings := Section.modification.defaults.apply
    [("preferred_update_method", .str "css-class"), ("class_stylesheet", .str "s.css")]
  { smallWorkspace with
    editor := { smallWorkspace.editor with
      settings, backups := { smallWorkspace.editor.backups with settings } } }

/-- The files of the small project and a stylesheet. -/
def styledTree : Tree := ⟨smallTree.entries ++ [(["w", "s.css"], .file ".a \x7b\x7d\n".toUTF8)]⟩

/-- Asks for a colour of the only element. -/
def blue : Value :=
  .table [("styles", .table [("color", .str "blue")]),
    ("sourceInfo", .table [("filePath", .str "App.jsx"), ("lineNumber", .int 1)])]

theorem styledWorkspace_isRooted : styledWorkspace.editor.backups.IsRooted :=
  ⟨smallWorkspace_isRooted.root, smallWorkspace_isRooted.directory⟩

theorem styledTree_isProper : styledTree.IsProper := Tree.isProper_of_entries (by decide)

/-- The files after the change of colour was made and taken back. -/
def undone (t : Tree) (u : Undo) : Tree :=
  ((styledWorkspace.apply t .zero blue).2.1.editor.undo (styledWorkspace.apply t .zero blue).2.2 ⟨0⟩
    u).2.2

/-- What the files of that change have then, beside what they had. -/
def takenBack (t : Tree) : Option (List (Option ByteArray × Option ByteArray)) :=
  (styledWorkspace.apply t .zero blue).1.undo?.map fun u =>
    u.modifications.map fun m => ((undone t u).file? m.path.resolve, t.file? m.path.resolve)

/-- Where the stylesheet was there both files are as they were. -/
theorem undo_restores_iff_styled :
    styledWorkspace.editor.backups.IsRooted ∧ styledTree.IsProper ∧
    ∃ plan u, styledWorkspace.Plans styledTree .zero blue plan ∧
      (styledWorkspace.apply styledTree .zero blue).1.undo? = some u ∧
      u.modifications.length = 2 ∧
      ∀ m ∈ u.modifications,
        m.path.resolve ≠ styledWorkspace.editor.backups.manifestPath.resolve →
          (undone styledTree u).file? m.path.resolve = styledTree.file? m.path.resolve := by
  have hvalues : (takenBack styledTree).map List.length = some 2 ∧
      (styledWorkspace.planOf? styledTree .zero blue).map (fun p => p.sheet.map (·.current)) =
        some (some (some ".a \x7b\x7d\n")) := by
    decide +kernel
  obtain ⟨htaken, hplan⟩ := hvalues
  obtain ⟨files, hfiles, hlength⟩ := Option.map_eq_some_iff.1 htaken
  obtain ⟨plan, hplan, hsheet⟩ := Option.map_eq_some_iff.1 hplan
  obtain ⟨u, hu, rfl⟩ := Option.map_eq_some_iff.1 hfiles
  have hplanned := planOf?_eq_some.1 hplan
  have hknown (q : Path) : ¬ plan.Forgets styledTree q := by
    rintro ⟨-, ⟨s, hs, hnone⟩, -⟩
    rw [hs, Option.map_some, hnone] at hsheet
    cases hsheet
  refine ⟨styledWorkspace_isRooted, styledTree_isProper, plan, u, hplanned, hu,
    by simpa using hlength, fun m hm hne => ?_⟩
  have hiff := (undo_restores_iff styledWorkspace_isRooted styledTree_isProper hplanned hu ⟨0⟩).2
  exact (hiff m hm hne).2 (hknown _)

/-- A stylesheet that was made is still there once the change was taken back. -/
theorem undo_leaves_stylesheet :
    ∃ u, (styledWorkspace.apply smallTree .zero blue).1.undo? = some u ∧
      ¬ ∀ m ∈ u.modifications,
        (undone smallTree u).file? m.path.resolve = smallTree.file? m.path.resolve := by
  have hvalues : takenBack smallTree = some
      [(some "<div>x</div>\n".toUTF8, some "<div>x</div>\n".toUTF8),
        (some ByteArray.empty, none)] := by
    decide +kernel
  obtain ⟨u, hu, hfiles⟩ := Option.map_eq_some_iff.1 hvalues
  refine ⟨u, hu, fun hall => ?_⟩
  have hmem : (some ByteArray.empty, none) ∈ u.modifications.map fun m =>
      ((undone smallTree u).file? m.path.resolve, smallTree.file? m.path.resolve) := by
    rw [hfiles]
    simp
  obtain ⟨m, hm, heq⟩ := List.mem_map.1 hmem
  obtain ⟨hafter, hbefore⟩ := Prod.mk.inj heq
  cases hafter.symm.trans ((hall m hm).trans hbefore)

end Workspace

end Restyle
