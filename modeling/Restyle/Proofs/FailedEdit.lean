import Restyle.Workspace.Results
import Restyle.Proofs.AppliedChange

/-!
What a change that fails leaves of the files. Files of the plan can be left half done in the ways of
`Plan.Spoils`, and in no other way; all else is as it was.
-/
namespace Restyle

open Restyle.Tree

namespace Backups

/-- Places outside of the directory for backups that no record takes for those of its copy. -/
def Live (b : Backups) (q : Path) : Prop := ¬ b.place <+: q ∧ ¬ b.Records q

variable {b : Backups} {t : Tree}

theorem create_place (b : Backups) (t : Tree) (now : Readings) (file : Path) (reason : String) :
    (b.create t now file reason).2.1.place = b.place := by
  rw [create_frame]
  rfl

theorem IsRooted.create (hb : b.IsRooted) (t : Tree) (now : Readings) (file : Path)
    (reason : String) : (b.create t now file reason).2.1.IsRooted := by
  rw [create_frame]
  exact ⟨hb.root, hb.directory⟩

/-- Making a backup, also where it fails, leaves what is live. -/
theorem create_live (hb : b.IsRooted) (t : Tree) (now : Readings) {file : Path}
    (hf : file.IsLegible) (reason : String) {q : Path} (hq : b.Live q) :
    (b.create t now file reason).2.1.Live q ∧
      (b.create t now file reason).2.2.file? q = t.file? q := by
  obtain ⟨hbelow, hrecords⟩ := hq
  have hc := create_changes hb t now hf reason
  refine ⟨⟨?_, ?_⟩, hc.file? ?_ ?_⟩
  · rw [create_place]
    exact hbelow
  · intro h
    rcases records_create hb hf h with h | h
    · exact hrecords h
    · exact hbelow h
  · rintro (rfl | rfl)
    · rw [resolve_manifestPath] at hbelow
      exact hbelow (List.prefix_append _ _)
    · exact hbelow (place_prefix_copyPlace b _ _)
  · rintro (h | rfl)
    · exact hrecords (records_of_history h)
    · exact hbelow (place_prefix_copyPlace b _ _)

end Backups

namespace Plan

variable {p : Plan} {b b' : Backups} {t t' : Tree}

theorem backupSheet_live (hb : b.IsRooted) (t : Tree) (now : Readings)
    (hs : ∀ s, p.sheet = some s → s.path.IsLegible) {q : Path} (hq : b.Live q) :
    (p.backupSheet b t now).2.2.file? q = t.file? q := by
  unfold backupSheet
  cases hc : p.sheetToCopy with
  | none => rfl
  | some path =>
    unfold sheetToCopy at hc
    obtain ⟨s, hsome, rfl⟩ := Option.map_eq_some_iff.1 hc
    have hkept := (Backups.create_live hb t now (hs s (Option.filter_eq_some_iff.1 hsome).1)
      sheetReason hq).2
    simp only
    split <;> next h => rw [h] at hkept; exact hkept

/-- Where carrying out a plan fails, what is live is as it was, or the plan is left half done. -/
theorem carryOut_failed (hb : b.IsRooted) (hp : p.source.IsLegible)
    (hs : ∀ s, p.sheet = some s → s.path.IsLegible)
    (hread : t.file? p.source.resolve = some p.before.toUTF8)
    {f : Framework} {now : Readings} {styles : Style.Declarations} {e : Problem}
    (h : p.carryOut f b t now styles = (.error e, b', t')) :
    (∀ q, b.Live q → t'.file? q = t.file? q) ∨ p.Spoils b.Live t t' := by
  unfold carryOut at h
  have h1 (q : Path) (hq : b.Live q) := Backups.create_live hb t now hp (sourceReason f) hq
  have hb1 := hb.create t now p.source (sourceReason f)
  split at h
  · next hcreate =>
    cases h
    rw [hcreate] at h1
    exact .inl fun q hq => (h1 q hq).2
  · next copy b1 t1 hcreate =>
    rw [hcreate] at h1 hb1
    have h2 (q : Path) (hq : b.Live q) : (p.backupSheet b1 t1 now).2.2.file? q = t.file? q :=
      (backupSheet_live hb1 t1 now hs (h1 q hq).1).trans (h1 q hq).2
    split at h
    · next hsheet =>
      cases h
      rw [hsheet] at h2
      exact .inl h2
    · next sheetCopy b2 t2 hsheet =>
      rw [hsheet] at h2
      split at h
      · next f' t3 hwrite =>
        cases h
        rcases write_failed (L := b.Live) hp hs hwrite with ⟨hothers, hsource⟩ | hspoils
        · refine .inl fun q hq => ?_
          by_cases hqs : q = p.source.resolve
          · subst hqs
            rcases hsource with hsame | hback
            · rw [hsame, h2 _ hq]
            · rw [hback, hread]
          · rw [hothers q hqs, h2 q hq]
        · exact .inr (hspoils.trans fun q hq => ⟨hq, h2 q hq⟩)
      · cases h

end Plan

namespace Workspace

theorem Plans.source_isPlace {w : Workspace} {t : Tree} {now : Readings} {payload : Value}
    {plan : Plan} (h : w.Plans t now payload plan) (ht : t.IsProper) : plan.source.IsPlace := by
  obtain ⟨hfor, hplace⟩ := h.isFor
  have hn := node?_of_read (Plan.read_of_readText hfor.before)
  rw [hplace] at hn
  refine ht plan.source ?_
  simp [hn]

theorem Plans.sheet_isLegible {w : Workspace} {t : Tree} {now : Readings} {payload : Value}
    {plan : Plan} (h : w.Plans t now payload plan) (hb : w.editor.backups.IsRooted)
    (s : SheetPlan) (hs : plan.sheet = some s) : s.path.IsLegible := by
  obtain ⟨name, -, hname, -⟩ := h.isFor.1.sheet s hs
  rw [hname]
  exact hb.root.isPlain.isLegible.join name

/-- Whether the plan of a change was left half done, so that a live file of the plan has other bytes
than before. -/
def LeavesHalfDone (w : Workspace) (t : Tree) (now : Readings) (payload : Value) : Prop :=
  ∃ plan, w.Plans t now payload plan ∧
    plan.Spoils w.editor.backups.Live t (w.apply t now payload).2.2 ∧
    ∃ q ∈ plan.files, w.editor.backups.Live q ∧
      (w.apply t now payload).2.2.file? q ≠ t.file? q

/-- A change that fails leaves every live file as it was, unless it leaves its plan half done. -/
theorem apply_failed_keeps_iff {w : Workspace} {t : Tree} {now : Readings} {payload : Value}
    {p : Problem} (hb : w.editor.backups.IsRooted) (ht : t.IsProper)
    (h : (w.apply t now payload).1.outcome = .error p) :
    (∀ q, w.editor.backups.Live q → (w.apply t now payload).2.2.file? q = t.file? q) ↔
      ¬ w.LeavesHalfDone t now payload := by
  unfold LeavesHalfDone
  constructor
  · rintro hkept ⟨plan, -, -, q, -, hlive, hne⟩
    exact hne (hkept q hlive)
  have happly := w.apply_cases t now payload
  revert happly h
  generalize w.apply t now payload = r
  intro h happly hwhole q hq
  cases happly with
  | unplanned fails editor => rfl
  | @done plan f styles e report b w' t1 events planned carried succeeds editor =>
    rw [succeeds] at h
    cases h
  | @failed plan f styles p' report b w' t' planned carried fails editor =>
    have hread : t.file? plan.source.resolve = some plan.before.toUTF8 :=
      file?_eq_some.2 (node?_of_read (Plan.read_of_readText planned.isFor.1.before))
    rcases Plan.carryOut_failed hb (planned.source_isPlace ht).isPlain.isLegible
      (planned.sheet_isLegible hb) hread carried with hkept | hspoils
    · exact hkept q hq
    · refine Classical.byContradiction fun hne => hwhole ⟨plan, planned, hspoils, ?_⟩
      have hplan : q ∈ plan.files := by
        refine Classical.byContradiction fun hno => hne ?_
        simp only [Plan.files, List.mem_cons, List.mem_map, Option.mem_toList, not_or, not_exists,
          not_and] at hno
        cases hspoils with
        | source encode emptied others => exact others q hq hno.1
        | sheetPath sheet unaskable encode left others => exact others q hq hno.1
        | sheetText sheet content encode emptied left others =>
          exact others q hq hno.1 fun e => hno.2 _ sheet e.symm
        | oldText encode emptied others => exact others q hq hno.1
      exact ⟨q, hplan, hq, hne⟩

/-- A project of one source file, and the editor for it as it is when it was just opened. -/
def smallTree : Tree :=
  ⟨[(["w"], .directory), (["w", "App.jsx"], .file "<div>x</div>\n".toUTF8)]⟩

def smallWorkspace : Workspace where
  resolver :=
    { root := some ["w"], settings := Section.resolution.defaults, scan := none, choice := .first
      detected := some ⟨.react, .ofTenths 10, [], .null, none⟩, cache := .empty (.count 100) }
  editor :=
    { root := ["w"], settings := Section.modification.defaults
      backups := ⟨["w"], Section.modification.defaults, ["w", ".sourcelens-backups"], true, []⟩
      listeners := [], delivered := [] }

/-- Asks for a colour of which half a character is the name. -/
def halfColor : Value :=
  .table [("styles", .table [("color", .str (String.ofList (Text.ofHalf 0xD800)))]),
    ("sourceInfo", .table [("filePath", .str "App.jsx"), ("lineNumber", .int 1)])]

theorem smallTree_isProper : smallTree.IsProper := Tree.isProper_of_entries (by decide)

theorem smallWorkspace_isRooted : smallWorkspace.editor.backups.IsRooted :=
  ⟨by decide, (by decide : Path.IsPlace ["w", ".sourcelens-backups"]).isPlain.isLegible⟩

theorem source_live : smallWorkspace.editor.backups.Live ["w", "App.jsx"] := by
  refine ⟨by decide, ?_⟩
  rintro ⟨x, hx, -⟩
  cases hx

theorem exists_error_of_edited? {r : EditReport} (h : r.edited?.isSome = false) :
    ∃ p, r.outcome = .error p := by
  unfold EditReport.edited? at h
  revert h
  cases r.outcome with
  | error p => exact fun _ => ⟨p, rfl⟩
  | ok e => exact fun h => by cases h

theorem halfColor_fails :
    ∃ p, (smallWorkspace.apply smallTree .zero halfColor).1.outcome = .error p :=
  exists_error_of_edited? (by decide +kernel)

theorem halfColor_empties :
    (smallWorkspace.apply smallTree .zero halfColor).2.2.file? ["w", "App.jsx"] ≠
      smallTree.file? ["w", "App.jsx"] := by
  decide +kernel

/-- The change fails, and the source that it was to change has other bytes then. -/
theorem apply_failed_changes_source :
    (∃ p, (smallWorkspace.apply smallTree .zero halfColor).1.outcome = .error p) ∧
    ¬ ∀ q, smallWorkspace.editor.backups.Live q →
      (smallWorkspace.apply smallTree .zero halfColor).2.2.file? q = smallTree.file? q :=
  ⟨halfColor_fails, fun hkept => halfColor_empties (hkept _ source_live)⟩

theorem apply_failed_keeps_iff_half :
    smallWorkspace.editor.backups.IsRooted ∧ smallTree.IsProper ∧
    (∃ p, (smallWorkspace.apply smallTree .zero halfColor).1.outcome = .error p) ∧
    smallWorkspace.LeavesHalfDone smallTree .zero halfColor := by
  refine ⟨smallWorkspace_isRooted, smallTree_isProper, halfColor_fails, ?_⟩
  obtain ⟨p, hp⟩ := halfColor_fails
  have hiff := apply_failed_keeps_iff smallWorkspace_isRooted smallTree_isProper hp
  refine Classical.byContradiction fun hwhole => ?_
  exact halfColor_empties (hiff.2 hwhole _ source_live)

end Workspace

end Restyle
