import Restyle.Proofs.TakenBack

/-!
What is in the files after a change: what the plan has for them, and elsewhere what was there.
-/
namespace Restyle

open Restyle.Tree

namespace Plan

variable {p : Plan} {b : Backups} {t : Tree}

/-- Carrying out a plan leaves what is live, but for its files. -/
theorem carryOut_live (hb : b.IsRooted) (hp : p.source.IsLegible)
    (hs : ∀ s, p.sheet = some s → s.path.IsLegible) (f : Framework) (now : Readings)
    (styles : Style.Declarations) {q : Path} (hq : b.Live q) (hrest : q ∉ p.files) :
    (p.carryOut f b t now styles).2.2.file? q = t.file? q := by
  have hcreated := Backups.create_live hb t now hp (sourceReason f) hq
  have hb1 := hb.create t now p.source (sourceReason f)
  unfold carryOut
  split
  · next hr => rw [hr] at hcreated; exact hcreated.2
  · next copy b1 t1 hr =>
    rw [hr] at hcreated hb1
    have hcopied := backupSheet_live hb1 t1 now hs hcreated.1
    split
    · next hr => rw [hr] at hcopied; exact hcopied.trans hcreated.2
    · next sheetCopy b2 t2 hr =>
      rw [hr] at hcopied
      have hwritten : (p.write t2).2.file? q = t2.file? q :=
        (write_changes hp hs).file? hrest fun h => h
      split <;> next hr => rw [hr] at hwritten; exact hwritten.trans (hcopied.trans hcreated.2)

end Plan

namespace Workspace

open Backups

variable {w : Workspace} {t : Tree} {now : Readings} {payload : Value} {plan : Plan}

/-- A change that is made has written its plan, and what it says that it modified are the files of
that. -/
theorem apply_done {e : Edited} (hok : (w.apply t now payload).1.outcome = .ok e) :
    ∃ plan, w.Plans t now payload plan ∧
      ∀ q, (∃ m ∈ e.modifications, m.path.resolve = q) ↔ q ∈ plan.files := by
  have happly := w.apply_cases t now payload
  revert happly hok
  generalize w.apply t now payload = r
  intro hok happly
  cases happly with
  | unplanned fails editor =>
    rw [fails] at hok
    cases hok
  | failed planned carried fails editor =>
    rw [fails] at hok
    cases hok
  | done planned carried succeeds editor =>
    cases succeeds.symm.trans hok
    exact ⟨_, planned, fun q => (Plan.mem_files_iff carried).symm⟩

/-- A change leaves what is live, but for the files of its plan. -/
theorem apply_live (hb : w.editor.backups.IsRooted) (ht : t.IsProper) {q : Path}
    (hq : w.editor.backups.Live q)
    (hrest : ∀ plan, w.Plans t now payload plan → q ∉ plan.files) :
    (w.apply t now payload).2.2.file? q = t.file? q := by
  have happly := w.apply_cases t now payload
  revert happly
  generalize w.apply t now payload = r
  intro happly
  cases happly with
  | unplanned fails editor => rfl
  | @failed plan f styles p report b w' t' planned carried fails editor =>
    have hsame := Plan.carryOut_live (t := t) hb (planned.source_isPlace ht).isPlain.isLegible
      (planned.sheet_isLegible hb) f now styles hq (hrest plan planned)
    rw [carried] at hsame
    exact hsame
  | @done plan f styles e report b w' t1 events planned carried succeeds editor =>
    have hsame := Plan.carryOut_live (t := t) hb (planned.source_isPlace ht).isPlain.isLegible
      (planned.sheet_isLegible hb) f now styles hq (hrest plan planned)
    obtain ⟨hrooted, hdirectory⟩ := Plan.carryOut_rooted (p := plan) (t := t) hb f now styles
    rw [carried] at hsame hrooted hdirectory
    obtain ⟨hc, -⟩ := recordAll_frame (t := t1) (e := { w.editor with backups := b }) hrooted
      e.modifications
    have haway : q ≠ b.manifestPath.resolve := by
      rw [manifestPath_congr hdirectory]
      exact ne_manifest_of_away hq.1
    exact (hc.file? haway fun h => h).trans hsame

/-- The files of a plan are its source and its stylesheet. -/
theorem mem_files_cases {q : Path} (h : w.Plans t now payload plan) (hq : q ∈ plan.files) :
    q = plan.source ∨ ∃ sheet, plan.sheet = some sheet ∧ sheet.path.resolve = q := by
  rcases List.mem_cons.1 hq with rfl | hq
  · exact .inl h.isFor.2
  · obtain ⟨sheet, hsheet, rfl⟩ := List.mem_map.1 hq
    exact .inr ⟨sheet, Option.mem_toList.1 hsheet, rfl⟩

/-- A stylesheet is there with its new text once the change was made. -/
theorem apply_done_sheet (hb : w.editor.backups.IsRooted) (ht : t.IsProper)
    (hplan : w.Plans t now payload plan) {e : Edited}
    (hok : (w.apply t now payload).1.outcome = .ok e) {s : SheetPlan} (hs : plan.sheet = some s)
    (hout : ¬ w.editor.backups.place <+: s.path.resolve) :
    (w.apply t now payload).2.2.find s.path =
      .ok (s.path.resolve, some (.file s.content.toUTF8)) := by
  have happly := w.apply_cases t now payload
  revert happly hok
  generalize w.apply t now payload = r
  intro hok happly
  cases happly with
  | unplanned fails editor =>
    rw [fails] at hok
    cases hok
  | failed planned carried fails editor =>
    rw [fails] at hok
    cases hok
  | @done plan' f styles e' report b w' t1 events planned carried succeeds editor =>
    obtain rfl := planned.unique hplan
    have hsource := (planned.source_isPlace ht).isPlain.isLegible
    have hsheet := planned.sheet_isLegible hb
    obtain ⟨hrooted, hdirectory⟩ := Plan.carryOut_rooted (p := plan') (t := t) hb f now styles
    rw [carried] at hrooted hdirectory
    obtain ⟨t0, hwritten⟩ := Plan.written_last carried
    have hfile : t1.file? s.path.resolve = some s.content.toUTF8 := by
      rcases Plan.write_succeeded hsource hsheet hwritten with ⟨hnone, -⟩ | ⟨s', hs', hfile, -⟩
      · cases hnone.symm.trans hs
      · cases hs'.symm.trans hs
        exact hfile
    obtain ⟨bytes, hthere⟩ := (Plan.write_found hsource hsheet hwritten).2 s hs
    have hfind : t1.find s.path = .ok (s.path.resolve, some (.file s.content.toUTF8)) :=
      find_of_file? hthere hfile
    obtain ⟨hc, -⟩ := recordAll_frame (t := t1) (e := { w.editor with backups := b }) hrooted
      e'.modifications
    have haway : s.path.resolve ≠ b.manifestPath.resolve := by
      rw [manifestPath_congr hdirectory]
      exact ne_manifest_of_away hout
    exact hc.find_some hfind haway fun h => h

end Workspace

end Restyle
