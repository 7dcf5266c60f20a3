import Restyle.Workspace.Basic
import Restyle.Proofs.PlanWrite

/-!
What asking for a change comes to: nothing is planned and nothing happens, or a plan is carried out
with the backups of the project.
-/
namespace Restyle

namespace Plan

theorem faulty_eq_ok {α : Type} {x : Except Fault α} {a : α} :
    Style.faulty x = .ok a ↔ x = .ok a := by
  cases x <;> simp [Style.faulty]

theorem ofRule_eq_some {t : Tree} {root : Path} {setting : Value} {className : String}
    {ds : Style.Declarations} {s : SheetPlan}
    (h : SheetPlan.ofRule t root setting className ds = .ok (some s)) :
    ∃ name, setting = .str name ∧ s.path = root.join name ∧
      SheetPlan.read t s.path = .ok s.current := by
  unfold SheetPlan.ofRule at h
  split at h
  · cases setting <;> try cases h
    case str name _ =>
      simp only at h
      cases hr : SheetPlan.read t (root.join name) with
      | error f =>
        rw [hr] at h
        cases h
      | ok current =>
        rw [hr] at h
        simp only [bind, Except.bind, pure, Except.pure] at h
        split at h
        · cases h
        · cases h
          exact ⟨name, rfl, rfl, hr⟩
  · cases h

/-- What a plan is made from. -/
structure IsFor (p : Plan) (t : Tree) (root : Path) (sheet : Value) (file : Path) : Prop where
  source : p.source = file
  before : Component.readText t file = .ok p.before
  sheet : ∀ s, p.sheet = some s → ∃ name, sheet = .str name ∧ s.path = root.join name ∧
    SheetPlan.read t s.path = .ok s.current

theorem make_isFor {t : Tree} {root : Path} {sheet : Value} {method : Option Style.Method}
    {c : Change} {file : Path} {line : Int} {p : Plan}
    (h : make t root sheet method c file line = .ok p) : p.IsFor t root sheet file := by
  unfold make at h
  simp only [bind, Except.bind] at h
  split at h
  · cases h
  · next before hb =>
    have hbefore := faulty_eq_ok.1 hb
    split at h
    · split at h
      · cases h
      · cases h
        exact ⟨rfl, hbefore, fun s hs => by cases hs⟩
    · split at h
      · cases h
      · split at h
        · cases h
        · split at h
          · cases h
          · next hsheet =>
            cases h
            refine ⟨rfl, hbefore, fun s hs => ?_⟩
            simp only at hs
            rw [hs] at hsheet
            exact ofRule_eq_some (faulty_eq_ok.1 hsheet)

theorem read_of_readText {t : Tree} {p : Path} {s : String}
    (h : Component.readText t p = .ok s) : t.read p = .ok s.toUTF8 := by
  unfold Component.readText at h
  split at h
  · cases h
  · next bytes hb =>
    split at h
    · next hd =>
      cases h
      rw [hb, Text.encode_of_decode hd]
    · cases h

/-- The places of the files that a plan writes. -/
def files (p : Plan) : List Path := p.source.resolve :: p.sheet.toList.map fun s => s.path.resolve

end Plan

namespace Workspace

/-- What a request plans, whether it will be allowed or not. -/
def Plans (w : Workspace) (t : Tree) (now : Readings) (payload : Value) (plan : Plan) : Prop :=
  ∃ c file line, Change.ofPayload payload = .ok c ∧ (w.placeOf t now.stamp c).1 = .ok (file, line) ∧
    Plan.make t w.editor.backups.root (w.editor.settings.value "class_stylesheet")
      (Style.Method.ofWord? (w.editor.settings.word "preferred_update_method")) c file line =
        .ok plan

/-- What a request plans, if it plans anything. -/
def planOf? (w : Workspace) (t : Tree) (now : Readings) (payload : Value) : Option Plan := do
  let c ← (Change.ofPayload payload).toOption
  let (file, line) ← (w.placeOf t now.stamp c).1.toOption
  (Plan.make t w.editor.backups.root (w.editor.settings.value "class_stylesheet")
    (Style.Method.ofWord? (w.editor.settings.word "preferred_update_method")) c file line).toOption

theorem toOption_eq_some {ε α : Type} {x : Except ε α} {a : α} :
    x.toOption = some a ↔ x = .ok a := by
  cases x <;> simp [Except.toOption]

theorem planOf?_eq_some {w : Workspace} {t : Tree} {now : Readings} {payload : Value}
    {plan : Plan} : w.planOf? t now payload = some plan ↔ w.Plans t now payload plan := by
  unfold planOf? Plans
  simp only [Option.bind_eq_bind, Option.bind_eq_some_iff, toOption_eq_some, Prod.exists]
  constructor
  · rintro ⟨c, hc, file, line, hplace, hmake⟩
    exact ⟨c, file, line, hc, hplace, hmake⟩
  · rintro ⟨c, file, line, hc, hplace, hmake⟩
    exact ⟨c, hc, file, line, hplace, hmake⟩

/-- A request plans one thing. -/
theorem Plans.unique {w : Workspace} {t : Tree} {now : Readings} {payload : Value}
    {plan plan' : Plan} (h : w.Plans t now payload plan) (h' : w.Plans t now payload plan') : plan = plan' :=
  Option.some.inj ((planOf?_eq_some.2 h).symm.trans (planOf?_eq_some.2 h'))

/-- What asking for a change can come to. -/
inductive Application (w : Workspace) (t : Tree) (now : Readings) (payload : Value) :
    EditReport × Workspace × Tree → Prop
  | unplanned {p : Problem} {report : EditReport} {w' : Workspace}
      (fails : report.outcome = .error p) (editor : w'.editor = w.editor) :
      Application w t now payload (report, w', t)
  | failed {plan : Plan} {f : Framework} {styles : Style.Declarations} {p : Problem}
      {report : EditReport} {b : Backups} {w' : Workspace} {t' : Tree}
      (planned : w.Plans t now payload plan)
      (carried : plan.carryOut f w.editor.backups t now styles = (.error p, b, t'))
      (fails : report.outcome = .error p) (editor : w'.editor = { w.editor with backups := b }) :
      Application w t now payload (report, w', t')
  | done {plan : Plan} {f : Framework} {styles : Style.Declarations} {e : Edited}
      {report : EditReport} {b : Backups} {w' : Workspace} {t1 : Tree}
      {events : List ChangeEvent} (planned : w.Plans t now payload plan)
      (carried : plan.carryOut f w.editor.backups t now styles = (.ok e, b, t1))
      (succeeds : report.outcome = .ok e)
      (editor : w'.editor =
        (recordAll { w.editor with backups := b } t1 e.modifications).1.notifyAll events) :
      Application w t now payload
        (report, w', (recordAll { w.editor with backups := b } t1 e.modifications).2)

theorem placeOf_cases (w : Workspace) (t : Tree) (now : Clock) (c : Change) :
    (w.placeOf t now c).2.editor = w.editor ∧
      ∀ file line, (w.placeOf t now c).1 = .ok (file, line) → file.resolve = file := by
  unfold placeOf
  split
  · next l hl =>
    unfold Editor.pathOf
    split
    · next p hp =>
      refine ⟨rfl, fun file line h => ?_⟩
      cases h
      split at hp
      · cases hc : (w.editor.root.join _).checked with
        | error f =>
          rw [hc] at hp
          cases hp
        | ok q =>
          rw [hc] at hp
          cases hp
          exact Path.resolve_resolve q
      · cases hp
    · exact ⟨rfl, fun file line h => by cases h⟩
  · split
    · refine ⟨rfl, fun file line h => ?_⟩
      cases h
      exact Path.resolve_resolve _
    · exact ⟨rfl, fun file line h => by cases h⟩

theorem Plans.isFor {w : Workspace} {t : Tree} {now : Readings} {payload : Value} {plan : Plan}
    (h : w.Plans t now payload plan) :
    plan.IsFor t w.editor.backups.root (w.editor.settings.value "class_stylesheet") plan.source ∧
      plan.source.resolve = plan.source := by
  obtain ⟨c, file, line, -, hplace, hmake⟩ := h
  have hfor := Plan.make_isFor hmake
  rw [hfor.source]
  exact ⟨hfor, (placeOf_cases w t now.stamp c).2 file line hplace⟩

theorem editAt_cases {w0 w : Workspace} {t : Tree} {now : Readings} {payload : Value} {c : Change}
    {file : Path} {line : Int} (f : Framework) (hw : w.editor = w0.editor)
    (hc : Change.ofPayload payload = .ok c)
    (hplace : (w0.placeOf t now.stamp c).1 = .ok (file, line))
    {r : EditReport × Workspace × Tree}
    (hfails : ∀ p w' t', w.editAt t now c file line f = (.error p, w', t') →
      r.1.outcome = .error p ∧ r.2 = (w', t'))
    (hdone : ∀ e w' t', w.editAt t now c file line f = (.ok e, w', t') →
      r.1.outcome = .ok e ∧ r.2 = (w', t')) :
    Application w0 t now payload r := by
  obtain ⟨report, w', t'⟩ := r
  unfold editAt Change.edit at hfails hdone
  simp only at hfails hdone
  rw [hw] at hfails hdone
  cases hplan : Plan.make t w0.editor.backups.root (w0.editor.settings.value "class_stylesheet")
      (Style.Method.ofWord? (w0.editor.settings.word "preferred_update_method")) c file line with
  | error p =>
    rw [hplan] at hfails
    obtain ⟨ho, hr⟩ := hfails _ _ _ rfl
    cases hr
    exact .unplanned ho rfl
  | ok plan =>
    rw [hplan] at hfails hdone
    simp only at hfails hdone
    have hplanned : w0.Plans t now payload plan := ⟨c, file, line, hc, hplace, hplan⟩
    cases hcarried : plan.carryOut f w0.editor.backups t now c.styles with
    | mk res bt =>
      obtain ⟨b, t1⟩ := bt
      rw [hcarried] at hfails hdone
      cases res with
      | error p =>
        obtain ⟨ho, hr⟩ := hfails _ _ _ rfl
        cases hr
        exact .failed hplanned hcarried ho rfl
      | ok e =>
        obtain ⟨ho, hr⟩ := hdone _ _ _ rfl
        cases hr
        exact .done hplanned hcarried ho rfl

theorem applyChange_cases (w : Workspace) (t : Tree) (now : Readings) {payload : Value} {c : Change}
    (hc : Change.ofPayload payload = .ok c) :
    Application w t now payload (w.applyChange t now c) := by
  have heditor := (placeOf_cases w t now.stamp c).1
  unfold applyChange
  split
  · next p w' h =>
    rw [h] at heditor
    exact .unplanned rfl heditor
  · next file line w' h =>
    rw [h] at heditor
    simp only
    split
    · exact .unplanned rfl heditor
    · split
      · exact .unplanned rfl heditor
      · next f _ =>
        split
        · refine editAt_cases f (w := { w' with resolver := w'.resolver.detect t }) heditor hc
            (by rw [h]) ?_ ?_
          · intro p w'' t' he
            rw [he]
            exact ⟨rfl, rfl⟩
          · intro e w'' t' he
            rw [he]
            exact ⟨rfl, rfl⟩
        · exact .unplanned rfl heditor

theorem apply_cases (w : Workspace) (t : Tree) (now : Readings) (payload : Value) :
    Application w t now payload (w.apply t now payload) := by
  unfold apply
  split
  · split
    · next hc => exact applyChange_cases w t now hc
    · exact .unplanned rfl rfl
  · exact .unplanned rfl rfl

end Workspace

end Restyle
