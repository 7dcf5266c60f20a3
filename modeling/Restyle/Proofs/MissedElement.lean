import Restyle.Proofs.AppliedChange
import Restyle.Proofs.EditLocality

/-!
When a change says that its element is not on the line. It does so where the element cannot be
located, and then nothing is planned; no later step of a change says it.
-/
namespace Restyle

/-- Whether something ends because the element is not on its line. -/
def Misses {α : Type} (x : Except Problem α) : Prop :=
  ∃ tag line, x = .error (.elementNotFound tag line)

section Misses

variable {α β : Type}

theorem misses_bind {x : Except Problem α} {g : α → Except Problem β} :
    Misses (x >>= g) ↔ Misses x ∨ ∃ a, x = .ok a ∧ Misses (g a) := by
  cases x <;> simp [Misses, bind, Except.bind]

theorem not_misses_ok (a : α) : ¬ Misses (.ok a) := by
  rintro ⟨tag, line, ⟨⟩⟩

theorem not_misses_faulty (x : Except Fault α) : ¬ Misses (Style.faulty x) := by
  cases x <;> rintro ⟨tag, line, ⟨⟩⟩

end Misses

namespace Style

open Markup

variable {content : List Char} {c : Change} {line : Int}

theorem not_misses_edit {p : Place} {find : Span → Finding} {text : List Char}
    (hfind : ∀ s tag line, find s ≠ .refused (.elementNotFound tag line)) :
    ¬ Misses (edit p find text) := by
  rintro ⟨tag, line, h⟩
  unfold edit at h
  split at h
  · next row problem hfound =>
    obtain ⟨s, -, -, hs⟩ := firstFinding_spec hfound
    cases h
    exact hfind s tag line hs
  · cases h
  · cases h

theorem not_misses_mergeStyle (ls : List (List Char)) (new : Entries) (s : Span) (tag : String)
    (line : Int) : mergeStyle ls new s ≠ .refused (.elementNotFound tag line) := by
  unfold mergeStyle
  simp only
  split
  · rintro ⟨⟩
  · split <;> rintro ⟨⟩

theorem not_misses_attachClass (ls : List (List Char)) (name : List Char) (s : Span) (tag : String)
    (line : Int) : attachClass ls name s ≠ .refused (.elementNotFound tag line) := by
  unfold attachClass
  simp only
  split
  · rintro ⟨⟩
  · split
    · split
      · rintro ⟨⟩
      · split <;> rintro ⟨⟩
    · rintro ⟨⟩

theorem misses_applyInline (h : Misses (applyInline content c line)) :
    Misses (locate content c line) := by
  rcases misses_bind.1 h with h | ⟨place, -, h⟩
  · exact h
  · rcases misses_bind.1 h with h | ⟨new, -, h⟩
    · exact absurd h (not_misses_faulty _)
    · exact absurd h (not_misses_edit (not_misses_mergeStyle place.lines new))

theorem misses_applyClass {name : List Char} (h : Misses (applyClass content c line name)) :
    Misses (locate content c line) := by
  rcases misses_bind.1 h with h | ⟨place, -, h⟩
  · exact h
  · exact absurd h (not_misses_edit (not_misses_attachClass place.lines name))

end Style

theorem Backups.not_misses_create (b : Backups) (t : Tree) (now : Readings) (file : Path)
    (reason : String) : ¬ Misses (b.create t now file reason).1 := by
  rintro ⟨tag, line, h⟩
  unfold create at h
  split at h
  · cases h
  · split at h
    · cases h
    · split at h
      · cases h
      · simp only at h
        split at h
        · cases h
        · split at h
          · cases h
          · split at h <;> cases h

namespace Plan

variable {t : Tree} {root file : Path} {sheet : Value} {method : Option Style.Method} {c : Change}
  {line : Int} {before : String}

/-- Where the element cannot be located nothing is planned. -/
theorem make_of_locate_error (hread : Component.readText t file = .ok before) {p : Problem}
    (hlocate : Style.locate before.toList c line = .error p) :
    make t root sheet method c file line = .error p ∨
      ∃ f, make t root sheet method c file line = .error (.fault f) := by
  unfold make
  simp only [hread, Style.faulty, bind, Except.bind]
  split
  · left
    simp [Style.applyInline, hlocate, bind, Except.bind]
  · cases Style.className c.styles with
    | error f => exact .inr ⟨f, rfl⟩
    | ok name =>
      left
      simp [Style.applyClass, hlocate, bind, Except.bind]

/-- A plan misses the element only where it cannot be located. -/
theorem misses_make (hread : Component.readText t file = .ok before)
    (h : Misses (make t root sheet method c file line)) :
    Misses (Style.locate before.toList c line) := by
  rcases misses_bind.1 h with h | ⟨before', hbefore, h⟩
  · exact absurd h (not_misses_faulty _)
  · obtain rfl := Except.ok.inj (hread.symm.trans (faulty_eq_ok.1 hbefore))
    simp only at h
    split at h
    · rcases misses_bind.1 h with h | ⟨after, -, h⟩
      · exact Style.misses_applyInline h
      · exact absurd h (not_misses_ok _)
    · rcases misses_bind.1 h with h | ⟨name, -, h⟩
      · exact absurd h (not_misses_faulty _)
      · rcases misses_bind.1 h with h | ⟨after, -, h⟩
        · exact Style.misses_applyClass h
        · rcases misses_bind.1 h with h | ⟨s, -, h⟩
          · exact absurd h (not_misses_faulty _)
          · exact absurd h (not_misses_ok _)

theorem not_misses_backupSheet (p : Plan) (b : Backups) (t : Tree) (now : Readings) :
    ¬ Misses (p.backupSheet b t now).1 := by
  unfold backupSheet
  split
  · exact not_misses_ok _
  · next path _ =>
    have hcreate := b.not_misses_create t now path sheetReason
    split
    · next h =>
      rw [h] at hcreate
      rintro ⟨tag, line, ⟨⟩⟩
      exact hcreate ⟨tag, line, rfl⟩
    · exact not_misses_ok _

/-- Carrying out a plan does not miss the element. -/
theorem not_misses_carryOut (p : Plan) (f : Framework) (b : Backups) (t : Tree) (now : Readings)
    (styles : Style.Declarations) : ¬ Misses (p.carryOut f b t now styles).1 := by
  have hcreate := b.not_misses_create t now p.source (sourceReason f)
  unfold carryOut
  split
  · next h =>
    rw [h] at hcreate
    rintro ⟨tag, line, ⟨⟩⟩
    exact hcreate ⟨tag, line, rfl⟩
  · next copy b' t' _ =>
    have hsheet := not_misses_backupSheet p b' t' now
    split
    · next h =>
      rw [h] at hsheet
      rintro ⟨tag, line, ⟨⟩⟩
      exact hsheet ⟨tag, line, rfl⟩
    · split
      · rintro ⟨tag, line, ⟨⟩⟩
      · exact not_misses_ok _

end Plan

namespace Workspace

variable {w : Workspace} {t : Tree} {now : Readings} {c : Change} {file : Path} {line : Int}

/-- What becomes of a change whose place is known: it is cancelled and nothing happens, or it is
planned and the plan is carried out. -/
theorem applyChange_at (hplace : (w.placeOf t now.stamp c).1 = .ok (file, line))
    (hreact : ((w.placeOf t now.stamp c).2.resolver.detect t).framework? = some .react) :
    (w.applyChange t now c).1.outcome = .error .cancelled ∧ (w.applyChange t now c).2.2 = t ∨
      match Plan.make t w.editor.backups.root (w.editor.settings.value "class_stylesheet")
        (Style.Method.ofWord? (w.editor.settings.word "preferred_update_method")) c file line with
      | .error p =>
        (w.applyChange t now c).1.outcome = .error p ∧ (w.applyChange t now c).2.2 = t
      | .ok plan =>
        (w.applyChange t now c).1.outcome =
          (plan.carryOut .react w.editor.backups t now c.styles).1 := by
  have heditor := (placeOf_cases w t now.stamp c).1
  unfold applyChange
  revert hplace hreact heditor
  generalize w.placeOf t now.stamp c = placed
  obtain ⟨place, w'⟩ := placed
  rintro hplace hreact heditor
  simp only at hplace hreact heditor
  subst hplace
  simp only [hreact]
  split
  · exact .inl ⟨rfl, rfl⟩
  · right
    unfold editAt Change.edit
    simp only [heditor, Change.isSupported, decide_true, if_true]
    generalize Plan.make t w.editor.backups.root _ _ c file line = planned
    cases planned with
    | error p => exact ⟨rfl, rfl⟩
    | ok plan =>
      simp only
      rcases plan.carryOut .react w.editor.backups t now c.styles with ⟨_ | e, b, t'⟩ <;> rfl

/-- A change misses its element only where that cannot be located. -/
theorem misses_applyChange (hplace : (w.placeOf t now.stamp c).1 = .ok (file, line))
    (hreact : ((w.placeOf t now.stamp c).2.resolver.detect t).framework? = some .react)
    {content : String} (hread : Component.readText t file = .ok content)
    (h : Misses (w.applyChange t now c).1.outcome) :
    Misses (Style.locate content.toList c line) := by
  rcases applyChange_at hplace hreact with ⟨hcancelled, -⟩ | happly
  · rw [hcancelled] at h
    obtain ⟨tag, line, ⟨⟩⟩ := h
  · split at happly
    · next p hplan =>
      rw [happly.1] at h
      obtain ⟨tag, line', ⟨⟩⟩ := h
      exact Plan.misses_make hread ⟨tag, line', hplan⟩
    · rw [happly] at h
      exact absurd h (Plan.not_misses_carryOut _ _ _ _ _ _)

/-- Where the element cannot be located nothing happens. -/
theorem applyChange_of_locate_error (hplace : (w.placeOf t now.stamp c).1 = .ok (file, line))
    (hreact : ((w.placeOf t now.stamp c).2.resolver.detect t).framework? = some .react)
    {content : String} (hread : Component.readText t file = .ok content) {p : Problem}
    (hlocate : Style.locate content.toList c line = .error p) :
    (w.applyChange t now c).2.2 = t ∧
      ((w.applyChange t now c).1.outcome = .error .cancelled ∨
        (∃ f, (w.applyChange t now c).1.outcome = .error (.fault f)) ∨
        (w.applyChange t now c).1.outcome = .error p) := by
  rcases applyChange_at hplace hreact with ⟨hcancelled, hsame⟩ | happly
  · exact ⟨hsame, .inl hcancelled⟩
  · rcases Plan.make_of_locate_error hread hlocate with hplan | ⟨f, hplan⟩
    · rw [hplan] at happly
      exact ⟨happly.2, .inr (.inr happly.1)⟩
    · rw [hplan] at happly
      exact ⟨happly.2, .inr (.inl ⟨f, happly.1⟩)⟩

end Workspace

end Restyle
