import Restyle.Proofs.StoreActs

/-!
A project that is open, and what can be done with it one after the other. The store of backups stays
one that made its index itself.
-/
namespace Restyle

open Restyle.Tree

/-- An open project and the files. -/
structure Session where
  workspace : Workspace
  tree : Tree

namespace Session

def editor (s : Session) : Editor := s.workspace.editor

def backups (s : Session) : Backups := s.workspace.editor.backups

/-- Whether a change of settings names the directory for backups. -/
def namesDirectory (values : List (String × Value)) : Bool :=
  values.any fun (k, _) => Settings.snakeCase k == "backup_directory"

/-- What can happen while a project is open: requests that write no files but those of `Q`, and
others that write such files. -/
inductive Act (Q : Path → Prop) : Session → Session → Prop
  | apply {w : Workspace} {t : Tree} (now : Readings) (payload : Value)
      (within : ∀ plan, w.Plans t now payload plan → ∀ q ∈ plan.files, Q q) :
      Act Q ⟨w, t⟩ ⟨(w.apply t now payload).2.1, (w.apply t now payload).2.2⟩
  | rollback {w : Workspace} {t t' : Tree} {e : Editor} {restored : Bool} (now : Clock)
      (file : Value) (timestamp : Option Value)
      (within : ∀ q, w.editor.pathOf file = .ok q → Q q)
      (done : w.editor.rollback t now file timestamp = .ok (restored, e, t')) :
      Act Q ⟨w, t⟩ ⟨{ w with editor := e }, t'⟩
  | undo {w : Workspace} {t : Tree} (now : Clock) (u : Undo)
      (within : ∀ m ∈ u.modifications, m.path.IsLegible ∧ Q m.path.resolve) :
      Act Q ⟨w, t⟩ ⟨{ w with editor := (w.editor.undo t now u).2.1 }, (w.editor.undo t now u).2.2⟩
  | settings {w : Workspace} {t : Tree} (values : List (String × Value))
      (stays : namesDirectory values = false) :
      Act Q ⟨w, t⟩ ⟨{ w with editor := (w.editor.updateSettings t values).1 }, t⟩
  /-- Looking something up, or changing who is told. -/
  | look {w w' : Workspace} {t : Tree} (root : w'.editor.root = w.editor.root)
      (backups : w'.editor.backups = w.editor.backups) : Act Q ⟨w, t⟩ ⟨w', t⟩
  /-- Someone else edits files. -/
  | edit {w : Workspace} {t t' : Tree} (changes : Changes Q Q t t') : Act Q ⟨w, t⟩ ⟨w, t'⟩

/-- Reading the manifest again, in the same directory. -/
inductive Reload : Session → Session → Prop
  | settings {w : Workspace} {t t' : Tree} {b : Backups} (values : List (String × Value))
      (loaded : Backups.load t w.editor.root (w.editor.settings.apply values) = .ok (b, t'))
      (same : b.directory = w.editor.backups.directory) :
      Reload ⟨w, t⟩ ⟨{ w with editor :=
        { w.editor with settings := w.editor.settings.apply values, backups := b } }, t'⟩
  | reopen {w w' : Workspace} {t t' : Tree} {root : Path} {s : Settings.Both}
      (opened : Workspace.ofSettings t root s = .ok (w', t'))
      (place : root.resolve = w.editor.backups.root)
      (same : w'.editor.backups.directory = w.editor.backups.directory) :
      Reload ⟨w, t⟩ ⟨w', t'⟩

/-- One thing after the other. The manifest is read again only if `reloads`. -/
inductive Run (Q : Path → Prop) (reloads : Prop) (s : Session) : Session → Prop
  | start : Run Q reloads s s
  | act {s' s'' : Session} (before : Run Q reloads s s') (act : Act Q s' s'') :
      Run Q reloads s s''
  | reload {s' s'' : Session} (before : Run Q reloads s s') (may : reloads)
      (reload : Reload s' s'') : Run Q reloads s s''

/-- What holds of every session: its store made its index itself. -/
structure IsOpen (s : Session) : Prop where
  store : s.backups.IsStore s.tree
  root : s.editor.root = s.backups.root

variable {s s' : Session} {Q : Path → Prop} {reloads : Prop}

/-! ### One step -/

theorem updateSettings_eq {e : Editor} {t : Tree} {values : List (String × Value)}
    (h : namesDirectory values = false) :
    (e.updateSettings t values).1 =
      { e with settings := e.settings.apply values
               backups := { e.backups with settings := e.settings.apply values } } := by
  unfold Editor.updateSettings
  unfold namesDirectory at h
  simp [h]

theorem Act.works (h : Act Q s s') (hs : s.IsOpen) (hout : ∀ q, Q q → ¬ s.backups.place <+: q) :
    s.backups.Works Q s.tree s'.backups s'.tree ∧ s'.editor.root = s.editor.root := by
  obtain ⟨hstore, hroot⟩ := hs
  cases h with
  | apply now payload within =>
    have he := Workspace.apply_edits hstore hout now within
    exact ⟨he.works, he.root⟩
  | rollback now file timestamp within done =>
    have he := Workspace.rollback_edits hstore (hroot ▸ hstore.rooted.root) hout within done
    exact ⟨he.works, he.root⟩
  | undo now u within =>
    have he := Workspace.undo_edits hstore hout now within
    exact ⟨he.works, he.root⟩
  | @settings w t values stays =>
    unfold backups editor
    simp only
    rw [updateSettings_eq stays]
    exact ⟨.ofSettings hstore _, rfl⟩
  | look root hbackups =>
    refine ⟨?_, root⟩
    unfold backups at hstore ⊢
    simp only at hstore ⊢
    rw [hbackups]
    exact .refl hstore
  | edit changes => exact ⟨.ofFiles hstore hout changes fun _ hq => hq.elim id id, rfl⟩

theorem Act.isOpen (h : Act Q s s') (hs : s.IsOpen)
    (hout : ∀ q, Q q → ¬ s.backups.place <+: q) : s'.IsOpen := by
  obtain ⟨hw, hr⟩ := h.works hs hout
  exact ⟨hw.store, (hr.trans hs.root).trans hw.root.symm⟩

theorem ofSettings_eq_ok {t t' : Tree} {root : Path} {s : Settings.Both} {w : Workspace}
    (h : Workspace.ofSettings t root s = .ok (w, t')) :
    w.editor.root = root.resolve ∧
      Backups.load t root.resolve s.modification = .ok (w.editor.backups, t') := by
  unfold Workspace.ofSettings at h
  simp only [bind, Except.bind] at h
  split at h
  · cases h
  · next root' hchecked =>
    obtain ⟨-, rfl⟩ := Backups.checked_eq_ok.1 hchecked
    split at h
    · cases h
    · split at h
      · cases h
      · next editorTree hload =>
        cases h
        unfold Editor.load at hload
        cases hb : Backups.load t root'.resolve s.modification with
        | error f =>
          rw [hb] at hload
          cases hload
        | ok bt =>
          rw [hb] at hload
          cases hload
          exact ⟨rfl, rfl⟩

/-- What was opened is opened again where its store can be loaded. -/
theorem ofSettings_again {t t' t1 t1' : Tree} {root : Path} {s : Settings.Both} {w : Workspace}
    (h : Workspace.ofSettings t root s = .ok (w, t')) {b : Backups}
    (hload : Backups.load t1 root.resolve s.modification = .ok (b, t1')) :
    ∃ w1, Workspace.ofSettings t1 root s = .ok (w1, t1') ∧ w1.editor.backups = b := by
  unfold Workspace.ofSettings at h
  simp only [bind, Except.bind] at h
  split at h
  · cases h
  · next root' hchecked =>
    obtain ⟨hask, rfl⟩ := Backups.checked_eq_ok.1 hchecked
    split at h
    · cases h
    · next resolver hresolver =>
      refine ⟨⟨resolver, ⟨root'.resolve, s.modification, b, [], []⟩⟩, ?_, rfl⟩
      unfold Workspace.ofSettings Editor.load
      simp only [hchecked, hresolver, hload, bind, Except.bind, Except.map]
      rfl

theorem Reload.loaded (h : Reload s s') (hs : s.IsOpen) :
    Backups.Loaded s.tree s.backups.root s'.backups s'.tree ∧
      s'.backups.directory = s.backups.directory ∧ s'.editor.root = s.backups.root := by
  have hlegible := hs.store.rooted.root.isPlain.isLegible
  cases h with
  | @settings w t t' b values loaded same =>
    have hroot : w.editor.root = w.editor.backups.root := hs.root
    rw [hroot] at loaded
    exact ⟨Backups.load_eq_ok hlegible loaded, same, hroot⟩
  | @reopen w w' t t' root settings opened place same =>
    obtain ⟨hroot, hload⟩ := ofSettings_eq_ok opened
    rw [place] at hload
    exact ⟨Backups.load_eq_ok hlegible hload, same, hroot.trans place⟩

theorem Reload.isOpen (h : Reload s s') (hs : s.IsOpen) : s'.IsOpen := by
  obtain ⟨hl, hd, hr⟩ := h.loaded hs
  exact ⟨hl.isStore_again hs.store hd, hr.trans hl.root.symm⟩

/-! ### Runs -/

/-- A run keeps the session one whose store made its index itself, in the same directories. -/
theorem Run.isOpen (h : Run Q reloads s s') (hs : s.IsOpen)
    (hout : ∀ q, Q q → ¬ s.backups.place <+: q) :
    s'.IsOpen ∧ s'.backups.root = s.backups.root ∧
      s'.backups.directory = s.backups.directory := by
  induction h with
  | start => exact ⟨hs, rfl, rfl⟩
  | act before act ih =>
    obtain ⟨ho, hr, hd⟩ := ih
    have hout' (q : Path) (hq : Q q) := Backups.place_congr hd ▸ hout q hq
    have hw := (act.works ho hout').1
    exact ⟨act.isOpen ho hout', hw.root.trans hr, hw.directory.trans hd⟩
  | reload before may reload ih =>
    obtain ⟨ho, hr, hd⟩ := ih
    obtain ⟨hl, hd', -⟩ := reload.loaded ho
    exact ⟨reload.isOpen ho, hl.root.trans hr, hd'.trans hd⟩

theorem Run.mono {reloads' : Prop} (h : Run Q reloads s s') (hr : reloads → reloads') :
    Run Q reloads' s s' := by
  induction h with
  | start => exact .start
  | act before act ih => exact .act ih act
  | reload before may reload ih => exact .reload ih (hr may) reload

/-- A project that is opened where there is no manifest yet. -/
structure Opened (root : Path) (settings : Settings.Both) (s : Session) : Prop where
  legible : root.IsLegible
  opened : ∃ t : Tree, t.IsProper ∧ t.file? s.backups.manifestPath.resolve = none ∧
    Workspace.ofSettings t root settings = .ok (s.workspace, s.tree)

theorem Opened.isOpen {root : Path} {settings : Settings.Both} (h : Opened root settings s) :
    s.IsOpen := by
  obtain ⟨t, ht, hm, hopened⟩ := h.opened
  obtain ⟨hroot, hload⟩ := ofSettings_eq_ok hopened
  have hplace := h.legible.resolve
  have hl := Backups.load_eq_ok hplace.isPlain.isLegible hload
  refine ⟨hl.isStore hplace ht ?_, hroot.trans hl.root.symm⟩
  intro bytes hn
  have hsome := hm.symm.trans (file?_eq_some.2 hn)
  cases hsome

end Session

end Restyle
