import Restyle.Proofs.Rollback

/-!
Who is told of changes, and of which. How calls come out does not depend on who listens, and what is
told follows from how they came out: of a change that was made the styles and then the files, of
files that were given back each one, of a call that failed nothing. A listener that cannot take an
event misses that event, and no one else does.
-/
namespace Restyle

/-- Those who take an event, with the event. -/
def takers (ls : List Listener) (event : ChangeEvent) : List (Nat × ChangeEvent) :=
  (ls.filter fun l => l.takes event).map fun l => (l.id, event)

namespace Editor

/-- The editor if others listen and other things were told before. -/
def hearing (e : Editor) (ls : List Listener) (before : List (Nat × ChangeEvent)) : Editor :=
  { e with listeners := ls, delivered := before }

theorem record_hearing (e : Editor) (ls : List Listener) (before : List (Nat × ChangeEvent))
    (t : Tree) (file : Path) (bytes : ByteArray) :
    (e.hearing ls before).record t file bytes =
      ((e.record t file bytes).1.hearing ls before, (e.record t file bytes).2) := rfl

theorem notifyAll_hearing (e : Editor) (ls : List Listener) (before : List (Nat × ChangeEvent))
    (events : List ChangeEvent) :
    (e.hearing ls before).notifyAll events =
      e.hearing ls (before ++ events.flatMap (takers ls)) := by
  induction events generalizing before with
  | nil =>
    rw [List.flatMap_nil, List.append_nil]
    rfl
  | cons event events ih =>
    have hfirst : (e.hearing ls before).notify event =
        e.hearing ls (before ++ takers ls event) := rfl
    have hcons : (e.hearing ls before).notifyAll (event :: events) =
        ((e.hearing ls before).notify event).notifyAll events := rfl
    rw [hcons, hfirst, ih, List.flatMap_cons, List.append_assoc]

theorem notifyAll_eq (e : Editor) (events : List ChangeEvent) :
    e.notifyAll events =
      e.hearing e.listeners (e.delivered ++ events.flatMap (takers e.listeners)) :=
  notifyAll_hearing e e.listeners e.delivered events

theorem writeBack_hearing (e : Editor) (ls : List Listener) (before : List (Nat × ChangeEvent))
    (t : Tree) (ms : List Modification) :
    (e.hearing ls before).writeBack t ms =
      ((e.writeBack t ms).1, (e.writeBack t ms).2.1.hearing ls before, (e.writeBack t ms).2.2) := by
  induction ms generalizing e t with
  | nil => rfl
  | cons m ms ih =>
    unfold writeBack
    simp only
    cases t.write m.path.resolve m.before.toUTF8 with
    | error f => rfl
    | ok t' => simp only [record_hearing, ih]

/-- What was written back are all the files, or it is not known which. -/
theorem writeBack_paths (e : Editor) (t : Tree) (ms : List Modification) {paths : List Path}
    (h : (e.writeBack t ms).1 = some paths) : paths = ms.map fun m => m.path.resolve := by
  induction ms generalizing e t paths with
  | nil => exact (Option.some.inj h).symm
  | cons m ms ih =>
    unfold writeBack at h
    simp only at h
    split at h
    · cases h
    · obtain ⟨rest, hrest, rfl⟩ := Option.map_eq_some_iff.1 h
      rw [ih _ _ hrest, List.map_cons]

/-- What follows when a copy of a file was restored, or was not. -/
def afterRestore (e : Editor) (now : Clock) (path : Path) : Bool × Tree → Bool × Editor × Tree
  | (false, t) => (false, e, t)
  | (true, t) =>
    match t.read path with
    | .error _ => (false, e, t)
    | .ok bytes =>
      (true, (e.record t path bytes).1.notify (fileChanged now path), (e.record t path bytes).2)

theorem rollback_eq (e : Editor) (t : Tree) (now : Clock) (v : Value) (timestamp : Option Value) :
    e.rollback t now v timestamp =
      (e.pathOf v).bind fun path =>
        (e.backups.restore t path timestamp).map (e.afterRestore now path) := by
  unfold rollback
  cases e.pathOf v with
  | error f => rfl
  | ok path =>
    change (e.backups.restore t path timestamp).bind _ = (e.backups.restore t path timestamp).map _
    rcases e.backups.restore t path timestamp with f | ⟨_ | _, t'⟩
    · rfl
    · rfl
    · simp only [Except.bind, Except.map, afterRestore, if_true]
      cases t'.read path <;> rfl

/-- What is told of a file that was to be given back a copy. -/
def restoredEvents (now : Clock) (path : Path) (restored : Bool) : List ChangeEvent :=
  if restored then [fileChanged now path] else []

theorem afterRestore_hearing (e : Editor) (now : Clock) (path : Path) (r : Bool × Tree)
    (ls : List Listener) (before : List (Nat × ChangeEvent)) :
    (e.hearing ls before).afterRestore now path r =
      ((e.afterRestore now path r).1,
        (e.afterRestore now path r).2.1.hearing ls
          (before ++ (restoredEvents now path (e.afterRestore now path r).1).flatMap (takers ls)),
        (e.afterRestore now path r).2.2) := by
  rcases r with ⟨_ | _, t⟩
  · simp [afterRestore, restoredEvents]
  · simp only [afterRestore]
    cases t.read path with
    | error f => simp [restoredEvents]
    | ok bytes =>
      have hnotify := notifyAll_hearing (e.record t path bytes).1 ls before [fileChanged now path]
      simp only [record_hearing]
      exact congrArg (fun editor => (true, editor, (e.record t path bytes).2)) hnotify

/-- What is told of an edit that was to be taken back. -/
def undoneEvents (now : Clock) (u : Undo) (done : Bool) : List ChangeEvent :=
  if done then u.modifications.reverse.map fun m => fileChanged now m.path.resolve else []

theorem undo_hearing (e : Editor) (t : Tree) (now : Clock) (u : Undo) (ls : List Listener)
    (before : List (Nat × ChangeEvent)) :
    (e.hearing ls before).undo t now u =
      ((e.undo t now u).1,
        (e.undo t now u).2.1.hearing ls
          (before ++ (undoneEvents now u (e.undo t now u).1).flatMap (takers ls)),
        (e.undo t now u).2.2) := by
  unfold undo
  cases u.allowed with
  | false => simp [undoneEvents]
  | true =>
    simp only [writeBack_hearing, if_true]
    rcases hwritten : e.writeBack t u.modifications.reverse with ⟨_ | paths, e', t'⟩
    · simp [undoneEvents]
    · have hpaths := writeBack_paths e t u.modifications.reverse (congrArg Prod.fst hwritten)
      have hevents : paths.map (fileChanged now) = undoneEvents now u true := by
        rw [hpaths, List.map_map]
        rfl
      simp only [hevents, notifyAll_hearing, notifyAll_eq e']
      rfl

end Editor

namespace Plan

theorem styles_of_carryOut {p : Plan} {f : Framework} {b b' : Backups} {t t' : Tree}
    {now : Readings} {styles : Style.Declarations} {e : Edited}
    (h : p.carryOut f b t now styles = (.ok e, b', t')) : e.styles = styles := by
  unfold carryOut at h
  split at h
  · cases h
  · split at h
    · cases h
    · split at h <;> cases h
      rfl

end Plan

namespace Workspace

/-- The project if others listen and other things were told before. -/
def hearing (w : Workspace) (ls : List Listener) (before : List (Nat × ChangeEvent)) : Workspace :=
  { w with editor := w.editor.hearing ls before }

variable {t : Tree} {now : Readings} {c : Change}

theorem placeOf_hearing (w : Workspace) (t : Tree) (now : Clock) (c : Change) (ls : List Listener)
    (before : List (Nat × ChangeEvent)) :
    (w.hearing ls before).placeOf t now c =
      ((w.placeOf t now c).1, (w.placeOf t now c).2.hearing ls before) := by
  cases hsource : c.source with
  | some l =>
    have hpath : (w.hearing ls before).editor.pathOf l.file = w.editor.pathOf l.file := rfl
    simp only [placeOf, hsource, hpath]
    cases w.editor.pathOf l.file <;> rfl
  | none =>
    have hresolver : (w.hearing ls before).resolver = w.resolver := rfl
    simp only [placeOf, hsource, hresolver]
    rcases w.resolver.findCapture t now c.capture with ⟨_ | s, resolver⟩ <;> rfl

theorem recordAll_hearing (e : Editor) (t : Tree) (ms : List Modification) (ls : List Listener)
    (before : List (Nat × ChangeEvent)) :
    recordAll (e.hearing ls before) t ms =
      ((recordAll e t ms).1.hearing ls before, (recordAll e t ms).2) := by
  induction ms generalizing e t with
  | nil => rfl
  | cons m ms ih =>
    exact ih (e.record t m.path m.after.toUTF8).1 (e.record t m.path m.after.toUTF8).2

theorem edit_eq_ok {f : Framework} {method : Option Style.Method} {sheet : Value} {file : Path}
    {line : Int} {b b' : Backups} {t t' : Tree} {e : Edited}
    (h : c.edit f method sheet file line b t now = (.ok e, b', t')) :
    e.styles = c.styles ∧ ∃ m ms, e.modifications = m :: ms ∧ m.path = file := by
  unfold Change.edit at h
  split at h
  · cases h
  · next plan hplan =>
    refine ⟨Plan.styles_of_carryOut h, ?_⟩
    have hpaths := Plan.modifications_of_carryOut h
    rw [(Plan.make_isFor hplan).source, List.map_eq_cons_iff] at hpaths
    obtain ⟨m, ms, hms, hpath, -⟩ := hpaths
    exact ⟨m, ms, hms, hpath⟩

/-- What is told of an edit that was tried. -/
def editEvents (settings : Settings) (now : Clock) (file : Path) :
    Except Problem Edited → List ChangeEvent
  | .ok e => eventsOf settings now file e
  | .error _ => []

theorem editAt_hearing (w : Workspace) (t : Tree) (now : Readings) (c : Change) (file : Path)
    (line : Int) (f : Framework) (ls : List Listener) (before : List (Nat × ChangeEvent)) :
    (w.hearing ls before).editAt t now c file line f =
      ((w.editAt t now c file line f).1,
        (w.editAt t now c file line f).2.1.hearing ls
          (before ++ (editEvents w.editor.settings now.stamp file
            (w.editAt t now c file line f).1).flatMap (takers ls)),
        (w.editAt t now c file line f).2.2) := by
  have hbackups : (w.hearing ls before).editor.backups = w.editor.backups := rfl
  have hsettings : (w.hearing ls before).editor.settings = w.editor.settings := rfl
  simp only [editAt, hbackups, hsettings]
  rcases c.edit f (Style.Method.ofWord? (w.editor.settings.word "preferred_update_method"))
    (w.editor.settings.value "class_stylesheet") file line w.editor.backups t now with
    ⟨_ | e, backups, t'⟩
  · simp only [editEvents, List.flatMap_nil, List.append_nil]
    rfl
  · have hrecord := recordAll_hearing { w.editor with backups } t' e.modifications ls before
    have hnotify := congrArg
      (fun r : Editor × Tree => r.1.notifyAll (eventsOf w.editor.settings now.stamp file e)) hrecord
    have htree := congrArg Prod.snd hrecord
    simp only [Editor.notifyAll_hearing] at hnotify
    simp only [editEvents]
    refine Prod.ext rfl (Prod.ext ?_ htree)
    rw [Editor.notifyAll_eq (recordAll { w.editor with backups } t' e.modifications).1]
    exact congrArg (fun editor => { w with editor }) hnotify

theorem editAt_eq_ok {w : Workspace} {file : Path} {line : Int} {f : Framework} {e : Edited}
    (h : (w.editAt t now c file line f).1 = .ok e) :
    e.styles = c.styles ∧ ∃ m ms, e.modifications = m :: ms ∧ m.path = file := by
  unfold editAt at h
  simp only at h
  split at h
  · cases h
  · next hedit =>
    cases h
    exact edit_eq_ok hedit

/-- What is told of a change, by how it came out: of one that was made the styles that were asked
for, and then the files that were written if they are to be loaded again. -/
inductive TellsChange (w : Workspace) (t : Tree) (now : Readings) (c : Change) (r : EditReport) :
    List ChangeEvent → Prop
  | failed {p : Problem} (fails : r.outcome = .error p) : TellsChange w t now c r []
  | made {file : Path} {line : Int} {e : Edited} {m : Modification} {ms : List Modification}
      (place : (w.placeOf t now.stamp c).1 = .ok (file, line)) (succeeds : r.outcome = .ok e)
      (written : e.modifications = m :: ms) (first : m.path = file) :
      TellsChange w t now c r
        ({ kind := .stylesUpdated, path := file, styles := c.styles
           timestamp := now.stamp.millis } ::
          if w.editor.settings.isOn "enable_live_reload" then
            e.modifications.map fun m => Editor.fileChanged now.stamp m.path
          else [])

/-- Whether a step comes to the same whoever listens, and tells of events. -/
def Announces {α : Type} (step : Workspace → α × Workspace × Tree) (w : Workspace)
    (events : List ChangeEvent) : Prop :=
  ∀ ls before, step (w.hearing ls before) =
    ((step w).1, (step w).2.1.hearing ls (before ++ events.flatMap (takers ls)), (step w).2.2)

/-- What is to be told does not depend on who listens. -/
theorem TellsChange.hearing {w : Workspace} {r : EditReport} {events : List ChangeEvent}
    (h : TellsChange w t now c r events) (ls : List Listener)
    (before : List (Nat × ChangeEvent)) : TellsChange (w.hearing ls before) t now c r events := by
  cases h with
  | failed fails => exact .failed fails
  | made place succeeds written first =>
    have hplace :
        ((w.hearing ls before).placeOf t now.stamp c).1 = (w.placeOf t now.stamp c).1 := by
      rw [placeOf_hearing]
    exact .made (hplace.trans place) succeeds written first

/-- The report of an edit that was tried. -/
def reported (conflicts : List Conflict) (outcome : Except Problem Edited) : EditReport :=
  match outcome with
  | .error p => { outcome, conflicts := if p.isReported then conflicts else [] }
  | .ok _ => { outcome, conflicts }

theorem outcome_reported (conflicts : List Conflict) (outcome : Except Problem Edited) :
    (reported conflicts outcome).outcome = outcome := by
  cases outcome <;> rfl

/-- A change that nothing stands against comes out as the edit at its place does. -/
theorem applyChange_eq_editAt {w w' : Workspace} {file : Path} {line : Int} {f : Framework}
    (hplace : w.placeOf t now.stamp c = (.ok (file, line), w'))
    (hcancel : ¬ (!(Conflict.find w'.editor.backups t file).isEmpty && cancels w'.editor.settings))
    (hframework : (w'.resolver.detect t).framework? = some f) (hsupported : Change.isSupported f) :
    w.applyChange t now c =
      let r := editAt { w' with resolver := w'.resolver.detect t } t now c file line f
      (reported (Conflict.find w'.editor.backups t file) r.1, r.2.1, r.2.2) := by
  simp only [applyChange, hplace, hcancel, hframework, hsupported, if_true]
  rcases editAt { w' with resolver := w'.resolver.detect t } t now c file line f with
    ⟨_ | _, w'', t'⟩ <;> rfl

theorem tells_of_failed {report : EditReport} {p : Problem} {w w' : Workspace} {t' : Tree}
    (h : w.applyChange t now c = (report, w', t')) (fails : report.outcome = .error p)
    (hothers : ∀ ls before, (w.hearing ls before).applyChange t now c =
      (report, w'.hearing ls before, t')) :
    ∃ events, TellsChange w t now c (w.applyChange t now c).1 events ∧
      Announces (fun w => w.applyChange t now c) w events := by
  refine ⟨[], ?_, fun ls before => ?_⟩
  · rw [h]
    exact .failed fails
  · simp only [hothers, h, List.flatMap_nil, List.append_nil]

/-- A change that nothing stands against tells of what the edit at its place tells. -/
theorem tells_of_edit {w w' : Workspace} {file : Path} {line : Int} {f : Framework}
    (heditor : w'.editor = w.editor) (hplace : w.placeOf t now.stamp c = (.ok (file, line), w'))
    (hcancel : ¬ (!(Conflict.find w'.editor.backups t file).isEmpty && cancels w'.editor.settings))
    (hframework : (w'.resolver.detect t).framework? = some f) (hsupported : Change.isSupported f) :
    ∃ events, TellsChange w t now c (w.applyChange t now c).1 events ∧
      Announces (fun w => w.applyChange t now c) w events := by
  have hself := applyChange_eq_editAt hplace hcancel hframework hsupported
  refine ⟨editEvents w'.editor.settings now.stamp file
    (editAt { w' with resolver := w'.resolver.detect t } t now c file line f).1, ?_,
    fun ls before => ?_⟩
  · have houtcome : (w.applyChange t now c).1.outcome =
        (editAt { w' with resolver := w'.resolver.detect t } t now c file line f).1 := by
      rw [hself]
      exact outcome_reported _ _
    cases hedit :
      (editAt { w' with resolver := w'.resolver.detect t } t now c file line f).1 with
    | error p => exact .failed (houtcome.trans hedit)
    | ok e =>
      obtain ⟨hstyles, m, ms, hms, hpath⟩ := editAt_eq_ok hedit
      have hplaced : (w.placeOf t now.stamp c).1 = .ok (file, line) := by rw [hplace]
      have hmade := TellsChange.made hplaced (houtcome.trans hedit) hms hpath
      simpa only [editEvents, eventsOf, hstyles, heditor] using hmade
  · have hplace' : (w.hearing ls before).placeOf t now.stamp c =
        (.ok (file, line), w'.hearing ls before) := by
      rw [placeOf_hearing, hplace]
    have hothers := editAt_hearing { w' with resolver := w'.resolver.detect t } t now c file
      line f ls before
    simp only [hself, applyChange_eq_editAt hplace' hcancel hframework hsupported]
    exact congrArg (fun r : Except Problem Edited × Workspace × Tree =>
      (reported (Conflict.find w'.editor.backups t file) r.1, r.2)) hothers

theorem applyChange_tells (w : Workspace) (t : Tree) (now : Readings) (c : Change) :
    ∃ events, TellsChange w t now c (w.applyChange t now c).1 events ∧
      Announces (fun w => w.applyChange t now c) w events := by
  have heditor := (placeOf_cases w t now.stamp c).1
  rcases hplace : w.placeOf t now.stamp c with ⟨p | ⟨file, line⟩, w'⟩
  · refine tells_of_failed (by simp only [applyChange, hplace]; rfl) rfl fun ls before => ?_
    simp only [applyChange, placeOf_hearing, hplace]
  replace heditor : w'.editor = w.editor := by rwa [hplace] at heditor
  have hbackups (ls before) : (w'.hearing ls before).editor.backups = w'.editor.backups := rfl
  have hsettings (ls before) : (w'.hearing ls before).editor.settings = w'.editor.settings := rfl
  have hresolver (ls before) : (w'.hearing ls before).resolver = w'.resolver := rfl
  by_cases hcancel : !(Conflict.find w'.editor.backups t file).isEmpty &&
      cancels w'.editor.settings
  · refine tells_of_failed (by simp only [applyChange, hplace, hcancel, if_true]; rfl) rfl
      fun ls before => ?_
    simp only [applyChange, placeOf_hearing, hplace, hbackups, hsettings, hcancel, if_true]
  cases hframework : (w'.resolver.detect t).framework? with
  | none =>
    refine tells_of_failed (by simp only [applyChange, hplace, hcancel, hframework]; rfl) rfl
      fun ls before => ?_
    simp only [applyChange, placeOf_hearing, hplace, hbackups, hsettings, hresolver, hcancel,
      hframework]
    rfl
  | some f =>
    by_cases hsupported : Change.isSupported f
    · exact tells_of_edit heditor hplace hcancel hframework hsupported
    · refine tells_of_failed (by
        simp only [applyChange, hplace, hcancel, hframework, hsupported]; rfl) rfl
        fun ls before => ?_
      simp only [applyChange, placeOf_hearing, hplace, hbackups, hsettings, hresolver, hcancel,
        hframework, hsupported]
      rfl

end Workspace

/-- What one can ask for that may change files. -/
inductive Call where
  | apply (payload : Value)
  /-- A change that has been read already. -/
  | change (c : Change)
  | rollback (file : Value) (timestamp : Option Value)
  | undo (u : Undo)

/-- How a call came out. -/
inductive Outcome where
  | applied (report : EditReport)
  | restored (restored : Except Fault Bool)
  | undone (done : Bool)

/-- The change that a call asks for, if it asks for one. -/
def Call.change? : Call → Option Change
  | .apply payload => (Change.ofPayload payload).toOption
  | .change c => some c
  | _ => none

namespace Session

/-- The session if others listen and other things were told before. -/
def hearing (s : Session) (ls : List Listener) (before : List (Nat × ChangeEvent)) : Session :=
  { s with workspace := s.workspace.hearing ls before }

/-- The session if others listen from now on. -/
def listening (s : Session) (ls : List Listener) : Session := s.hearing ls s.editor.delivered

def call (s : Session) (now : Readings) : Call → Outcome × Session
  | .apply payload =>
    let (r, w, t) := s.workspace.apply s.tree now payload
    (.applied r, ⟨w, t⟩)
  | .change c =>
    let (r, w, t) := s.workspace.applyChange s.tree now c
    (.applied r, ⟨w, t⟩)
  | .rollback file timestamp =>
    match s.editor.rollback s.tree now.stamp file timestamp with
    | .error f => (.restored (.error f), s)
    | .ok (restored, e, t) =>
      (.restored (.ok restored), ⟨{ s.workspace with editor := e }, t⟩)
  | .undo u =>
    let (done, e, t) := s.editor.undo s.tree now.stamp u
    (.undone done, ⟨{ s.workspace with editor := e }, t⟩)

/-- What is told of a call, by how it came out: of a change what is told of changes, of files that
were given back each of them, of a call that failed nothing. -/
inductive Tells (s : Session) (now : Readings) : Call → Outcome → List ChangeEvent → Prop
  | refused {call : Call} {report : EditReport} {p : Problem} (fails : report.outcome = .error p) :
      Tells s now call (.applied report) []
  | changed {call : Call} {c : Change} {report : EditReport} {events : List ChangeEvent}
      (asks : call.change? = some c)
      (tells : s.workspace.TellsChange s.tree now c report events) :
      Tells s now call (.applied report) events
  | restored {file : Value} {timestamp : Option Value} {path : Path}
      (place : s.editor.pathOf file = .ok path) :
      Tells s now (.rollback file timestamp) (.restored (.ok true))
        [Editor.fileChanged now.stamp path]
  | notRestored {file : Value} {timestamp : Option Value} :
      Tells s now (.rollback file timestamp) (.restored (.ok false)) []
  | stopped {file : Value} {timestamp : Option Value} {f : Fault} :
      Tells s now (.rollback file timestamp) (.restored (.error f)) []
  | undone {u : Undo} :
      Tells s now (.undo u) (.undone true)
        (u.modifications.reverse.map fun m => Editor.fileChanged now.stamp m.path.resolve)
  | notUndone {u : Undo} : Tells s now (.undo u) (.undone false) []

/-- Whether a call comes to the same whoever listens, and tells of events. -/
def Announces (s : Session) (now : Readings) (call : Call) (events : List ChangeEvent) : Prop :=
  ∀ ls before, (s.hearing ls before).call now call =
    ((s.call now call).1, (s.call now call).2.hearing ls (before ++ events.flatMap (takers ls)))

variable {s : Session} {now : Readings}

theorem change_tells (s : Session) (now : Readings) (c : Change) {call : Call}
    (asks : call.change? = some c) :
    ∃ events, s.Tells now call (s.call now (.change c)).1 events ∧
      s.Announces now (.change c) events := by
  obtain ⟨events, htells, hothers⟩ := s.workspace.applyChange_tells s.tree now c
  refine ⟨events, .changed asks htells, fun ls before => ?_⟩
  exact congrArg (fun r : EditReport × Workspace × Tree =>
    (Outcome.applied r.1, (⟨r.2.1, r.2.2⟩ : Session))) (hothers ls before)

/-- A payload asks for the change that it describes, or it is refused by everyone. -/
theorem apply_cases (payload : Value) :
    (∃ c, Change.ofPayload payload = .ok c ∧
      ∀ (s : Session) now, s.call now (.apply payload) = s.call now (.change c)) ∨
    ∃ p, ∀ (s : Session) now, s.call now (.apply payload) = (.applied (.failure p), s) := by
  by_cases htable : ∃ fields, payload = .table fields
  · obtain ⟨fields, rfl⟩ := htable
    cases hread : Change.ofPayload (.table fields) with
    | ok c =>
      refine .inl ⟨c, rfl, fun s now => ?_⟩
      simp only [call, Workspace.apply, hread]
    | error f =>
      refine .inr ⟨.fault f, fun s now => ?_⟩
      simp only [call, Workspace.apply, hread]
  · refine .inr ⟨.fault (.noMember payload.kind "source_info"), fun s now => ?_⟩
    simp only [call]
    unfold Workspace.apply
    split
    · next fields => exact absurd ⟨fields, rfl⟩ htable
    · rfl

theorem rollback_tells (s : Session) (now : Readings) (file : Value) (timestamp : Option Value) :
    ∃ events, s.Tells now (.rollback file timestamp) (s.call now (.rollback file timestamp)).1
        events ∧
      s.Announces now (.rollback file timestamp) events := by
  have heditor (ls before) : (s.hearing ls before).editor = s.editor.hearing ls before := rfl
  have htree (ls before) : (s.hearing ls before).tree = s.tree := rfl
  have hpathOf (ls before) : (s.editor.hearing ls before).pathOf file = s.editor.pathOf file := rfl
  have hbackups (ls before) : (s.editor.hearing ls before).backups = s.editor.backups := rfl
  simp only [Announces, call, heditor, htree, Editor.rollback_eq, hpathOf, hbackups]
  cases hpath : s.editor.pathOf file with
  | error f => exact ⟨[], .stopped, fun ls before => by simp [Except.bind]⟩
  | ok path =>
    simp only [Except.bind]
    cases s.editor.backups.restore s.tree path timestamp with
    | error f => exact ⟨[], .stopped, fun ls before => by simp [Except.map]⟩
    | ok r =>
      simp only [Except.map, Editor.afterRestore_hearing]
      rcases s.editor.afterRestore now.stamp path r with ⟨_ | _, e, t⟩
      · exact ⟨[], .notRestored, fun ls before => rfl⟩
      · exact ⟨[Editor.fileChanged now.stamp path], .restored hpath, fun ls before => rfl⟩

theorem undo_tells (s : Session) (now : Readings) (u : Undo) :
    ∃ events, s.Tells now (.undo u) (s.call now (.undo u)).1 events ∧
      s.Announces now (.undo u) events := by
  have heditor (ls before) : (s.hearing ls before).editor = s.editor.hearing ls before := rfl
  have htree (ls before) : (s.hearing ls before).tree = s.tree := rfl
  simp only [Announces, call, heditor, htree, Editor.undo_hearing]
  rcases s.editor.undo s.tree now.stamp u with ⟨_ | _, e, t⟩
  · exact ⟨[], .notUndone, fun ls before => rfl⟩
  · exact ⟨_, .undone, fun ls before => rfl⟩

theorem call_tells (s : Session) (now : Readings) (call : Call) :
    ∃ events, s.Tells now call (s.call now call).1 events ∧ s.Announces now call events := by
  cases call with
  | change c => exact change_tells s now c rfl
  | apply payload =>
    rcases apply_cases payload with ⟨c, hread, hcall⟩ | ⟨p, hcall⟩
    · simp only [Announces, hcall]
      exact change_tells s now c (by simp only [Call.change?, hread, Except.toOption])
    · refine ⟨[], ?_, fun ls before => ?_⟩
      · rw [hcall]
        exact .refused rfl
      · rw [hcall, hcall, List.flatMap_nil, List.append_nil]
  | rollback file timestamp => exact rollback_tells s now file timestamp
  | undo u => exact undo_tells s now u

/-- What is to be told does not depend on who listens. -/
theorem Tells.hearing {call : Call} {o : Outcome} {events : List ChangeEvent}
    (h : s.Tells now call o events) (ls : List Listener) (before : List (Nat × ChangeEvent)) :
    (s.hearing ls before).Tells now call o events := by
  cases h with
  | refused fails => exact .refused fails
  | changed asks tells => exact .changed asks (tells.hearing ls before)
  | restored place => exact .restored place
  | notRestored => exact .notRestored
  | stopped => exact .stopped
  | undone => exact .undone
  | notUndone => exact .notUndone

/-! ### Runs -/

/-- A call with the session it was made in and how it came out. -/
structure Record where
  session : Session
  now : Readings
  call : Call
  outcome : Outcome

/-- What is told of a call that was made. -/
def Record.Tells (r : Record) (events : List ChangeEvent) : Prop :=
  r.session.Tells r.now r.call r.outcome events

/-- The calls that are made one after the other. Who listens to each of them is free. -/
def trace (s : Session) (hears : Nat → List Listener) : List (Readings × Call) → List Record
  | [] => []
  | (now, call) :: rest =>
    let r := (s.listening (hears 0)).call now call
    ⟨s.listening (hears 0), now, call, r.1⟩ :: trace r.2 (fun n => hears (n + 1)) rest

/-- The session after calls. -/
def after (s : Session) (hears : Nat → List Listener) : List (Readings × Call) → Session
  | [] => s
  | (now, call) :: rest =>
    after ((s.listening (hears 0)).call now call).2 (fun n => hears (n + 1)) rest

/-- Who takes which of the events that are told with the calls. -/
def deliveries (hears : Nat → List Listener) : List (List ChangeEvent) → List (Nat × ChangeEvent)
  | [] => []
  | events :: told =>
    events.flatMap (takers (hears 0)) ++ deliveries (fun n => hears (n + 1)) told

/-- The events that one of the listeners took. -/
def heardBy (id : Nat) (delivered : List (Nat × ChangeEvent)) : List ChangeEvent :=
  (delivered.filter fun d => d.1 == id).map (·.2)

theorem heardBy_append (id : Nat) (before after : List (Nat × ChangeEvent)) :
    heardBy id (before ++ after) = heardBy id before ++ heardBy id after := by
  simp [heardBy]

/-- One who is on the list once takes what it can of the events. -/
theorem heardBy_takers {ls : List Listener} {l : Listener}
    (h : ls.filter (fun l' => l'.id == l.id) = [l]) (events : List ChangeEvent) :
    heardBy l.id (events.flatMap (takers ls)) = events.filter l.takes := by
  induction events with
  | nil => rfl
  | cons event events ih =>
    have hone : heardBy l.id (takers ls event) = if l.takes event then [event] else [] := by
      rw [heardBy, takers, List.filter_map, List.map_map, List.filter_filter]
      have hcomm : ls.filter (fun l' => (((fun d : Nat × ChangeEvent => d.1 == l.id) ∘
          fun l => (l.id, event)) l' && l'.takes event)) =
          (ls.filter fun l' => l'.id == l.id).filter fun l' => l'.takes event := by
        rw [List.filter_filter]
        exact List.filter_congr fun l' _ => Bool.and_comm _ _
      rw [hcomm, h]
      cases htakes : l.takes event <;> simp [htakes]
    rw [List.flatMap_cons, heardBy_append, ih, hone, List.filter_cons]
    split <;> rfl

theorem heardBy_deliveries {l : Listener} {hears : Nat → List Listener}
    {told : List (List ChangeEvent)}
    (h : ∀ n < told.length, (hears n).filter (fun l' => l'.id == l.id) = [l]) :
    heardBy l.id (deliveries hears told) = told.flatten.filter l.takes := by
  induction told generalizing hears with
  | nil => rfl
  | cons events told ih =>
    have hrest := ih fun n hn => h (n + 1) (Nat.succ_lt_succ hn)
    rw [deliveries, heardBy_append, heardBy_takers (h 0 (Nat.zero_lt_succ _)), hrest,
      List.flatten_cons, List.filter_append]

/-- Calls come out the same whoever listens, and tell of the same. -/
theorem exists_told (s : Session) (calls : List (Readings × Call)) :
    ∃ (outcomes : List Outcome) (s' : Session) (told : List (List ChangeEvent)),
      told.length = calls.length ∧ ∀ hears ls before,
      ((s.hearing ls before).trace hears calls).map (·.outcome) = outcomes ∧
      List.Forall₂ Record.Tells ((s.hearing ls before).trace hears calls) told ∧
      ∃ ls', (s.hearing ls before).after hears calls =
        s'.hearing ls' (before ++ deliveries hears told) := by
  induction calls generalizing s with
  | nil =>
    refine ⟨[], s, [], rfl, fun hears ls before => ⟨rfl, .nil, ls, ?_⟩⟩
    rw [after, deliveries, List.append_nil]
  | cons c calls ih =>
    obtain ⟨now, call⟩ := c
    obtain ⟨events, htells, hothers⟩ := call_tells s now call
    obtain ⟨outcomes, s', told, hlength, hrest⟩ := ih (s.call now call).2
    refine ⟨(s.call now call).1 :: outcomes, s', events :: told, by simp [hlength],
      fun hears ls before => ?_⟩
    have hlistening : (s.hearing ls before).listening (hears 0) = s.hearing (hears 0) before := rfl
    have hcall := hothers (hears 0) before
    obtain ⟨houtcomes, htold, ls', hafter⟩ := hrest (fun n => hears (n + 1)) (hears 0)
      (before ++ events.flatMap (takers (hears 0)))
    refine ⟨?_, ?_, ls', ?_⟩
    · simp only [trace, hlistening, hcall, List.map_cons, houtcomes]
    · simp only [trace, hlistening, hcall]
      exact .cons (htells.hearing (hears 0) before) htold
    · simp only [after, hlistening, hcall, hafter, deliveries, List.append_assoc]

/-- Calls come out the same whoever listens to each of them, and tell of what they came to: each one
of its own events, in their order, and whoever takes an event is told of it. One who listens all the
time hears all that it takes, whatever becomes of the others. -/
theorem calls_told (s : Session) (calls : List (Readings × Call)) :
    ∃ outcomes t told, ∀ hears : Nat → List Listener,
      (s.trace hears calls).map (·.outcome) = outcomes ∧
      (s.after hears calls).tree = t ∧
      List.Forall₂ Record.Tells (s.trace hears calls) told ∧
      (s.after hears calls).editor.delivered = s.editor.delivered ++ deliveries hears told ∧
      ∀ l, (∀ n < calls.length, (hears n).filter (fun l' => l'.id == l.id) = [l]) →
        heardBy l.id (s.after hears calls).editor.delivered =
          heardBy l.id s.editor.delivered ++ told.flatten.filter l.takes := by
  obtain ⟨outcomes, s', told, hlength, hall⟩ := exists_told s calls
  refine ⟨outcomes, s'.tree, told, fun hears => ?_⟩
  obtain ⟨houtcomes, htold, ls', hafter⟩ := hall hears s.editor.listeners s.editor.delivered
  have hself : s.hearing s.editor.listeners s.editor.delivered = s := rfl
  rw [hself] at houtcomes htold hafter
  have hdelivered : (s.after hears calls).editor.delivered =
      s.editor.delivered ++ deliveries hears told := by
    rw [hafter]
    rfl
  refine ⟨houtcomes, by rw [hafter]; rfl, htold, hdelivered, fun l hl => ?_⟩
  rw [hdelivered, heardBy_append, heardBy_deliveries (hlength ▸ hl)]

/-- One that takes no event, and one behind it that takes them all. -/
def brokenAndSound : List Listener := [⟨1, fun _ => false⟩, ⟨0, fun _ => true⟩]

/-- A change, and the file given back. -/
def redAndBack : List (Readings × Call) :=
  [(.still ⟨0⟩, .apply (redIn "App.jsx")), (.still ⟨1⟩, .rollback (.str "App.jsx") none)]

def redThenBack : Session :=
  after ⟨Workspace.smallWorkspace, Workspace.smallTree⟩ (fun _ => brokenAndSound) redAndBack

theorem calls_told_beside_broken :
    (heardBy 0 redThenBack.editor.delivered).map (fun e => (e.kind.word, e.path)) =
      [("styles-updated", ["w", "App.jsx"]), ("file-changed", ["w", "App.jsx"]),
        ("file-changed", ["w", "App.jsx"])] ∧
    heardBy 1 redThenBack.editor.delivered = [] ∧
    ∃ told, List.Forall₂ Record.Tells
        (trace ⟨Workspace.smallWorkspace, Workspace.smallTree⟩ (fun _ => brokenAndSound) redAndBack)
        told ∧
      heardBy 0 redThenBack.editor.delivered = told.flatten := by
  obtain ⟨_, _, told, hall⟩ :=
    calls_told ⟨Workspace.smallWorkspace, Workspace.smallTree⟩ redAndBack
  obtain ⟨-, -, htold, -, hheard⟩ := hall fun _ => brokenAndSound
  refine ⟨by decide +kernel, ?_, told, htold, ?_⟩
  · have hbroken := hheard ⟨1, fun _ => false⟩ fun _ _ => rfl
    have hnone : told.flatten.filter (fun _ => false) = [] := List.filter_false _
    exact hbroken.trans hnone
  · have hsound := hheard ⟨0, fun _ => true⟩ fun _ _ => rfl
    have hall : told.flatten.filter (fun _ => true) = told.flatten := List.filter_true _
    exact hsound.trans hall

end Session

end Restyle
