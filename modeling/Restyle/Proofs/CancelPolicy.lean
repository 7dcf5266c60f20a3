import Restyle.Proofs.ConflictRun
import Restyle.Proofs.WrittenFiles

/-!
The policy to cancel. A change that is aimed at a file which others have edited is not made, and
nothing happens. The stylesheet of a change is not asked about, and is written over their edits.
-/
namespace Restyle

open Restyle.Tree

namespace Workspace

variable {w : Workspace} {t : Tree} {now : Readings} {payload : Value} {plan : Plan} {file : Path}

/-- Whether a request is for a change in the file. -/
def AimsAt (w : Workspace) (t : Tree) (now : Readings) (payload : Value) (file : Path) : Prop :=
  ∃ c line, Change.ofPayload payload = .ok c ∧ (w.placeOf t now.stamp c).1 = .ok (file, line)

theorem Plans.aimsAt (h : w.Plans t now payload plan) : w.AimsAt t now payload plan.source := by
  obtain ⟨c, file, line, hc, hplace, hmake⟩ := h
  rw [(Plan.make_isFor hmake).source]
  exact ⟨c, line, hc, hplace⟩

theorem apply_of_payload {c : Change} (h : Change.ofPayload payload = .ok c) :
    w.apply t now payload = w.applyChange t now c := by
  unfold apply
  split
  · rw [h]
  · next hno =>
    unfold Change.ofPayload at h
    split at h
    · exact absurd rfl (hno _)
    · cases h

/-- A change of a file in conflict is cancelled where the settings say so, and nothing happens. -/
theorem apply_cancelled (haims : w.AimsAt t now payload file)
    (hconflict : Conflict.find w.editor.backups t file ≠ [])
    (hcancels : cancels w.editor.settings = true) :
    (w.apply t now payload).1.outcome = .error .cancelled ∧
      (w.apply t now payload).1.conflicts = Conflict.find w.editor.backups t file ∧
      (w.apply t now payload).2.1.editor = w.editor ∧ (w.apply t now payload).2.2 = t := by
  obtain ⟨c, line, hc, hplace⟩ := haims
  have heditor := (placeOf_cases w t now.stamp c).1
  rw [apply_of_payload hc]
  unfold applyChange
  revert hplace heditor
  generalize w.placeOf t now.stamp c = placed
  obtain ⟨place, w'⟩ := placed
  rintro hplace heditor
  simp only at hplace heditor
  subst hplace
  have hnonempty : (Conflict.find w.editor.backups t file).isEmpty = false := by
    simpa using hconflict
  simp only [heditor, hcancels, hnonempty, Bool.not_false, Bool.and_self, if_true, and_self]

/-- Whether a request is for a change that writes its rule to the stylesheet at the place. -/
def PlansSheet (w : Workspace) (t : Tree) (now : Readings) (payload : Value) (q : Path)
    (sheet : SheetPlan) : Prop :=
  ∃ plan, w.Plans t now payload plan ∧ plan.sheet = some sheet ∧ sheet.path.resolve = q

end Workspace

namespace Session

open Backups

variable {s : Session} {seen : Ledger} {edits spoils : Prop}

/-- Whether a file has copies and no longer the hash of what is noted of it, or cannot be read. -/
def Strays (s : Session) (seen : Ledger) (q : Path) : Prop :=
  s.backups.history q ≠ [] ∧ ∀ content, seen q = some content →
    ∀ bytes, s.tree.read q = .ok bytes → Digest.short bytes ≠ Digest.short content

/-- A file that strays is in conflict. -/
theorem Logged.conflict_of_strays {root : Path} {settings : Settings.Both}
    (h : Logged root settings edits spoils s seen) {q : Path} (hq : q.IsPlace)
    (hout : ¬ s.backups.place <+: q) (hstrays : s.Strays seen q) :
    Conflict.find s.backups s.tree q ≠ [] := by
  obtain ⟨hsome, hdiffers⟩ := hstrays
  obtain ⟨-, hr⟩ := h.reconciled
  obtain ⟨e, he⟩ : ∃ e, s.backups.latest? q = some e :=
    Option.ne_none_iff_exists'.1 fun hnone => hsome (List.getLast?_eq_none_iff.1 hnone)
  obtain ⟨content, hcontent, hexpected⟩ := (hr.agrees q hq hout).expects e (history_eq hq ▸ he)
  exact (Conflict.find_ne_nil_iff he hexpected).2 (hdiffers content hcontent)

/-- With the policy to cancel, after whatever was done before, where a file strays: a change that is
aimed at it is cancelled, and nothing happens; a change that is made modifies it if and only if it
is its stylesheet, which then has the text that was planned; and no other change writes it. -/
theorem cancel_spares_all_but_stylesheet {root : Path} {settings : Settings.Both}
    (h : Logged root settings edits spoils s seen)
    (hcancels : Workspace.cancels s.editor.settings = true) (now : Readings) (payload : Value)
    {q : Path} (hq : q.IsPlace) (hout : ¬ s.backups.place <+: q) (hstrays : s.Strays seen q) :
    (s.workspace.AimsAt s.tree now payload q →
      (s.workspace.apply s.tree now payload).1.outcome = .error .cancelled ∧
        (s.applied now payload).editor = s.editor ∧ (s.applied now payload).tree = s.tree) ∧
    (∀ e, (s.workspace.apply s.tree now payload).1.outcome = .ok e →
      ((∃ m ∈ e.modifications, m.path.resolve = q) ↔
        ∃ sheet, s.workspace.PlansSheet s.tree now payload q sheet ∧
          (s.applied now payload).tree.file? q = some sheet.content.toUTF8)) ∧
    ((s.applied now payload).tree.file? q ≠ s.tree.file? q →
      ∃ sheet, s.workspace.PlansSheet s.tree now payload q sheet) := by
  obtain ⟨hopen, -⟩ := h.reconciled
  have hconflict := h.conflict_of_strays hq hout hstrays
  have hcancelled (haims : s.workspace.AimsAt s.tree now payload q) :=
    Workspace.apply_cancelled haims hconflict hcancels
  refine ⟨fun haims => ?_, fun e hok => ?_, fun hchanged => ?_⟩
  · obtain ⟨hfails, -, heditor, htree⟩ := hcancelled haims
    exact ⟨hfails, heditor, htree⟩
  · obtain ⟨plan, hplan, hfiles⟩ := Workspace.apply_done hok
    rw [hfiles]
    constructor
    · intro hmem
      rcases Workspace.mem_files_cases hplan hmem with rfl | ⟨sheet, hsheet, rfl⟩
      · cases (hcancelled hplan.aimsAt).1.symm.trans hok
      · have hfind := Workspace.apply_done_sheet hopen.store.rooted hopen.store.proper hplan hok
          hsheet hout
        exact ⟨sheet, ⟨plan, hplan, hsheet, rfl⟩, file?_of_find hfind⟩
    · rintro ⟨sheet, ⟨plan', hplan', hsheet, rfl⟩, -⟩
      obtain rfl := hplan'.unique hplan
      exact Plan.sheet_mem_files hsheet
  · have hwritten : ∃ plan, s.workspace.Plans s.tree now payload plan ∧ q ∈ plan.files := by
      refine Classical.byContradiction fun hno => hchanged ?_
      exact Workspace.apply_live hopen.store.rooted hopen.store.proper (hopen.store.live hout)
        fun plan hplan hmem => hno ⟨plan, hplan, hmem⟩
    obtain ⟨plan, hplan, hmem⟩ := hwritten
    rcases Workspace.mem_files_cases hplan hmem with rfl | ⟨sheet, hsheet, hpath⟩
    · exact absurd (congrArg (fun t : Tree => t.file? plan.source) (hcancelled hplan.aimsAt).2.2.2)
        hchanged
    · exact ⟨sheet, plan, hplan, hsheet, hpath⟩

/-! ### A project with the policy to cancel -/

/-- The project with a stylesheet, where changes of files in conflict are to be cancelled. -/
def guarded : Session :=
  ⟨{ (asked Workspace.styledTree).workspace with
      editor := ((asked Workspace.styledTree).editor.updateSettings
        (asked Workspace.styledTree).tree
        [("preferred_update_method", .str "css-class"), ("class_stylesheet", .str "s.css"),
          ("conflict_resolution", .str "cancel")]).1 },
    (asked Workspace.styledTree).tree⟩

/-- The same after a change that went well. -/
def guardedOnce : Session := guarded.applied .zero Workspace.blue

/-- The same after others have written a file. -/
def touched (file : Path) : Session :=
  ⟨guardedOnce.workspace,
    (guardedOnce.tree.write file "mine".toUTF8).toOption.getD guardedOnce.tree⟩

theorem guarded_logged : Logged ["w"] defaults True False guarded fun _ => none := by
  have hopened : Opened ["w"] defaults (fresh Workspace.styledTree) :=
    opened_fresh Workspace.styledTree_isProper (by decide +kernel)
  have hasked : Logged ["w"] defaults True False (asked Workspace.styledTree) fun _ => none :=
    .act (.opened hopened) (.look rfl rfl)
  exact .act hasked (.settings _ (by decide))

theorem guarded_prunes : Prunes guarded.backups.settings :=
  prunes_of_isSome rfl (by decide +kernel)

/-- What is noted of a file once the change was made. -/
def notedOnce (file : Path) : Option ByteArray :=
  ((guarded.workspace.apply guarded.tree .zero Workspace.blue).1.edited?.bind fun e =>
    Ledger.noteAll (fun _ => none) e.modifications file)

/-- What the project is like after the change, and after others have written a file of it. -/
theorem touched_logged {file : Path} (hf : file.IsPlace)
    (hout : ¬ ["w", ".sourcelens-backups"] <+: file)
    (hwritten : (guardedOnce.tree.write file "mine".toUTF8).isOk = true) :
    ∃ seen, Logged ["w"] defaults True False (touched file) seen ∧
      ∀ q, seen q = notedOnce q := by
  have hvalues : (guarded.workspace.planOf? guarded.tree .zero Workspace.blue).map Plan.files =
        some [["w", "App.jsx"], ["w", "s.css"]] ∧
      guarded.backups.place = ["w", ".sourcelens-backups"] ∧
      guardedOnce.backups.place = ["w", ".sourcelens-backups"] ∧
      (guarded.workspace.apply guarded.tree .zero Workspace.blue).1.edited?.isSome = true := by
    decide +kernel
  obtain ⟨hplan, hplace, hplace', hedited⟩ := hvalues
  obtain ⟨e, he⟩ := Option.isSome_iff_exists.1 hedited
  have hwithin : ∀ plan, guarded.workspace.Plans guarded.tree .zero Workspace.blue plan →
      ∀ q ∈ plan.files, ¬ guarded.backups.place <+: q := by
    refine within_of_planOf? hplan ?_
    rw [hplace]
    decide
  have hmade : Logged ["w"] defaults True False guardedOnce
      (Ledger.noteAll (fun _ => none) e.modifications) :=
    .act guarded_logged (.applied .zero Workspace.blue guarded_prunes hwithin
      (Workspace.toOption_eq_some.1 he))
  have hnoted (q : Path) : Ledger.noteAll (fun _ => none) e.modifications q = notedOnce q := by
    unfold notedOnce
    rw [he]
    rfl
  refine ⟨_, .act hmade (.edit trivial ?_), hnoted⟩
  obtain ⟨t', ht'⟩ : ∃ t', guardedOnce.tree.write file "mine".toUTF8 = .ok t' := by
    revert hwritten
    cases guardedOnce.tree.write file "mine".toUTF8 with
    | ok t' => exact fun _ => ⟨t', rfl⟩
    | error f => exact fun h => by cases h
  have hc := write_changes (R := nowhere) hf.isPlain.isLegible ht'
  have htree : (touched file).tree = t' := by
    unfold touched
    rw [ht']
    rfl
  unfold touched at htree
  simp only at htree
  rw [htree]
  refine hc.mono (fun q hq => ?_) fun q hq => hq.elim
  obtain rfl : q = file := hq.trans (Path.resolve_of_isPlace hf)
  exact hplace' ▸ hout

theorem touched_strays {file : Path} {content : ByteArray} {seen : Ledger}
    (hseen : ∀ q, seen q = notedOnce q)
    (hvalues : (touched file).backups.history file ≠ [] ∧ notedOnce file = some content ∧
      ((touched file).tree.read file).toOption = some "mine".toUTF8 ∧
      Digest.short "mine".toUTF8 ≠ Digest.short content) : (touched file).Strays seen file := by
  obtain ⟨hsome, hnoted, hread, hne⟩ := hvalues
  refine ⟨hsome, fun content' hcontent bytes hbytes => ?_⟩
  cases (hseen file ▸ hcontent).symm.trans hnoted
  cases (Workspace.toOption_eq_some.1 hread).symm.trans hbytes
  exact hne

/-- Where others have written the source, the next change of it is cancelled. -/
theorem cancel_spares_source :
    ∃ seen, Logged ["w"] defaults True False (touched ["w", "App.jsx"]) seen ∧
      Workspace.cancels (touched ["w", "App.jsx"]).editor.settings = true ∧
      (touched ["w", "App.jsx"]).Strays seen ["w", "App.jsx"] ∧
      ((touched ["w", "App.jsx"]).workspace.apply (touched ["w", "App.jsx"]).tree .zero
        (redIn "App.jsx")).1.outcome = .error .cancelled ∧
      ((touched ["w", "App.jsx"]).applied .zero (redIn "App.jsx")).tree =
        (touched ["w", "App.jsx"]).tree := by
  have hdigests : Digest.short "mine".toUTF8 ≠
      Digest.short "<div className=\"sourcelens-dynamic-kr6kup\">x</div>\n".toUTF8 := by
    decide +kernel
  have hvalues : (touched ["w", "App.jsx"]).backups.history ["w", "App.jsx"] ≠ [] ∧
      notedOnce ["w", "App.jsx"] =
        some "<div className=\"sourcelens-dynamic-kr6kup\">x</div>\n".toUTF8 ∧
      ((touched ["w", "App.jsx"]).tree.read ["w", "App.jsx"]).toOption = some "mine".toUTF8 ∧
      Workspace.cancels (touched ["w", "App.jsx"]).editor.settings = true ∧
      (touched ["w", "App.jsx"]).backups.place = ["w", ".sourcelens-backups"] ∧
      (guardedOnce.tree.write ["w", "App.jsx"] "mine".toUTF8).isOk = true ∧
      ((Change.ofPayload (redIn "App.jsx")).toOption.bind fun c =>
        ((touched ["w", "App.jsx"]).workspace.placeOf (touched ["w", "App.jsx"]).tree ⟨0⟩
          c).1.toOption) = some (["w", "App.jsx"], 1) := by
    decide +kernel
  obtain ⟨hsome, hnoted, hread, hcancels, hplace, hwritten, haims⟩ := hvalues
  have hf : Path.IsPlace ["w", "App.jsx"] := by decide
  have hout : ¬ (touched ["w", "App.jsx"]).backups.place <+: ["w", "App.jsx"] := by
    rw [hplace]
    decide
  obtain ⟨seen, hlogged, hseen⟩ := touched_logged hf (by decide) hwritten
  have hstrays := touched_strays hseen ⟨hsome, hnoted, hread, hdigests⟩
  obtain ⟨c, hc, haims⟩ := Option.bind_eq_some_iff.1 haims
  obtain ⟨hfails, -, htree⟩ := (cancel_spares_all_but_stylesheet hlogged hcancels .zero
    (redIn "App.jsx") hf hout hstrays).1
      ⟨c, 1, Workspace.toOption_eq_some.1 hc, Workspace.toOption_eq_some.1 haims⟩
  exact ⟨seen, hlogged, hcancels, hstrays, hfails, htree⟩

/-- Where others have written the stylesheet, the next change is made and writes it. -/
theorem cancel_overwrites_stylesheet :
    ∃ seen, Logged ["w"] defaults True False (touched ["w", "s.css"]) seen ∧
      Workspace.cancels (touched ["w", "s.css"]).editor.settings = true ∧
      (touched ["w", "s.css"]).Strays seen ["w", "s.css"] ∧
      (∃ e, ((touched ["w", "s.css"]).workspace.apply (touched ["w", "s.css"]).tree .zero
        (redIn "App.jsx")).1.outcome = .ok e) ∧
      ((touched ["w", "s.css"]).applied .zero (redIn "App.jsx")).tree.file? ["w", "s.css"] ≠
        (touched ["w", "s.css"]).tree.file? ["w", "s.css"] := by
  have hdigests : Digest.short "mine".toUTF8 ≠ Digest.short
      ".a \x7b\x7d\n.sourcelens-dynamic-kr6kup \x7b color: blue; \x7d\n".toUTF8 := by
    decide +kernel
  have hvalues : (touched ["w", "s.css"]).backups.history ["w", "s.css"] ≠ [] ∧
      notedOnce ["w", "s.css"] =
        some ".a \x7b\x7d\n.sourcelens-dynamic-kr6kup \x7b color: blue; \x7d\n".toUTF8 ∧
      ((touched ["w", "s.css"]).tree.read ["w", "s.css"]).toOption = some "mine".toUTF8 ∧
      Workspace.cancels (touched ["w", "s.css"]).editor.settings = true ∧
      (guardedOnce.tree.write ["w", "s.css"] "mine".toUTF8).isOk = true := by
    decide +kernel
  have happlied : ((touched ["w", "s.css"]).workspace.apply (touched ["w", "s.css"]).tree .zero
        (redIn "App.jsx")).1.edited?.isSome = true ∧
      ((touched ["w", "s.css"]).applied .zero (redIn "App.jsx")).tree.file? ["w", "s.css"] ≠
        (touched ["w", "s.css"]).tree.file? ["w", "s.css"] := by
    decide +kernel
  obtain ⟨hsome, hnoted, hread, hcancels, hwritten⟩ := hvalues
  obtain ⟨hedited, hchanged⟩ := happlied
  obtain ⟨seen, hlogged, hseen⟩ := touched_logged (by decide) (by decide) hwritten
  obtain ⟨e, he⟩ := Option.isSome_iff_exists.1 hedited
  exact ⟨seen, hlogged, hcancels, touched_strays hseen ⟨hsome, hnoted, hread, hdigests⟩,
    ⟨e, Workspace.toOption_eq_some.1 he⟩, hchanged⟩

end Session

end Restyle
