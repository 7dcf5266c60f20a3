import Restyle.Proofs.CancelPolicy
import Restyle.Proofs.SheetText

/-!
The stylesheet over whole runs. Every change by a class leaves it with one rule more, or as it was
where it declares the class already.
-/
namespace Restyle

open Restyle.Tree

namespace SheetPlan

variable {t t' : Tree} {place : Path} {text : String}

/-- Whether the stylesheet at a place has the text. One that is not there has an empty text. -/
def Has (t : Tree) (place : Path) (text : String) : Prop :=
  t.find place = .ok (place, some (.file text.toUTF8)) ∨ text = "" ∧ t.file? place = none

theorem Has.congr (h : Has t place text) {W R : Path → Prop} (hc : Changes W R t t')
    (hw : ¬ W place) (hr : ¬ R place) : Has t' place text := by
  rcases h with hfind | ⟨hempty, hnone⟩
  · exact .inl (hc.find_some hfind hw hr)
  · exact .inr ⟨hempty, by rw [hc.file? hw hr, hnone]⟩

/-- What is read of a stylesheet is the text that it has, if the path leads to it. -/
theorem Has.read (h : Has t place text) {p : Path} (hp : p.resolve = place)
    (hsees : t.file? place ≠ none → ∃ n, t.find p = .ok (place, n)) {current : Option String}
    (hread : SheetPlan.read t p = .ok current) : current.getD "" = text := by
  cases current with
  | none =>
    rcases h with hfind | ⟨hempty, -⟩
    · have hfile := file?_of_find hfind
      obtain ⟨n, hsees⟩ := hsees (by simp [hfile])
      unfold SheetPlan.read exists? at hread
      rw [find_of_file? hsees hfile] at hread
      simp only [Option.isSome_some] at hread
      cases hr : Component.readText t p with
      | error f =>
        rw [hr] at hread
        cases hread
      | ok s =>
        rw [hr] at hread
        cases hread
    · exact hempty.symm
  | some found =>
    have hfile := Plan.file?_of_read hread
    rw [hp] at hfile
    rcases h with hfind | ⟨-, hnone⟩
    · have hbytes := (file?_of_find hfind).symm.trans hfile
      exact (String.toByteArray_inj.1 (Option.some.inj hbytes)).symm
    · cases hnone.symm.trans hfile

theorem Has.unique {text' : String} (h : Has t place text) (h' : Has t place text') :
    text = text' := by
  have hfile {text : String} (h : Has t place text) : (t.file? place).getD ByteArray.empty =
      text.toUTF8 := by
    rcases h with hfind | ⟨rfl, hnone⟩
    · rw [file?_of_find hfind]
      rfl
    · rw [hnone]
      rfl
  exact String.toByteArray_inj.1 ((hfile h).symm.trans (hfile h'))

/-- Nothing is planned for a stylesheet that declares the class; any other gets its rule. -/
theorem ofRule_cases {root : Path} {sheet name : String} {ds : Style.Declarations}
    {planned : Option SheetPlan} (hset : sheet ≠ "")
    (h : ofRule t root (.str sheet) name ds = .ok planned) :
    ∃ current, SheetPlan.read t (root.join sheet) = .ok current ∧
      ((Declares (current.getD "") name ∧ planned = none) ∨
        ¬ Declares (current.getD "") name ∧ planned = some
          ⟨root.join sheet, current, extend (current.getD "") (Style.rule name ds)⟩) := by
  have htruthy : (Value.str sheet).isTruthy = true := by
    simp [Value.isTruthy, hset]
  unfold ofRule at h
  rw [if_pos htruthy] at h
  simp only [bind, Except.bind, pure, Except.pure] at h
  split at h
  · cases h
  · next current hread =>
    refine ⟨current, hread, ?_⟩
    split at h
    · next hoccurs =>
      cases h
      exact .inl ⟨Text.occursIn_iff.1 hoccurs, rfl⟩
    · next hno =>
      cases h
      exact .inr ⟨fun hd => hno (Text.occursIn_iff.2 hd), rfl⟩

end SheetPlan

namespace Plan

/-- A plan by a class has the class added to the element, and what the stylesheet needs for it. -/
theorem make_byClass {t : Tree} {root : Path} {sheet : Value} {method : Option Style.Method}
    {c : Change} {file : Path} {line : Int} {p : Plan}
    (h : make t root sheet method c file line = .ok p) (hp : p.method = .byClass) :
    ∃ name after, Style.className c.styles = .ok name ∧
      Style.applyClass p.before.toList c line name.toList = .ok after ∧
      p.after = String.ofList after ∧
      SheetPlan.ofRule t root sheet name c.styles = .ok p.sheet := by
  unfold make at h
  simp only [bind, Except.bind] at h
  split at h
  · cases h
  · split at h
    · split at h
      · cases h
      · cases h
        cases hp
    · split at h
      · cases h
      · next name hname =>
        split at h
        · cases h
        · next after hafter =>
          split at h
          · cases h
          · next planned hsheet =>
            cases h
            exact ⟨name, after, faulty_eq_ok.1 hname, hafter, rfl, faulty_eq_ok.1 hsheet⟩

end Plan

namespace Session

open Backups SheetPlan

variable {s s' : Session} {place : Path} {text : String} {xs : List ClassChange}

/-- Whether a change by a class was made, for which a stylesheet is set that lies at the place.
Where it is there its path leads to it. -/
structure MadeByClass (place : Path) (s : Session) (now : Readings) (payload : Value)
    (x : ClassChange) : Prop where
  asks : ∃ c, Change.ofPayload payload = .ok c ∧ c.styles = x.styles
  named : Style.className x.styles = .ok x.name
  planned : ∃ plan, s.workspace.Plans s.tree now payload plan ∧ plan.method = .byClass ∧
    plan.source ≠ place ∧ ¬ s.backups.place <+: plan.source
  sheet : ∃ sheet, s.editor.settings.value "class_stylesheet" = .str sheet ∧ sheet ≠ "" ∧
    (s.backups.root.join sheet).resolve = place ∧ (s.tree.file? place ≠ none →
      ∃ n, s.tree.find (s.backups.root.join sheet) = .ok (place, n))
  succeeds : ∃ e, (s.workspace.apply s.tree now payload).1.outcome = .ok e

/-- One thing after the other, and the changes by a class that were made with the stylesheet at the
place. Nothing else touches that, or the files of the store. -/
inductive Styled (place : Path) (s : Session) : List ClassChange → Session → Prop
  | start : Styled place s [] s
  | made {xs : List ClassChange} {s' : Session} {x : ClassChange} (before : Styled place s xs s')
      (now : Readings) (payload : Value) (made : MadeByClass place s' now payload x) :
      Styled place s (xs ++ [x]) (s'.applied now payload)
  | other {xs : List ClassChange} {s' s'' : Session} (before : Styled place s xs s')
      (act : Act (fun q => ¬ s'.backups.place <+: q ∧ q ≠ place) s' s'') : Styled place s xs s''
  | reload {xs : List ClassChange} {s' s'' : Session} (before : Styled place s xs s')
      (reload : Reload s' s'') : Styled place s xs s''

/-- What does not touch a stylesheet leaves it as it is. -/
theorem Act.has (h : Act (fun q => ¬ s.backups.place <+: q ∧ q ≠ place) s s') (hs : s.IsOpen)
    (hout : ¬ s.backups.place <+: place) (hhas : Has s.tree place text) :
    Has s'.tree place text := by
  obtain ⟨hw, -⟩ := h.works hs fun q hq => hq.1
  have hremoved : ¬ s.backups.Removes (fun q => ¬ s.backups.place <+: q ∧ q ≠ place) place := by
    rintro (hq | ⟨file, timestamp, -, -, rfl⟩)
    · exact hq.2 rfl
    · exact hout (place_prefix_copyPlace _ _ _)
  refine hhas.congr hw.changes ?_ hremoved
  rintro (hm | hr)
  · exact ne_manifest_of_away hout hm
  · exact hremoved hr

/-- What was planned for the stylesheet goes by the text that it has. -/
theorem MadeByClass.sheet_cases {now : Readings} {payload : Value} {x : ClassChange}
    (h : MadeByClass place s now payload x) (hs : s.IsOpen) (hhas : Has s.tree place text) :
    ∃ plan, s.workspace.Plans s.tree now payload plan ∧ plan.source ≠ place ∧
      ¬ s.backups.place <+: plan.source ∧
      ((Declares text x.name ∧ plan.sheet = none) ∨
        ¬ Declares text x.name ∧ ∃ sheet, plan.sheet = some sheet ∧ sheet.path.IsLegible ∧
          sheet.path.resolve = place ∧ sheet.content = declare text x) := by
  obtain ⟨c, hc, hstyles⟩ := h.asks
  obtain ⟨plan, hplan, hmethod, happart, houtside⟩ := h.planned
  obtain ⟨sheet, hsetting, hset, hleads, hsees⟩ := h.sheet
  refine ⟨plan, hplan, happart, houtside, ?_⟩
  obtain ⟨c', file, line, hc', -, hmake⟩ := hplan
  obtain rfl : c = c' := Except.ok.inj (hc.symm.trans hc')
  obtain ⟨name, after, hname, -, -, hrule⟩ := Plan.make_byClass hmake hmethod
  rw [hstyles] at hname hrule
  obtain rfl : x.name = name := Except.ok.inj (h.named.symm.trans hname)
  have hvalue : s.workspace.editor.settings.value "class_stylesheet" = .str sheet := hsetting
  rw [hvalue] at hrule
  obtain ⟨current, hread, hcases⟩ := ofRule_cases hset hrule
  rw [hhas.read hleads hsees hread] at hcases
  refine hcases.imp_right fun ⟨hundeclared, hsome⟩ => ⟨hundeclared, _, hsome, ?_, hleads, ?_⟩
  · exact hs.store.rooted.root.isPlain.isLegible.join sheet
  · exact (declare_of_not hundeclared).symm

/-- A change that was made by a class declares it in the stylesheet. -/
theorem MadeByClass.has {now : Readings} {payload : Value} {x : ClassChange}
    (h : MadeByClass place s now payload x) (hs : s.IsOpen) (hout : ¬ s.backups.place <+: place)
    (hhas : Has s.tree place text) :
    (s.applied now payload).IsOpen ∧
      (s.applied now payload).backups.directory = s.backups.directory ∧
      Has (s.applied now payload).tree place (declare text x) := by
  obtain ⟨plan, hplan, hapart, houtside, hcases⟩ := h.sheet_cases hs hhas
  have hact {Q : Path → Prop} (hQ : ∀ q ∈ plan.files, Q q) : Act Q s (s.applied now payload) :=
    .apply now payload fun plan' hplan' => hplan'.unique hplan ▸ hQ
  have hfiles (q : Path) (hq : q ∈ plan.files) :
      q = plan.source ∨ q = place ∧ plan.sheet ≠ none := by
    rcases Workspace.mem_files_cases hplan hq with hsource | ⟨sheet, hsheet, hpath⟩
    · exact .inl hsource
    · rcases hcases with ⟨-, hnone⟩ | ⟨-, sheet', hsheet', -, hplace, -⟩
      · cases hnone.symm.trans hsheet
      · cases hsheet'.symm.trans hsheet
        exact .inr ⟨hpath.symm.trans hplace, by simp [hsheet]⟩
  have hmade : Act (fun q => ¬ s.backups.place <+: q) s (s.applied now payload) :=
    hact fun q hq => (hfiles q hq).elim (fun e => e ▸ houtside) fun h => h.1 ▸ hout
  refine ⟨hmade.isOpen hs fun _ hq => hq, (hmade.works hs fun _ hq => hq).1.directory, ?_⟩
  rcases hcases with ⟨hdeclared, hnone⟩ | ⟨-, sheet, hsheet, hlegible, hplace, hcontent⟩
  · rw [declare_of_declares hdeclared]
    refine (hact fun q hq => ?_).has hs hout hhas
    rcases hfiles q hq with rfl | ⟨-, hsome⟩
    · exact ⟨houtside, hapart⟩
    · exact absurd hnone hsome
  · obtain ⟨e, hok⟩ := h.succeeds
    have hfind := find_resolve hlegible (Workspace.apply_done_sheet hs.store.rooted
      hs.store.proper hplan hok hsheet (hplace ▸ hout))
    rw [hplace, hcontent] at hfind
    exact .inl hfind

/-- Through a whole run the stylesheet has the text that the changes by a class make of it. -/
theorem Styled.has (h : Styled place s xs s') (hs : s.IsOpen)
    (hout : ¬ s.backups.place <+: place) (hhas : Has s.tree place text) :
    s'.IsOpen ∧ s'.backups.directory = s.backups.directory ∧
      Has s'.tree place (declareAll text xs) ∧
      ∀ x ∈ xs, Style.className x.styles = .ok x.name := by
  induction h with
  | start => exact ⟨hs, rfl, hhas, fun x hx => absurd hx List.not_mem_nil⟩
  | made before now payload made ih =>
    obtain ⟨ho, hd, hh, hnames⟩ := ih
    obtain ⟨ho', hd', hh'⟩ := made.has ho (place_congr hd ▸ hout) hh
    refine ⟨ho', hd'.trans hd, ?_, fun x hx => ?_⟩
    · unfold declareAll
      rw [List.foldl_append]
      exact hh'
    · rcases List.mem_append.1 hx with hx | hx
      · exact hnames x hx
      · rw [List.mem_singleton.1 hx]
        exact made.named
  | other before act ih =>
    obtain ⟨ho, hd, hh, hnames⟩ := ih
    have hout' := place_congr hd ▸ hout
    have hw := (act.works ho fun _ hq => hq.1).1
    exact ⟨act.isOpen ho fun _ hq => hq.1, hw.directory.trans hd, act.has ho hout' hh, hnames⟩
  | reload before reload ih =>
    obtain ⟨ho, hd, hh, hnames⟩ := ih
    obtain ⟨hl, hd', -⟩ := reload.loaded ho
    have hc : Changes nowhere nowhere _ _ := hl.changes ho.store.rooted.root
    exact ⟨reload.isOpen ho, hd'.trans hd, hh.congr hc (fun h => h) fun h => h, hnames⟩

/-- Over every run the stylesheet has its first text at its beginning, and each change by a class
has its rule from when it was made, unless another was taken for it. Of plain changes, whose classes
are the same if their hashes are up to the sign, those have their rules at the end that had them at
the start or that ask for what the first change by their class does. -/
theorem stylesheet_carries_iff (h : Styled place s xs s') (hs : s.IsOpen)
    (hout : ¬ s.backups.place <+: place) (hhas : Has s.tree place text) :
    ∃ final, Has s'.tree place final ∧ text.toList <+: final.toList ∧
      (∀ before x later, xs = before ++ x :: later →
        (Carries (declareAll text (before ++ [x])) x ↔
          (Declares (declareAll text before) x.name → Carries (declareAll text before) x)) ∧
        (Carries (declareAll text (before ++ [x])) x → Carries final x)) ∧
      ((∀ x ∈ xs, Style.IsPlain x.styles) → ∀ x ∈ xs,
        (∀ y ∈ xs, x.name = y.name ↔ (Style.signedHash (Style.signature x.styles)).natAbs =
          (Style.signedHash (Style.signature y.styles)).natAbs) ∧
        (Carries final x ↔ Carries text x ∨ ¬ Declares text x.name ∧
          ∃ first, xs.find? (fun y => y.name = x.name) = some first ∧ Suits first x)) := by
  obtain ⟨-, -, hfinal, hnames⟩ := h.has hs hout hhas
  refine ⟨declareAll text xs, hfinal, prefix_declareAll text xs, ?_, ?_⟩
  · rintro before x later rfl
    have hsnoc : declareAll text (before ++ [x]) = declare (declareAll text before) x := by
      simp [declareAll]
    have hrest : declareAll text (before ++ x :: later) =
        declareAll (declare (declareAll text before) x) later := by
      simp [declareAll]
    rw [hsnoc, hrest]
    exact ⟨carries_declare_iff _ _, fun hc => hc.mono (prefix_declareAll _ _)⟩
  · intro hplain x hx
    have hclass (y : ClassChange) (hy : y ∈ xs) : SheetPlan.IsPlain y :=
      ⟨fun c hc => Style.isNameSign_of_mem (hnames y hy) hc, hplain y hy⟩
    exact ⟨fun y hy => Style.className_eq_iff (hnames x hx) (hnames y hy),
      carries_declareAll_iff hclass (hclass x hx)⟩

/-! ### Two colours of one class -/

/-- Asks for a colour of the only element. -/
def colored (color : String) : Value :=
  .table [("styles", .table [("color", .str color)]),
    ("sourceInfo", .table [("filePath", .str "App.jsx"), ("lineNumber", .int 1)])]

/-- The change of the colour by the class that two of them have. -/
def colorChange (color : String) : ClassChange :=
  ⟨"sourcelens-dynamic-vjd59w", [(.text "color", .str color)]⟩

def coloredOnce : Session := guarded.applied .zero (colored "#Aa0000")

def coloredTwice : Session := coloredOnce.applied .zero (colored "#BB0000")

theorem Styled.colored {color : String} (before : Styled ["w", "s.css"] guarded xs s')
    (hname : (Style.className [(.text "color", .str color)]).toOption =
      some "sourcelens-dynamic-vjd59w")
    (hvalues : s'.editor.settings.word "class_stylesheet" = "s.css" ∧ s'.backups.root = ["w"] ∧
      s'.backups.place = ["w", ".sourcelens-backups"] ∧
      (s'.tree.find ["w", "s.css"]).toOption.map (·.1) = some ["w", "s.css"] ∧
      (s'.workspace.planOf? s'.tree .zero (colored color)).map (fun p => (p.source, p.method)) =
        some (["w", "App.jsx"], .byClass) ∧
      (s'.workspace.apply s'.tree .zero (colored color)).1.edited?.isSome = true) :
    Styled ["w", "s.css"] guarded (xs ++ [colorChange color])
      (s'.applied .zero (Session.colored color)) := by
  obtain ⟨hsheet, hroot, hplace, hfind, hplan, hedited⟩ := hvalues
  obtain ⟨plan, hplan, hmade⟩ := Option.map_eq_some_iff.1 hplan
  obtain ⟨hsource, hmethod⟩ := Prod.mk.inj hmade
  obtain ⟨e, he⟩ := Option.isSome_iff_exists.1 hedited
  have hsetting : s'.editor.settings.value "class_stylesheet" = .str "s.css" := by
    unfold Settings.word at hsheet
    split at hsheet
    · next w hw => rw [hw, hsheet]
    · exact absurd hsheet (by decide)
  have hpath : s'.backups.root.join "s.css" = ["w", "s.css"] := by
    rw [hroot]
    decide
  have hleads : (s'.backups.root.join "s.css").resolve = ["w", "s.css"] := by
    rw [hpath]
    decide
  have hsees : ∃ n, s'.tree.find (s'.backups.root.join "s.css") = .ok (["w", "s.css"], n) := by
    obtain ⟨⟨q, n⟩, hfound, rfl⟩ := Option.map_eq_some_iff.1 hfind
    rw [hpath]
    exact ⟨n, Workspace.toOption_eq_some.1 hfound⟩
  have hapart : plan.source ≠ ["w", "s.css"] := by
    rw [hsource]
    decide
  have houtside : ¬ s'.backups.place <+: plan.source := by
    rw [hsource, hplace]
    decide
  exact .made before .zero (Session.colored color) {
    asks := ⟨_, rfl, rfl⟩
    named := Workspace.toOption_eq_some.1 hname
    planned := ⟨plan, Workspace.planOf?_eq_some.1 hplan, hmethod, hapart, houtside⟩
    sheet := ⟨"s.css", hsetting, by decide, hleads, fun _ => hsees⟩
    succeeds := ⟨e, Workspace.toOption_eq_some.1 he⟩ }

theorem coloredOnce_styled :
    Styled ["w", "s.css"] guarded [colorChange "#Aa0000"] coloredOnce :=
  Styled.colored .start (by decide +kernel) (by decide +kernel)

theorem guarded_has : Has guarded.tree ["w", "s.css"] ".a \x7b\x7d\n" := by
  have hvalues : (guarded.tree.find ["w", "s.css"]).toOption.map (·.1) = some ["w", "s.css"] ∧
      guarded.tree.file? ["w", "s.css"] = some ".a \x7b\x7d\n".toUTF8 := by
    decide +kernel
  obtain ⟨hfind, hfile⟩ := hvalues
  obtain ⟨⟨q, n⟩, hfound, rfl⟩ := Option.map_eq_some_iff.1 hfind
  exact .inl (find_of_file? (Workspace.toOption_eq_some.1 hfound) hfile)

theorem guarded_outside : ¬ guarded.backups.place <+: ["w", "s.css"] := by
  have hplace : guarded.backups.place = ["w", ".sourcelens-backups"] := by decide +kernel
  rw [hplace]
  decide

/-- The first colour has its rule. -/
theorem stylesheet_carries_iff_once :
    Styled ["w", "s.css"] guarded [colorChange "#Aa0000"] coloredOnce ∧ guarded.IsOpen ∧
    ¬ guarded.backups.place <+: ["w", "s.css"] ∧
    Has guarded.tree ["w", "s.css"] ".a \x7b\x7d\n" ∧
    ∃ final, Has coloredOnce.tree ["w", "s.css"] final ∧ Carries final (colorChange "#Aa0000") := by
  have hopen := guarded_logged.reconciled.1
  obtain ⟨final, hfinal, -, heach, -⟩ := stylesheet_carries_iff coloredOnce_styled hopen
    guarded_outside guarded_has
  obtain ⟨hmade, hkept⟩ := heach [] (colorChange "#Aa0000") [] rfl
  have hundeclared : ¬ Declares ".a \x7b\x7d\n" (colorChange "#Aa0000").name := fun hd =>
    absurd (Text.occursIn_iff.2 hd) (by decide)
  exact ⟨coloredOnce_styled, hopen, guarded_outside, guarded_has, final, hfinal,
    hkept (hmade.2 fun hd => absurd hd hundeclared)⟩

/-- The second colour has the same class and no rule. -/
theorem stylesheet_lacks_rule :
    Styled ["w", "s.css"] guarded [colorChange "#Aa0000", colorChange "#BB0000"] coloredTwice ∧
    Has guarded.tree ["w", "s.css"] ".a \x7b\x7d\n" ∧
    ∀ final, Has coloredTwice.tree ["w", "s.css"] final →
      ¬ Carries final (colorChange "#BB0000") := by
  have htwice : Styled ["w", "s.css"] guarded [colorChange "#Aa0000", colorChange "#BB0000"]
      coloredTwice :=
    Styled.colored coloredOnce_styled (by decide +kernel) (by decide +kernel)
  refine ⟨htwice, guarded_has, ?_⟩
  rintro final hfinal ⟨ds, hperm, hrule⟩
  have hhas := (htwice.has guarded_logged.reconciled.1 guarded_outside guarded_has).2.2.1
  have htext : final =
      ".a \x7b\x7d\n.sourcelens-dynamic-vjd59w \x7b color: #Aa0000; \x7d\n" :=
    (hfinal.unique hhas).trans (by decide +kernel)
  obtain rfl := List.perm_singleton.1 hperm
  rw [htext] at hrule
  exact absurd (Text.occursIn_iff.2 hrule) (by decide +kernel)

end Session

end Restyle
