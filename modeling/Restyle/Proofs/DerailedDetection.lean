import Restyle.Detection
import Restyle.Proofs.AnsweredPayload
import Restyle.Proofs.Manifest

/-!
What one bad file does to the detection of a framework. A package file that cannot be read, or that
is no table, is passed over, and the endings of the files decide. But one whose lists and tables lie
too deep in each other or whose fields are of the wrong kinds, and a configuration file that is no
text, end the detection: the project then counts as plain pages, whatever files it has. For a project
with files of a framework there is no other way to that answer.
-/
namespace Restyle

namespace Tree

variable {t : Tree} {dir q : Path} {name : String}

/-- What lies in a directory is among what is listed of it. -/
theorem mem_list? {node : Node} (hdir : t.find dir = .ok (q, some .directory))
    (hnode : t.node? (q ++ [name]) = some node) : (name, node) ∈ (t.list? dir).getD [] := by
  have hentry : (q ++ [name], node) ∈ t.entries := by
    rw [node?, if_neg (by simp)] at hnode
    exact mem_of_lookup hnode
  have hname : name ∈ t.namesIn q := by
    rw [namesIn, List.mem_mergeSort, List.mem_filterMap]
    exact ⟨_, hentry, by simp⟩
  simp only [list?, hdir, Option.getD_some, List.mem_filterMap]
  exact ⟨name, hname, by rw [hnode]; rfl⟩

/-- A file in the directory itself is found by its ending. -/
theorem hasEnding_of_file {endings : List String} {bytes : ByteArray} {limit : Int}
    (hdir : t.find dir = .ok (q, some .directory))
    (hfile : t.node? (q ++ [name]) = some (.file bytes)) (hidden : isHidden name = false)
    (hending : ∃ e ∈ endings, e.toList <:+ name.toList) (hlimit : 0 ≤ limit) :
    t.hasEnding dir endings limit = true := by
  rw [hasEnding, hasEndingFrom, Bool.and_eq_true, List.any_eq_true]
  refine ⟨by simpa using hlimit, (name, .file bytes), mem_list? hdir hfile, ?_⟩
  simpa [hidden] using hending

end Tree

namespace Component

theorem readText_error {t : Tree} {p : Path} {f : Fault} (h : readText t p = .error f) :
    (∃ e, f = .tree e) ∨ ∃ fault, f = .undecodable fault := by
  unfold readText at h
  split at h
  · next e _ =>
    cases h
    exact .inl ⟨e, rfl⟩
  · split at h <;> cases h
    exact .inr ⟨_, rfl⟩

end Component

namespace Detection

open Component Text

/-- Whether a file is found below the root whose ending shows a framework. -/
def ShowsFramework (t : Tree) (root : Path) : Prop :=
  hasFiles t root scriptEndings = true ∨ hasFiles t root [".vue"] = true ∨
    hasFiles t root [".component.ts"] = true

instance (t : Tree) (root : Path) : Decidable (ShowsFramework t root) :=
  inferInstanceAs (Decidable (_ ∨ _ ∨ _))

variable {t : Tree} {root : Path} {package : Value}

/-- Files are found below a root only if it can be asked for. -/
theorem ShowsFramework.checked (h : ShowsFramework t root) : root.checked = .ok root := by
  have hlist {endings : List String} (h : hasFiles t root endings = true) :
      t.list? root ≠ none := by
    intro hnone
    rw [hasFiles, Tree.hasEnding, Tree.hasEndingFrom, hnone] at h
    simp at h
  have hroot : t.list? root ≠ none := by
    rcases h with h | h | h <;> exact hlist h
  unfold Tree.list? at hroot
  split at hroot
  · next hfind => exact Backups.checked_eq_ok.2 ⟨Tree.refusal?_of_find_ok hfind, rfl⟩
  · exact absurd rfl hroot

/-! ### What is told where nothing fails -/

theorem ofEndings_ne_html (h : ShowsFramework t root) : (ofEndings t root).framework ≠ .html := by
  unfold ofEndings
  split
  · rintro ⟨⟩
  · next hscripts =>
    split
    · rintro ⟨⟩
    · next hvue =>
      rw [if_pos ((h.resolve_left hscripts).resolve_left hvue)]
      rintro ⟨⟩

theorem strongest_mem (best : Detection) (others : List Detection) :
    strongest best others ∈ best :: others := by
  induction others generalizing best with
  | nil => exact List.mem_singleton.2 rfl
  | cons d others ih =>
    show strongest (if best.confidence < d.confidence then d else best) others ∈ _
    split
    · exact List.mem_cons_of_mem _ (ih d)
    · have hmem := ih best
      simp only [List.mem_cons] at hmem ⊢
      exact hmem.imp_right .inr

theorem detectReact_framework {deps : Dependencies} {d : Detection}
    (h : detectReact t root package deps = .ok d) : d.framework = .react := by
  simp only [detectReact, bind_eq_ok, pure, Except.pure, Except.ok.injEq] at h
  obtain ⟨start, -, configured, -, rfl⟩ := h
  rfl

theorem detectVue_framework (t : Tree) (root : Path) (deps : Dependencies) :
    (detectVue t root deps).framework = .vue := by
  simp only [detectVue]
  split <;> rfl

theorem ofPackage_ne_html (h : ShowsFramework t root) {d : Detection}
    (hd : ofPackage t root package = .ok d) : d.framework ≠ .html := by
  simp only [ofPackage, bind_eq_ok, pure, Except.pure, Except.ok.injEq] at hd
  obtain ⟨deps, -, react, hreact, rfl⟩ := hd
  split
  · exact ofEndings_ne_html h
  · have hmem := strongest_mem react [detectVue t root deps, detectAngular t root deps]
    simp only [List.mem_cons, List.not_mem_nil, or_false] at hmem
    rcases hmem with hbest | hbest | hbest
    · rw [hbest, detectReact_framework hreact]
      decide
    · rw [hbest, detectVue_framework]
      decide
    · rw [hbest]
      rintro ⟨⟩

/-! ### Where something fails -/

/-- Whether a configuration file is passed over: it cannot be read, or it has none of the marks. -/
def IsPassed (t : Tree) (root : Path) (marks : List String) (name : String) : Prop :=
  (∃ e, readText t (root ++ [name]) = .error (.tree e)) ∨
    ∃ content, readText t (root ++ [name]) = .ok content ∧
      ∀ m ∈ marks, occursIn m.toList content.toList = false

/-- Whether a file that is no text is met before one that has a mark. -/
inductive MeetsBytes (t : Tree) (root : Path) (marks : List String) : List String → Prop
  | here {name : String} {rest : List String} {fault : DecodingFault}
      (read : readText t (root ++ [name]) = .error (.undecodable fault)) :
      MeetsBytes t root marks (name :: rest)
  | later {name : String} {rest : List String} (passed : IsPassed t root marks name)
      (met : MeetsBytes t root marks rest) : MeetsBytes t root marks (name :: rest)

theorem configMentions_ok_iff (t : Tree) (root : Path) (marks names : List String) :
    (∃ b, configMentions t root marks names = .ok b) ↔ ¬ MeetsBytes t root marks names := by
  induction names with
  | nil => exact iff_of_true ⟨false, rfl⟩ (by rintro ⟨⟩)
  | cons name rest ih =>
    have later (hpassed : IsPassed t root marks name)
        (hno : ∀ fault, readText t (root ++ [name]) ≠ .error (.undecodable fault)) :
        MeetsBytes t root marks (name :: rest) ↔ MeetsBytes t root marks rest := by
      constructor
      · rintro (hread | ⟨-, hmet⟩)
        · exact absurd hread (hno _)
        · exact hmet
      · exact .later hpassed
    rw [configMentions]
    cases hread : readText t (root ++ [name]) with
    | error f =>
      rcases readText_error hread with ⟨e, rfl⟩ | ⟨fault, rfl⟩
      · rw [later (.inl ⟨e, hread⟩) (by simp [hread])]
        exact ih
      · exact iff_of_false (by rintro ⟨b, ⟨⟩⟩) (not_not.2 (.here hread))
    | ok content =>
      dsimp only
      by_cases hmark : (marks.any fun m => occursIn m.toList content.toList) = true
      · rw [if_pos hmark]
        refine iff_of_true ⟨true, rfl⟩ ?_
        rintro (hread' | ⟨⟨e, hread'⟩ | ⟨content', hread', hnone⟩, -⟩)
        · cases hread.symm.trans hread'
        · cases hread.symm.trans hread'
        · cases hread.symm.trans hread'
          obtain ⟨m, hm, hoccurs⟩ := List.any_eq_true.1 hmark
          rw [hnone m hm] at hoccurs
          cases hoccurs
      · have hnone : ∀ m ∈ marks, occursIn m.toList content.toList = false := by
          simpa using hmark
        rw [if_neg hmark, later (.inr ⟨content, hread, hnone⟩) (by simp [hread])]
        exact ih

/-- The marks of the configuration file that is looked into, and the names that it may have. -/
def configMarks : List String := ["@vitejs/plugin-react", "react()"]

def configNames : List String := ["vite.config.js", "vite.config.ts"]

/-- Whether a framework can be told with a package file: what the package says of itself is of the
right kinds, and the configuration files that are looked into are texts. -/
structure IsUsable (t : Tree) (root : Path) (package : Value) : Prop where
  used : (package.get "dependencies").isTruthy → (package.get "dependencies").IsMap
  development : (package.get "devDependencies").isTruthy → (package.get "devDependencies").IsMap
  scripts : (package.get "scripts").isTruthy → ∃ fields, package.get "scripts" = .table fields
  configured : ¬ MeetsBytes t root configMarks configNames

theorem dependencies_ok_iff (package : Value) :
    (∃ deps, dependencies package = .ok deps) ↔
      ((package.get "dependencies").isTruthy → (package.get "dependencies").IsMap) ∧
        ((package.get "devDependencies").isTruthy → (package.get "devDependencies").IsMap) := by
  rw [← Value.orElse_table_isMap, ← Value.orElse_table_isMap, ← Value.toMap_ok_iff,
    ← Value.toMap_ok_iff]
  simp only [dependencies, bind_eq_ok, pure, Except.pure, Except.ok.injEq]
  constructor
  · rintro ⟨deps, used, hused, development, hdevelopment, -⟩
    exact ⟨⟨used, hused⟩, development, hdevelopment⟩
  · rintro ⟨⟨used, hused⟩, development, hdevelopment⟩
    exact ⟨_, used, hused, development, hdevelopment, rfl⟩

theorem startScript_ok_iff (package : Value) :
    (∃ s, startScript package = .ok s) ↔
      ((package.get "scripts").isTruthy → ∃ fields, package.get "scripts" = .table fields) := by
  unfold startScript
  simp only [Value.orElse]
  by_cases h : (package.get "scripts").isTruthy = true
  · simp only [forall_const, h]
    split
    · next fields hfields => exact iff_of_true ⟨_, rfl⟩ ⟨fields, hfields⟩
    · next hne =>
      refine iff_of_false (by rintro ⟨s, ⟨⟩⟩) ?_
      rintro ⟨fields, hfields⟩
      exact hne fields hfields
  · simp [h]

theorem detectReact_ok_iff (t : Tree) (root : Path) (package : Value) (deps : Dependencies) :
    (∃ d, detectReact t root package deps = .ok d) ↔
      (∃ s, startScript package = .ok s) ∧
        ∃ b, configMentions t root configMarks configNames = .ok b := by
  simp only [detectReact, bind_eq_ok, pure, Except.pure, Except.ok.injEq]
  constructor
  · rintro ⟨d, s, hs, b, hb, -⟩
    exact ⟨⟨s, hs⟩, b, hb⟩
  · rintro ⟨⟨s, hs⟩, b, hb⟩
    exact ⟨_, s, hs, b, hb, rfl⟩

theorem ofPackage_ok_iff (t : Tree) (root : Path) (package : Value) :
    (∃ d, ofPackage t root package = .ok d) ↔ IsUsable t root package := by
  -- whether React can be told does not depend on what the package depends on
  have hparts : (∃ d, ofPackage t root package = .ok d) ↔
      (∃ deps, dependencies package = .ok deps) ∧
        ∀ deps, ∃ d, detectReact t root package deps = .ok d := by
    simp only [ofPackage, bind_eq_ok, pure, Except.pure, Except.ok.injEq, detectReact_ok_iff]
    constructor
    · rintro ⟨d, deps, hdeps, react, hreact, -⟩
      exact ⟨⟨deps, hdeps⟩, fun _ => (detectReact_ok_iff t root package deps).1 ⟨react, hreact⟩⟩
    · rintro ⟨⟨deps, hdeps⟩, h⟩
      obtain ⟨react, hreact⟩ := (detectReact_ok_iff t root package deps).2 (h deps)
      exact ⟨_, deps, hdeps, react, hreact, rfl⟩
  rw [hparts, dependencies_ok_iff]
  simp only [detectReact_ok_iff, startScript_ok_iff, configMentions_ok_iff, forall_const]
  exact ⟨fun ⟨⟨hused, hdevelopment⟩, hscripts, hconfigured⟩ =>
      ⟨hused, hdevelopment, hscripts, hconfigured⟩,
    fun h => ⟨⟨h.used, h.development⟩, h.scripts, h.configured⟩⟩

/-- Whether there is a package file, and it is the table. -/
def IsPackage (t : Tree) (root : Path) (package : Value) : Prop :=
  ∃ s fields, readText t (root ++ ["package.json"]) = .ok s ∧
    Value.ofJson s.toList = .ok package ∧ package = .table fields

/-- Whether the detection fails: lists and tables of the package file lie too deep in each other, or
no framework can be told with it. -/
inductive Derails (t : Tree) (root : Path) : Prop
  | nested {s : String} {inTable : Bool} (read : readText t (root ++ ["package.json"]) = .ok s)
      (deep : Value.ofJson s.toList = .error (.tooDeep inTable))
  | unusable {package : Value} (found : IsPackage t root package)
      (unusable : ¬ IsUsable t root package)

theorem package?_eq_some_iff :
    package? t root = .ok (some package) ↔ IsPackage t root package := by
  unfold package? IsPackage
  cases hread : readText t (root ++ ["package.json"]) with
  | error f => simp
  | ok s =>
    simp only [Except.ok.injEq, exists_and_left, exists_eq_left']
    split
    · next fields hjson =>
      simp only [hjson, Except.ok.injEq, Option.some.injEq]
      constructor
      · rintro rfl
        exact ⟨rfl, fields, rfl⟩
      · exact And.left
    · next inTable hjson => simp [hjson]
    · next hne _ =>
      refine iff_of_false (by rintro ⟨⟩) ?_
      rintro ⟨hjson, fields, rfl⟩
      exact hne fields hjson

theorem package?_fails_iff :
    (∃ f, package? t root = .error f) ↔ ∃ s inTable,
      readText t (root ++ ["package.json"]) = .ok s ∧
        Value.ofJson s.toList = .error (.tooDeep inTable) := by
  unfold package?
  cases hread : readText t (root ++ ["package.json"]) with
  | error f => simp
  | ok s =>
    simp only [Except.ok.injEq, exists_and_left, exists_eq_left']
    split
    · next fields hjson => simp [hjson]
    · next inTable hjson => simp [hjson]
    · next _ hne => exact iff_of_false (by rintro ⟨f, ⟨⟩⟩) fun ⟨inTable, hjson⟩ => hne inTable hjson

theorem derails_iff :
    Derails t root ↔ (∃ f, package? t root = .error f) ∨ ∃ package,
      package? t root = .ok (some package) ∧ ¬ ∃ d, ofPackage t root package = .ok d := by
  simp only [package?_fails_iff, package?_eq_some_iff, ofPackage_ok_iff]
  constructor
  · rintro (⟨hread, hdeep⟩ | ⟨hfound, hunusable⟩)
    · exact .inl ⟨_, _, hread, hdeep⟩
    · exact .inr ⟨_, hfound, hunusable⟩
  · rintro (⟨s, inTable, hread, hdeep⟩ | ⟨package, hfound, hunusable⟩)
    · exact .nested hread hdeep
    · exact .unusable hfound hunusable

/-- A project in which files of a framework are found counts as plain pages if its package file or a
configuration file derails the detection, and only then. -/
theorem detect_html_iff_derails (h : ShowsFramework t root) :
    (detect t root).framework = .html ↔ Derails t root := by
  rw [derails_iff]
  unfold detect
  simp only [h.checked, bind, Except.bind]
  cases package? t root with
  | error f => exact iff_of_true rfl (.inl ⟨f, rfl⟩)
  | ok found =>
    cases found with
    | none => exact iff_of_false (ofEndings_ne_html h) (by simp)
    | some package =>
      cases hd : ofPackage t root package with
      | ok d => exact iff_of_false (by simpa [hd] using ofPackage_ne_html h hd) (by simp [hd])
      | error f => exact iff_of_true (by simp [hd, plain]) (.inr ⟨package, rfl, by simp [hd]⟩)

/-! ### One bad file beside a component -/

/-- A project with a component and some other files. -/
def componentAnd (files : List (String × ByteArray)) : Tree :=
  ⟨[(["w"], .directory), (["w", "App.jsx"], .file "<div/>\n".toUTF8)] ++
    files.map fun (name, bytes) => (["w", name], .file bytes)⟩

/-- What the project depends on is told by a number. -/
def numbered : Tree := componentAnd [("package.json", "\x7b\"dependencies\": 5\x7d".toUTF8)]

/-- What the project depends on is told well, but a configuration file is no text. -/
def unreadable : Tree :=
  componentAnd [("package.json", "\x7b\"dependencies\": \x7b\"react\": \"18\"\x7d\x7d".toUTF8),
    ("vite.config.js", ⟨#[0xff]⟩)]

theorem componentAnd_shows {files : List (String × ByteArray)}
    (h : (componentAnd files).find ["w"] = .ok (["w"], some .directory)) :
    ShowsFramework (componentAnd files) ["w"] := by
  have hfile : (componentAnd files).node? (["w"] ++ ["App.jsx"]) =
      some (.file "<div/>\n".toUTF8) := rfl
  exact .inl (Tree.hasEnding_of_file h hfile (by decide) ⟨".jsx", by decide, by decide⟩ (by decide))

theorem detect_html_iff_derails_numbered :
    ShowsFramework numbered ["w"] ∧
      ((detect numbered ["w"]).framework = .html ↔ Derails numbered ["w"]) :=
  have shows : ShowsFramework numbered ["w"] := componentAnd_shows (by rfl)
  ⟨shows, detect_html_iff_derails shows⟩

/-- Either project has a file of a framework, and one bad file is enough. -/
theorem detect_derailed_by_one_file :
    (ShowsFramework numbered ["w"] ∧ (detect numbered ["w"]).framework = .html) ∧
      ShowsFramework unreadable ["w"] ∧ (detect unreadable ["w"]).framework = .html :=
  ⟨⟨componentAnd_shows (by rfl), by decide +kernel⟩,
    componentAnd_shows (by rfl), by decide +kernel⟩

end Detection

end Restyle
