import Restyle.Proofs.ScannedLines
import Restyle.Workspace.Resolver

/-!
The first line that fits an element, and the surest one. Lines come in the order of their files and
then in that of their rows. Files are searched one by one, each up to its own first or surest line;
what is found in the end is the first or the first of the surest of all lines of all files, for
every framework, and something is found in the one way where something is found in the other.
-/
namespace Restyle

namespace Component

open Text

theorem inlineTemplateLines_sublist (inside : Bool) (ls : NumberedLines) :
    (inlineTemplateLines inside ls).Sublist ls := by
  induction ls generalizing inside with
  | nil => exact .slnil
  | cons head rest ih =>
    rw [inlineTemplateLines]
    split
    · exact (ih _).cons_cons _
    · split
      · exact (ih _).cons _
      · exact (ih _).cons_cons _

/-- Lines that may hold markup come in the order in which they are in the file. -/
theorem scannable_sublist (f : Framework) (p : Path) (ls : List (List Char)) :
    (scannable f p ls).Sublist (number ls) := by
  unfold scannable templateLines
  split
  · split
    · exact List.nil_sublist _
    · exact List.filter_sublist
  · split
    · exact inlineTemplateLines_sublist _ _
    · exact .refl _
  · exact .refl _

theorem pairwise_zipIdx {α : Type} (l : List α) : l.zipIdx.Pairwise fun x y => x.2 < y.2 := by
  have h : (l.zipIdx.map Prod.snd).Pairwise (· < ·) := by
    rw [List.zipIdx_map_snd]
    exact List.pairwise_lt_range'
  exact List.pairwise_map.1 h

theorem pairwise_scannable (f : Framework) (p : Path) (ls : List (List Char)) :
    (scannable f p ls).Pairwise fun x y => x.1 < y.1 := by
  refine List.Pairwise.sublist (scannable_sublist f p ls) ?_
  unfold number
  rw [List.pairwise_map]
  exact pairwise_zipIdx ls

end Component

namespace Locate

/-- A line that fits, and which of the files it is in. -/
structure Hit where
  file : Nat
  path : Path
  found : Candidate

/-- Whether a line passes the test of the framework. In plain pages every line is tested, elsewhere
only what is no comment. -/
def Accepts (d : Descriptor) (f : Framework) (line : List Char) (fit : Markup.LineMatch) : Prop :=
  match f with
  | .html => pageLine d line = some fit
  | f => Markup.isComment f line = false ∧ Markup.scoreLine d f line = some fit

/-- Whether a line is one of those that are told apart in a search: it is a line of one of the files
that may hold markup, and it passes the test. -/
structure IsHit (d : Descriptor) (f : Framework) (t : Tree) (files : List Path) (h : Hit) :
    Prop where
  path : files[h.file]? = some h.path
  scanned : ∃ content, Component.readText t h.path = .ok content ∧
    (h.found.row, h.found.line) ∈ Component.scannable f h.path (Text.lines content.toList)
  accepted : Accepts d f h.found.line h.found.fit

namespace Hit

/-- Whether a line comes before another one in the order of the files and their rows. -/
def Precedes (h h' : Hit) : Prop :=
  h.file < h'.file ∨ h.file = h'.file ∧ h.found.row < h'.found.row

theorem Precedes.asymm {h h' : Hit} (hlt : h.Precedes h') : ¬ h'.Precedes h := by
  unfold Precedes at *
  omega

def confidence (h : Hit) : Confidence := h.found.fit.confidence

/-- What is told of a line: its file, its row and column counted from one, and how sure it is. -/
def spot (h : Hit) : Path × Nat × Nat × Confidence :=
  (h.path, h.found.row + 1, h.found.fit.column, h.confidence)

end Hit

end Locate

def SourceInfo.spot (s : SourceInfo) : Path × Nat × Nat × Confidence :=
  (s.path, s.line, s.column, s.confidence)

namespace Locate

/-- How a search ends in which certain lines fit. -/
inductive Ends (Fits : Hit → Prop) : Choice → Option SourceInfo → Prop
  | missed {choice : Choice} (none_fits : ∀ h, ¬ Fits h) : Ends Fits choice none
  | first {h : Hit} {s : SourceInfo} (fits : Fits h) (told : s.spot = h.spot)
      (earliest : ∀ h', Fits h' → ¬ h'.Precedes h) : Ends Fits .first (some s)
  | best {h : Hit} {s : SourceInfo} (fits : Fits h) (told : s.spot = h.spot)
      (surest : ∀ h', Fits h' → h'.confidence ≤ h.confidence)
      (earliest : ∀ h', Fits h' → h'.Precedes h → h'.confidence < h.confidence) :
      Ends Fits .best (some s)

/-- A search fails where no line fits, and only there. -/
theorem Ends.eq_none_iff {Fits : Hit → Prop} {choice : Choice} {found : Option SourceInfo}
    (h : Ends Fits choice found) : found = none ↔ ∀ h, ¬ Fits h := by
  cases h with
  | missed none_fits => exact iff_of_true rfl none_fits
  | first fits => exact iff_of_false (by simp) fun hnone => hnone _ fits
  | best fits => exact iff_of_false (by simp) fun hnone => hnone _ fits

/-- What is found is one of the lines that fit. -/
theorem Ends.exists_fits {Fits : Hit → Prop} {choice : Choice} {s : SourceInfo}
    (h : Ends Fits choice (some s)) : ∃ h, Fits h ∧ s.spot = h.spot := by
  cases h with
  | first fits told => exact ⟨_, fits, told⟩
  | best fits told => exact ⟨_, fits, told⟩

/-! ### All lines that fit, in their order -/

def hitsIn (d : Descriptor) (f : Framework) (t : Tree) (file : Path × Nat) : List Hit :=
  match Component.readText t file.1 with
  | .error _ => []
  | .ok content => (candidates d f file.1 content.toList).map fun c => ⟨file.2, file.1, c⟩

def hits (d : Descriptor) (f : Framework) (t : Tree) (files : List Path) : List Hit :=
  files.zipIdx.flatMap (hitsIn d f t)

variable {d : Descriptor} {f : Framework} {t : Tree} {files : List Path}

theorem accepts_iff {line : List Char} {fit : Markup.LineMatch} :
    Accepts d f line fit ↔ testLine d f line = some fit := by
  cases f <;> simp [Accepts, testLine]

theorem mem_candidates {p : Path} {content : List Char} {c : Candidate} :
    c ∈ candidates d f p content ↔
      (c.row, c.line) ∈ Component.scannable f p (Text.lines content) ∧ Accepts d f c.line c.fit := by
  unfold candidates
  simp only [List.mem_filterMap, Option.map_eq_some_iff, accepts_iff]
  constructor
  · rintro ⟨⟨n, l⟩, hmem, m, hm, rfl⟩
    exact ⟨hmem, hm⟩
  · rintro ⟨hmem, hm⟩
    exact ⟨(c.row, c.line), hmem, c.fit, hm, rfl⟩

theorem mem_hitsIn {p : Path} {n : Nat} {h : Hit} :
    h ∈ hitsIn d f t (p, n) ↔ h.file = n ∧ h.path = p ∧ ∃ content,
      Component.readText t p = .ok content ∧ h.found ∈ candidates d f p content.toList := by
  unfold hitsIn
  cases Component.readText t p with
  | error e => simp
  | ok content =>
    simp only [List.mem_map, Except.ok.injEq, exists_eq_left']
    constructor
    · rintro ⟨c, hc, rfl⟩
      exact ⟨rfl, rfl, hc⟩
    · rintro ⟨rfl, rfl, hc⟩
      exact ⟨h.found, hc, rfl⟩

theorem mem_hits {h : Hit} : h ∈ hits d f t files ↔ IsHit d f t files h := by
  unfold hits
  rw [List.mem_flatMap]
  constructor
  · rintro ⟨⟨p, n⟩, hfile, hmem⟩
    obtain ⟨rfl, rfl, content, hread, hfound⟩ := mem_hitsIn.1 hmem
    obtain ⟨hscanned, haccepted⟩ := mem_candidates.1 hfound
    exact ⟨List.mem_zipIdx_iff_getElem?.1 hfile, ⟨content, hread, hscanned⟩, haccepted⟩
  · rintro ⟨hpath, ⟨content, hread, hscanned⟩, haccepted⟩
    exact ⟨(h.path, h.file), List.mem_zipIdx_iff_getElem?.2 hpath,
      mem_hitsIn.2 ⟨rfl, rfl, content, hread, mem_candidates.2 ⟨hscanned, haccepted⟩⟩⟩

theorem pairwise_candidates (p : Path) (content : List Char) :
    (candidates d f p content).Pairwise fun c c' => c.row < c'.row := by
  unfold candidates
  refine (Component.pairwise_scannable f p _).filterMap _ ?_
  rintro ⟨n, l⟩ ⟨n', l'⟩ hlt c hc c' hc'
  obtain ⟨m, -, rfl⟩ := Option.map_eq_some_iff.1 hc
  obtain ⟨m', -, rfl⟩ := Option.map_eq_some_iff.1 hc'
  exact hlt

theorem pairwise_hits : (hits d f t files).Pairwise Hit.Precedes := by
  unfold hits
  rw [List.pairwise_flatMap]
  constructor
  · rintro ⟨p, n⟩ -
    unfold hitsIn
    split
    · exact .nil
    · rw [List.pairwise_map]
      exact (pairwise_candidates p _).imp fun hlt => .inr ⟨rfl, hlt⟩
  · refine (Component.pairwise_zipIdx files).imp ?_
    rintro ⟨p, n⟩ ⟨q, m⟩ hlt h hh h' hh'
    left
    rw [(mem_hitsIn.1 hh).1, (mem_hitsIn.1 hh').1]
    exact hlt

/-! ### What is chosen of them -/

theorem inFile_spot (d : Descriptor) (f : Framework) (choice : Choice) (t : Tree) (p : Path)
    (n : Nat) :
    (inFile d f choice t p).map SourceInfo.spot =
      (choose choice Hit.confidence (hitsIn d f t (p, n))).map Hit.spot := by
  unfold inFile hitsIn
  cases Component.readText t p with
  | error e => exact (congrArg (Option.map Hit.spot) (choose_eq_none.2 rfl)).symm
  | ok content =>
    rw [choose_map, Option.map_map, Option.map_map]
    rfl

/-- Searching file by file finds what is chosen of all lines that fit. -/
theorem inFiles_spot (d : Descriptor) (f : Framework) (choice : Choice) (t : Tree)
    (files : List Path) :
    (inFiles d f choice t files).map SourceInfo.spot =
      (choose choice Hit.confidence (hits d f t files)).map Hit.spot := by
  have found (x : Path × Nat) : (inFile d f choice t x.1).map SourceInfo.spot =
      choose choice (·.2.2.2) ((hitsIn d f t x).map Hit.spot) := by
    rw [inFile_spot d f choice t x.1 x.2, choose_map]
    rfl
  have htold := inFiles_flatMap found (fun _ => rfl) files.zipIdx
  rw [List.zipIdx_map_fst] at htold
  calc (inFiles d f choice t files).map SourceInfo.spot
      = choose choice (·.2.2.2) ((hits d f t files).map Hit.spot) := by
        rw [htold, hits, List.map_flatMap]
    _ = (choose choice Hit.confidence (hits d f t files)).map Hit.spot := choose_map Hit.spot _

theorem IsChosen.earliest {l : List Hit} {h h' : Hit}
    (hchosen : IsChosen .first Hit.confidence l h) (hl : l.Pairwise Hit.Precedes) (hmem : h' ∈ l) :
    ¬ h'.Precedes h := by
  obtain ⟨before, after, rfl, rfl⟩ := hchosen
  intro hlt
  rcases List.mem_cons.1 hmem with rfl | hafter
  · exact hlt.asymm hlt
  · exact hlt.asymm ((List.pairwise_cons.1 hl).1 h' hafter)

theorem IsChosen.surer {l : List Hit} {h h' : Hit}
    (hchosen : IsChosen .best Hit.confidence l h) (hl : l.Pairwise Hit.Precedes) (hmem : h' ∈ l)
    (hlt : h'.Precedes h) : h'.confidence < h.confidence := by
  obtain ⟨before, after, rfl, hbefore, -⟩ := hchosen
  rcases List.mem_append.1 hmem with hmem | hmem
  · exact hbefore h' hmem
  · rcases List.mem_cons.1 hmem with rfl | hafter
    · exact absurd hlt hlt.asymm
    · have hgt := (List.pairwise_cons.1 (List.pairwise_append.1 hl).2.1).1 h' hafter
      exact absurd hlt hgt.asymm

/-- A search through files ends as it should. -/
theorem inFiles_ends (d : Descriptor) (f : Framework) (choice : Choice) (t : Tree)
    (files : List Path) : Ends (IsHit d f t files) choice (inFiles d f choice t files) := by
  have hspot := inFiles_spot d f choice t files
  cases hchosen : choose choice Hit.confidence (hits d f t files) with
  | none =>
    rw [hchosen, Option.map_none, Option.map_eq_none_iff] at hspot
    rw [hspot]
    refine .missed fun h hfits => ?_
    have hmem := mem_hits.2 hfits
    rw [choose_eq_none.1 hchosen] at hmem
    cases hmem
  | some h =>
    rw [hchosen, Option.map_some, Option.map_eq_some_iff] at hspot
    obtain ⟨s, hs, htold⟩ := hspot
    have hl := choose_eq_some hchosen
    have hfits := mem_hits.1 hl.mem
    rw [hs]
    cases choice with
    | first => exact .first hfits htold fun h' hh' => hl.earliest pairwise_hits (mem_hits.2 hh')
    | best =>
      exact .best hfits htold (fun h' hh' => hl.le (mem_hits.2 hh'))
        fun h' hh' => hl.surer pairwise_hits (mem_hits.2 hh')

end Locate

namespace Resolver

/-- The lines that fit an element, of the files of the framework in the project. -/
def Fits (r : Resolver) (f : Framework) (t : Tree) (c : Capture) (h : Locate.Hit) : Prop :=
  ∃ d, c.descriptorFor f = .ok d ∧ Locate.IsHit d f t (r.files f t) h

theorem locate_ends (r : Resolver) (f : Framework) (t : Tree) (c : Capture) :
    Locate.Ends (r.Fits f t c) r.choice (r.locate f t c) := by
  cases hd : c.descriptorFor f with
  | error e =>
    unfold locate
    rw [hd]
    refine .missed ?_
    rintro h ⟨d, hok, -⟩
    rw [hd] at hok
    cases hok
  | ok d =>
    have hfits : r.Fits f t c = Locate.IsHit d f t (r.files f t) := by
      funext h
      simp [Fits, hd]
    unfold locate
    rw [hfits, hd]
    exact Locate.inFiles_ends d f r.choice t (r.files f t)

/-- Whatever element is looked for among the files of whatever framework: when the first line is
asked for it is the first that fits, when the best is asked for it is the first of the surest, and
nothing is found in the one way where nothing is found in the other. -/
theorem locate_first_and_best (r : Resolver) (f : Framework) (t : Tree) (c : Capture) :
    Locate.Ends (r.Fits f t c) .first ({ r with choice := .first }.locate f t c) ∧
      Locate.Ends (r.Fits f t c) .best ({ r with choice := .best }.locate f t c) ∧
      ({ r with choice := .first }.locate f t c = none ↔
        { r with choice := .best }.locate f t c = none) := by
  have hfirst := locate_ends { r with choice := .first } f t c
  have hbest := locate_ends { r with choice := .best } f t c
  exact ⟨hfirst, hbest, hfirst.eq_none_iff.trans hbest.eq_none_iff.symm⟩

end Resolver

end Restyle
