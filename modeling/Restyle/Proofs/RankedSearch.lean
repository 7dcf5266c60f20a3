import Restyle.Proofs.FoundFiles
import Restyle.Proofs.Rounding
import Restyle.Workspace.Resolver

/-!
What a search for components answers. Each file that was scanned has one match if it can be read and
declares a component whose name fits well enough, and none otherwise; the surest come first, and
those that are equally sure come in the order of the scan. A match shows the lines around the place
that it points at.
-/
namespace Restyle.Component

open Text Number

/-! ### Scores -/

/-- The scores that come with a fit. Every exact one is above every part, and that is above every
share of characters. -/
def Fit.Scores : Fit → Confidence → Prop
  | .exact, c => c.tenThousandths = 10000
  | .partly, c => c.tenThousandths = 8000
  | .fuzzy, c => c.tenThousandths ≤ 6000

/-- Which of the fits comes first. -/
def Fit.place : Fit → Nat
  | .exact => 0
  | .partly => 1
  | .fuzzy => 2

theorem shareScore_le {overlap length : Nat} (h : overlap ≤ length) :
    shareScore overlap length ≤ ⟨6000⟩ := by
  have hone : nearest 1 = 1 := by decide +kernel
  have hsixth : 0 ≤ nearest (6 / 10) := nearest_nonneg (by norm_num)
  have hshare : nearest ((overlap : Rat) / length) ≤ 1 := by
    rw [← hone]
    refine nearest_mono (by positivity) ?_
    exact div_le_one_of_le₀ (by exact_mod_cast h) (by positivity)
  have hproduct : nearest (nearest ((overlap : Rat) / length) * nearest (6 / 10)) ≤
      nearest (nearest (6 / 10)) := by
    refine nearest_mono (mul_nonneg (nearest_nonneg (by positivity)) hsixth) ?_
    exact mul_le_of_le_one_left hsixth hshare
  have hround := roundHalfEven_mono
    (mul_le_mul_of_nonneg_right hproduct (show (0 : Rat) ≤ 10000 by norm_num))
  have hbound : roundHalfEven (nearest (nearest (6 / 10)) * 10000) = 6000 := by decide +kernel
  rw [hbound] at hround
  show (roundHalfEven _).toNat ≤ 6000
  omega

theorem matchScore_scores {query target : List Char} {score : Confidence} {fit : Fit}
    (h : matchScore query target = (score, fit)) (henough : threshold < score) :
    fit.Scores score := by
  have hsome : score ≠ ⟨0⟩ := by
    rintro rfl
    exact absurd henough (by decide)
  unfold matchScore at h
  dsimp only at h
  split at h
  · obtain ⟨rfl, -⟩ := Prod.mk.inj h
    exact absurd rfl hsome
  · split at h
    · obtain ⟨rfl, rfl⟩ := Prod.mk.inj h
      rfl
    · split at h
      · obtain ⟨rfl, rfl⟩ := Prod.mk.inj h
        rfl
      · split at h
        · obtain ⟨rfl, rfl⟩ := Prod.mk.inj h
          exact shareScore_le (List.length_filter_le _ _)
        · obtain ⟨rfl, -⟩ := Prod.mk.inj h
          exact absurd rfl hsome

theorem Fit.Scores.place_le {fit fit' : Fit} {c c' : Confidence} (h : fit.Scores c)
    (h' : fit'.Scores c') (hle : c' ≤ c) : fit.place ≤ fit'.place := by
  have hnat : c'.tenThousandths ≤ c.tenThousandths := hle
  cases fit <;> cases fit' <;> simp only [Scores, place] at h h' ⊢ <;> omega

/-! ### The match of a file -/

/-- Whether a file can be read and declares a component whose name fits a query well enough. -/
structure Suits (f : Framework) (t : Tree) (query : String) (p : Path) (content name : String)
    (score : Confidence) (fit : Fit) : Prop where
  readable : readText t p = .ok content
  declared : declares f p = true
  named : nameIn f t p content.toList = some name
  nonempty : name ≠ ""
  scored : matchScore query.toList name.toList = (score, fit)
  enough : threshold < score

/-- Whether a match shows its line of a file, two lines before it and three behind it, and fewer only
where the file has no more. -/
def Found.ShowsLines (m : Found) (ls : List (List Char)) : Prop :=
  ∃ above line below, m.matched = [line] ∧
    ls = above ++ m.before ++ line :: (m.after ++ below) ∧
    m.line = above.length + m.before.length + 1 ∧
    m.before.length ≤ 2 ∧ (above ≠ [] → m.before.length = 2) ∧
    m.after.length ≤ 3 ∧ (below ≠ [] → m.after.length = 3)

/-- Whether a match is what its file gives: that suits the query, and the match shows the lines
around the place where the declaration is seen. -/
structure IsMatch (f : Framework) (t : Tree) (query : String) (m : Found) : Prop where
  framework : m.framework = f
  shows : ∃ content, Suits f t query m.path content m.name m.confidence m.fit ∧
    (m.line, m.column) = declarationLine f (lines content.toList) m.name.toList ∧
    m.ShowsLines (lines content.toList)

variable {f : Framework} {t : Tree} {query : String} {p : Path} {files : List Path}

theorem lines_ne_nil (s : List Char) : lines s ≠ [] := List.splitOn_ne_nil _ _

/-- The place of a declaration is on one of the lines. -/
theorem declarationLine_bounds {ls : List (List Char)} (hls : ls ≠ []) (name : List Char) :
    1 ≤ (declarationLine f ls name).1 ∧ (declarationLine f ls name).1 ≤ ls.length := by
  unfold declarationLine
  dsimp only
  split
  · next n hn =>
    obtain ⟨hlt, -⟩ := List.findIdx?_eq_some_iff_findIdx_eq.1 hn
    exact ⟨Nat.le_add_left 1 n, hlt⟩
  · exact ⟨Nat.le_refl 1, List.length_pos_iff.2 hls⟩

/-- What is cut out of the lines before, at and behind a line. -/
theorem showsLines {ls : List (List Char)} {m : Found} (hlow : 1 ≤ m.line)
    (hhigh : m.line ≤ ls.length)
    (hbefore : m.before = (ls.take (m.line - 1)).drop (m.line - 1 - linesBefore))
    (hmatched : m.matched = (ls.drop (m.line - 1)).take 1)
    (hafter : m.after = (ls.drop m.line).take linesAfter) : m.ShowsLines ls := by
  obtain ⟨n, hn⟩ : ∃ n, m.line = n + 1 := ⟨m.line - 1, by omega⟩
  have hlt : n < ls.length := by omega
  simp only [hn, Nat.add_sub_cancel, linesBefore, linesAfter] at hbefore hmatched hafter
  have htake : (ls.take n).length = n := List.length_take_of_le hlt.le
  have hdrop : (ls.drop (n + 1)).length = ls.length - (n + 1) := List.length_drop
  have hcut : ls.drop n = ls[n] :: ls.drop (n + 1) := List.drop_eq_getElem_cons hlt
  have habove : ((ls.take n).take (n - 2)).length = n - 2 :=
    List.length_take_of_le (by omega)
  have hb : m.before.length = n - (n - 2) := by rw [hbefore, List.length_drop, htake]
  have ha : m.after.length = min 3 (ls.length - (n + 1)) := by rw [hafter, List.length_take, hdrop]
  refine ⟨(ls.take n).take (n - 2), ls[n], (ls.drop (n + 1)).drop 3, ?_, ?_, ?_, ?_, ?_, ?_, ?_⟩
  · rw [hmatched, hcut, List.take_succ_cons, List.take_zero]
  · rw [hbefore, hafter, List.take_append_drop, List.take_append_drop, ← hcut,
      List.take_append_drop]
  · omega
  · omega
  · intro hne
    have hpos := List.length_pos_iff.2 hne
    omega
  · omega
  · intro hne
    have hpos := List.length_pos_iff.2 hne
    rw [List.length_drop, hdrop] at hpos
    omega

theorem searchFile_isMatch {m : Found} (h : searchFile f t query p = some m) :
    m.path = p ∧ IsMatch f t query m := by
  unfold searchFile at h
  split at h
  · cases h
  · next content hread =>
    split at h
    · next hdecl =>
      split at h
      · cases h
      · next name hname =>
        split at h
        · cases h
        · next hempty =>
          cases hscore : matchScore query.toList name.toList with
          | mk score fit =>
            cases hplace : declarationLine f (lines content.toList) name.toList with
            | mk line column =>
              rw [hscore] at h
              dsimp only at h
              split at h
              · next henough =>
                rw [hplace] at h
                obtain rfl := Option.some.inj h
                have hbounds := declarationLine_bounds (f := f) (lines_ne_nil content.toList)
                  name.toList
                rw [hplace] at hbounds
                refine ⟨rfl, rfl, content, ⟨hread, hdecl, hname, ?_, hscore, henough⟩, hplace.symm, ?_⟩
                · simpa using hempty
                · exact showsLines hbounds.1 hbounds.2 rfl rfl rfl
              · cases h
    · cases h

theorem exists_searchFile {content name : String} {score : Confidence} {fit : Fit}
    (h : Suits f t query p content name score fit) : ∃ m, searchFile f t query p = some m := by
  have hempty : ¬ name.isEmpty = true := by simpa using h.nonempty
  unfold searchFile
  simp only [h.readable, h.declared, h.named, h.scored, if_true, if_neg hempty, if_pos h.enough]
  exact ⟨_, rfl⟩

/-! ### The order of matches -/

/-- Whether a match comes no later than another one: it is at least as sure. -/
abbrev surer (m m' : Found) : Bool := decide (m'.confidence ≤ m.confidence)

theorem surer_trans (a b c : Found) (hab : surer a b = true) (hbc : surer b c = true) :
    surer a c = true := by
  rw [decide_eq_true_eq] at hab hbc ⊢
  exact Nat.le_trans hbc hab

theorem surer_total (a b : Found) : (surer a b || surer b a) = true := by
  rw [Bool.or_eq_true, decide_eq_true_eq, decide_eq_true_eq]
  exact Nat.le_total _ _

theorem pairwise_rank (l : List Found) :
    (rank l).Pairwise fun m m' => m'.confidence ≤ m.confidence :=
  (List.pairwise_mergeSort surer_trans surer_total l).imp of_decide_eq_true

/-- Sorted matches stay as they are. -/
theorem rank_rank (l : List Found) : rank (rank l) = rank l :=
  List.mergeSort_of_pairwise (List.pairwise_mergeSort surer_trans surer_total l)

theorem rank_perm (l : List Found) : (rank l).Perm l := List.mergeSort_perm l _

/-- One that is less sure than all sorted ones comes behind them. -/
theorem rank_cons {m : Found} {l : List Found}
    (hl : l.Pairwise fun m m' => m'.confidence ≤ m.confidence)
    (hless : ∀ m' ∈ l, m.confidence < m'.confidence) : rank (m :: l) = l ++ [m] := by
  obtain ⟨before, behind, hcons, hrest, -⟩ := List.mergeSort_cons surer_trans surer_total m l
  rw [List.mergeSort_of_pairwise (hl.imp decide_eq_true)] at hrest
  have hsorted := pairwise_rank (m :: l)
  rw [rank, hcons] at hsorted ⊢
  have hnone : behind = [] := by
    refine List.eq_nil_iff_forall_not_mem.2 fun m' hm' => ?_
    have hle := (List.pairwise_cons.1 (List.pairwise_append.1 hsorted).2.1).1 m' hm'
    exact Nat.not_le.2 (hless m' (hrest ▸ List.mem_append_right before hm')) hle
  rw [hrest, hnone, List.append_nil]

/-- Among those that are equally sure sorting changes nothing. -/
theorem filter_rank (c : Confidence) (l : List Found) :
    (rank l).filter (fun m => decide (m.confidence = c)) =
      l.filter fun m => decide (m.confidence = c) := by
  have hsub : (l.filter fun m => decide (m.confidence = c)).Sublist (rank l) := by
    refine List.sublist_mergeSort surer_trans surer_total ?_ List.filter_sublist
    refine List.pairwise_of_forall_mem_list fun a ha b hb => ?_
    have hc := of_decide_eq_true (List.mem_filter.1 ha).2
    have hc' := of_decide_eq_true (List.mem_filter.1 hb).2
    rw [decide_eq_true_eq, hc, hc']
    exact Nat.le_refl _
  have hfilter := hsub.filter fun m => decide (m.confidence = c)
  simp only [List.filter_filter, Bool.and_self] at hfilter
  refine (hfilter.eq_of_length ?_).symm
  exact ((rank_perm l).filter _).length_eq.symm

/-! ### The answer -/

/-- Whether matches are the answer of a search among files, the surest first, and equally sure ones
in the order of the files. -/
structure Answers (f : Framework) (t : Tree) (query : String) (files : List Path)
    (found : List Found) : Prop where
  sound : ∀ m ∈ found, m.path ∈ files ∧ IsMatch f t query m
  complete : ∀ p ∈ files, ∀ content name score fit, Suits f t query p content name score fit →
    ∃ m ∈ found, m.path = p
  once : (found.map (·.path)).Nodup
  falling : found.Pairwise fun m m' => m'.confidence ≤ m.confidence
  /-- Exact matches come first, then parts, and then the others. -/
  fits : found.Pairwise fun m m' => m.fit.place ≤ m'.fit.place
  steady : found.Pairwise fun m m' =>
    m.confidence = m'.confidence → [m.path, m'.path].Sublist files

theorem sublist_filterMap_searchFile (files : List Path) :
    ((files.filterMap (searchFile f t query)).map (·.path)).Sublist files := by
  induction files with
  | nil => exact .slnil
  | cons p files ih =>
    cases hm : searchFile f t query p with
    | none => simpa [hm] using ih.cons p
    | some m =>
      rw [List.filterMap_cons_some hm, List.map_cons, (searchFile_isMatch hm).1]
      exact ih.cons_cons p

theorem mem_search {m : Found} :
    m ∈ search f t query files ↔ m.path ∈ files ∧ searchFile f t query m.path = some m := by
  rw [search, (rank_perm _).mem_iff, List.mem_filterMap]
  constructor
  · intro h
    obtain ⟨p, hp, hm⟩ := h
    obtain rfl := (searchFile_isMatch hm).1
    exact ⟨hp, hm⟩
  · intro h
    exact ⟨m.path, h⟩

theorem search_steady (files : List Path) :
    (search f t query files).Pairwise fun m m' =>
      m.confidence = m'.confidence → [m.path, m'.path].Sublist files := by
  rw [List.pairwise_iff_forall_sublist]
  intro m m' hsub heq
  have hsure : [m, m'].Sublist ((search f t query files).filter fun x =>
      decide (x.confidence = m'.confidence)) := by
    simpa [heq] using hsub.filter fun x => decide (x.confidence = m'.confidence)
  rw [search, filter_rank] at hsure
  have hpaths := (hsure.trans List.filter_sublist).map (·.path)
  exact hpaths.trans (sublist_filterMap_searchFile files)

theorem search_answers (hfiles : files.Nodup) :
    Answers f t query files (search f t query files) where
  sound m hm := by
    obtain ⟨hp, hs⟩ := mem_search.1 hm
    exact ⟨hp, (searchFile_isMatch hs).2⟩
  complete p hp content name score fit h := by
    obtain ⟨m, hm⟩ := exists_searchFile h
    obtain rfl := (searchFile_isMatch hm).1
    exact ⟨m, mem_search.2 ⟨hp, hm⟩, rfl⟩
  once := by
    have hperm := (rank_perm (files.filterMap (searchFile f t query))).map (·.path)
    exact hperm.nodup_iff.2 (hfiles.sublist (sublist_filterMap_searchFile files))
  falling := pairwise_rank _
  fits := by
    refine (pairwise_rank _).imp_of_mem ?_
    intro m m' hm hm' hle
    have hscores : ∀ x ∈ search f t query files, x.fit.Scores x.confidence := by
      intro x hx
      obtain ⟨-, content, hsuits, -⟩ := (searchFile_isMatch (mem_search.1 hx).2).2
      exact matchScore_scores hsuits.scored hsuits.enough
    exact (hscores m hm).place_le (hscores m' hm') hle
  steady := search_steady files

/-! ### Options -/

theorem texts_ofValue (patterns : List String) :
    Pattern.texts ((patterns.map Value.str).map Pattern.ofValue) = (patterns, true) := by
  induction patterns with
  | nil => rfl
  | cons s rest ih =>
    rw [List.map_cons, List.map_cons, Pattern.ofValue, Pattern.texts, ih]

namespace SearchOptions

/-- Options of the kinds that a caller should give. -/
def ofLists (root : String) (excludes includes : List String) (maxDepth : Int)
    (frameworks : List Framework) : SearchOptions where
  root := .str root
  excludes := .list (excludes.map .str)
  includes := .list (includes.map .str)
  maxDepth := .int maxDepth
  frameworks := .list (frameworks.map fun f => .str f.name)

variable {root : String} {excludes includes : List String} {maxDepth : Int}
  {frameworks : List Framework}

/-- Below a root the files are those of a scan, by the patterns of the framework if none are given;
where it fails there are none. -/
theorem files_ofLists (f : Framework) (t : Tree) (hroot : Path.isAbsolute root = true) :
    (ofLists root excludes includes maxDepth frameworks).files f t =
      (Scan.files ⟨excludes, .atMost maxDepth⟩
        (if includes = [] then f.filePatterns else includes) t
          (Path.names root)).toOption.getD [] := by
  have hlimit : Settings.depthLimit (.int maxDepth) = .ok (.atMost maxDepth) := by
    simp [Settings.depthLimit, Value.toBinary?, Rat.floor_intCast]
  have hscan : Scan.ofValues (excludes.map .str) (.int maxDepth) =
      some ⟨excludes, .atMost maxDepth⟩ := by
    rw [Scan.ofValues, texts_ofValue, hlimit]
  have hby (patterns : List String) (s : Scan) :
      s.filesBy (patterns.map .str) t (Path.names root) = s.files patterns t (Path.names root) := by
    rw [Scan.filesBy, texts_ofValue]
    show (s.files patterns t (Path.names root) >>= fun found => pure found) = _
    exact bind_pure _
  cases includes with
  | nil =>
    simp only [files, ofLists, List.map_nil, Value.orElse, Value.isTruthy, List.isEmpty_nil,
      Bool.not_true, Bool.false_eq_true, if_false, Value.items, if_pos hroot, hscan, hby, if_true]
  | cons s rest =>
    simp only [files, ofLists, List.map_cons, Value.orElse, Value.isTruthy, List.isEmpty_cons,
      Bool.not_false, if_true, Value.items, if_pos hroot, hscan, reduceCtorEq, if_false]
    exact congrArg (fun found => found.toOption.getD []) (hby (s :: rest) _)

theorem nodup_files_ofLists (ht : t.IsCatalog) (f : Framework) :
    ((ofLists root excludes includes maxDepth frameworks).files f t).Nodup := by
  by_cases hroot : Path.isAbsolute root = true
  · rw [files_ofLists f t hroot]
    cases hfound : Scan.files _ _ t (Path.names root) with
    | error f => exact List.nodup_nil
    | ok found => exact Scan.nodup_files ht hfound
  · have hnone : (ofLists root excludes includes maxDepth frameworks).files f t = [] := by
      unfold files
      dsimp only
      split
      · next h _ _ =>
        cases h
        rw [if_neg hroot]
      · rfl
    rw [hnone]
    exact List.nodup_nil

theorem wants_ofLists (root : String) (excludes includes : List String) (maxDepth : Int)
    (hasked : frameworks = [] ∨ f ∈ frameworks) :
    (ofLists root excludes includes maxDepth frameworks).wants f = .ok true := by
  rcases hasked with rfl | hf
  · rfl
  · have htruthy : (Value.list (frameworks.map fun f => .str f.name)).isTruthy = true := by
      simpa [Value.isTruthy] using List.ne_nil_of_mem hf
    simp only [wants, ofLists, htruthy, if_true, Value.items]
    refine congrArg Except.ok ?_
    rw [List.any_map]
    exact List.any_eq_true.2 ⟨f, hf, beq_self_eq_true f.name⟩

end SearchOptions

theorem searchBy_eq {o : SearchOptions} (t : Tree) (query : String) (hf : f ≠ .html)
    (hwants : o.wants f = .ok true) :
    searchBy o f t (.str query) = .ok (search f t query (o.files f t)) := by
  cases f with
  | html => exact absurd rfl hf
  | react => simp [searchBy, hwants, bind, Except.bind, pure, Except.pure]
  | vue => simp [searchBy, hwants, bind, Except.bind, pure, Except.pure]
  | angular => simp [searchBy, hwants, bind, Except.bind, pure, Except.pure]

/-- A search by options that ask for the framework answers with the matches of the files that were
scanned, and a project of that framework gives the same answer. -/
theorem searchBy_answers (ht : t.IsCatalog) (hf : f ≠ .html) (query root : String)
    (excludes includes : List String) (maxDepth : Int) {frameworks : List Framework}
    (hasked : frameworks = [] ∨ f ∈ frameworks) :
    let o := SearchOptions.ofLists root excludes includes maxDepth frameworks
    (Path.isAbsolute root = true →
      o.files f t = (Scan.files ⟨excludes, .atMost maxDepth⟩
        (if includes = [] then f.filePatterns else includes) t
          (Path.names root)).toOption.getD []) ∧
    ∃ found, searchBy o f t (.str query) = .ok found ∧
      Answers f t query (o.files f t) found ∧
      ∀ r : Resolver, (r.detect t).framework? = some f →
        (r.searchWith t (.str query) (.ok o)).1 = found := by
  intro o
  have hsearch := searchBy_eq t query hf
    (SearchOptions.wants_ofLists root excludes includes maxDepth hasked)
  refine ⟨SearchOptions.files_ofLists f t, _, hsearch,
    search_answers (SearchOptions.nodup_files_ofLists ht f), ?_⟩
  intro r hr
  simp only [Resolver.searchWith, hr, Except.bind, o, hsearch]
  exact rank_rank _

/-- Five components: one has most characters of a name, one has the name, one has nothing of it, and
it is a part of the names of two. -/
def buttonTree : Tree :=
  ⟨[(["w"], .directory),
    (["w", "Bottom.jsx"], .file "function Bottom() {}\n".toUTF8),
    (["w", "Button.jsx"], .file "function Button() {}\n".toUTF8),
    (["w", "ButtonBar.jsx"], .file "function ButtonBar() {}\n".toUTF8),
    (["w", "Card.jsx"], .file "function Card() {}\n".toUTF8),
    (["w", "IconButton.jsx"], .file "function IconButton() {}\n".toUTF8)]⟩

def buttonPaths : List Path :=
  [["w", "Bottom.jsx"], ["w", "Button.jsx"], ["w", "ButtonBar.jsx"], ["w", "Card.jsx"],
    ["w", "IconButton.jsx"]]

theorem files_buttonTree :
    Scan.files ⟨[], .atMost 3⟩ Framework.react.filePatterns buttonTree ["w"] = .ok buttonPaths := by
  have hnames : buttonTree.namesIn ["w"] =
      ["Bottom.jsx", "Button.jsx", "ButtonBar.jsx", "Card.jsx", "IconButton.jsx"] :=
    List.mergeSort_of_pairwise (by decide +kernel)
  have hdirectory : buttonTree.find ["w"] = .ok (["w"], some .directory) := rfl
  unfold Scan.files maxCalls Value.maxNesting
  rw [Scan.filesFrom, List.append_nil, Tree.list?, hdirectory]
  simp only [hnames]
  decide +kernel

/-- What tells a match apart from others here. -/
def shown (m : Found) : (String × Fit) × Confidence := ((m.name, m.fit), m.confidence)

/-- The component itself comes first, then those that have its name in theirs, in the order of the
files, and last the one that is like it. -/
theorem searchBy_answers_button :
    buttonTree.IsCatalog ∧ Framework.react ≠ .html ∧
    ∃ found, searchBy (.ofLists "/w" [] [] 3 [.react]) .react buttonTree (.str "button") =
        .ok found ∧
      found.map (fun m => (m.name, m.fit)) = [("Button", .exact), ("ButtonBar", .partly),
        ("IconButton", .partly), ("Bottom", .fuzzy)] ∧
      Answers .react buttonTree "button" buttonPaths found := by
  have hcatalog : buttonTree.IsCatalog := ⟨Tree.isProper_of_entries (by decide), by decide⟩
  have hreact : Framework.react ≠ .html := by decide
  have hasked : [Framework.react] = [] ∨ Framework.react ∈ [Framework.react] :=
    .inr (List.mem_singleton_self _)
  obtain ⟨hfiles, found, hfound, hanswers, -⟩ :=
    searchBy_answers hcatalog hreact "button" "/w" [] [] 3 hasked
  have hnames : Path.names "/w" = ["w"] := by decide +kernel
  have hscanned : (SearchOptions.ofLists "/w" [] [] 3 [.react]).files .react buttonTree =
      buttonPaths := by
    rw [hfiles (by decide), hnames, if_pos rfl, files_buttonTree]
    rfl
  rw [hscanned] at hanswers
  have hsearch := searchBy_eq buttonTree "button" hreact
    (SearchOptions.wants_ofLists "/w" [] [] 3 hasked)
  rw [hscanned] at hsearch
  obtain rfl := Except.ok.inj (hsearch.symm.trans hfound)
  refine ⟨hcatalog, hreact, _, hsearch, ?_, hanswers⟩
  -- of the matches in the order of the files the first one is the least sure
  have hvalues : (buttonPaths.filterMap (searchFile .react buttonTree "button")).map shown =
      [(("Bottom", .fuzzy), ⟨4000⟩), (("Button", .exact), ⟨10000⟩),
        (("ButtonBar", .partly), ⟨8000⟩), (("IconButton", .partly), ⟨8000⟩)] := by
    decide +kernel
  obtain ⟨least, rest, hsplit, hleast, hrest⟩ := List.map_eq_cons_iff.1 hvalues
  have hsorted : rest.Pairwise fun m m' => m'.confidence ≤ m.confidence := by
    have hshown : (rest.map shown).Pairwise fun x y => y.2 ≤ x.2 := by
      rw [hrest]
      decide
    exact List.pairwise_map.1 hshown
  have hless : ∀ m ∈ rest, least.confidence < m.confidence := by
    have hshown : ∀ x ∈ rest.map shown, (shown least).2 < x.2 := by
      rw [hrest, hleast]
      decide
    exact fun m hm => hshown (shown m) (List.mem_map_of_mem hm)
  have hnamed (l : List Found) : l.map (fun m => (m.name, m.fit)) = (l.map shown).map Prod.fst := by
    rw [List.map_map]
    rfl
  rw [search, hsplit, rank_cons hsorted hless, hnamed, List.map_append, hrest, List.map_singleton,
    hleast]
  rfl

end Restyle.Component
