import Restyle.Proofs.RankedSearch
import Restyle.Proofs.ReportedColumn

/-!
Where a component is said to be declared. Its name is the one that stands in the first declaration of
a script, told by what stands around it; the place is the first line on which the name and one of a
few words occur, whatever they belong to. The two agree exactly when no earlier line has both, the
declaration's own line has such a word too, and the name occurs in it nowhere before.
-/
namespace Restyle

namespace Text

/-- Line and column, counted from one, of what stands behind a text. -/
def placeBehind (s : List Char) : Nat × Nat :=
  ((lines s).length, ((lines s).getLastD []).length + 1)

/-- Two texts together meet in one line. -/
theorem lines_append {s t tail first : List Char} {above below : List (List Char)}
    (hs : lines s = above ++ [tail]) (ht : lines t = first :: below) :
    lines (s ++ t) = above ++ (tail ++ first) :: below := by
  unfold lines at hs ht ⊢
  induction s generalizing above tail with
  | nil =>
    rw [List.splitOn_nil] at hs
    cases above with
    | nil =>
      obtain rfl : [] = tail := by simpa using hs
      exact ht
    | cons a above => simp at hs
  | cons c s ih =>
    rw [List.cons_append]
    rw [List.splitOn_cons_eq_if_modifyHead] at hs ⊢
    split at hs
    · next hc =>
      rw [if_pos hc]
      cases above with
      | nil =>
        obtain ⟨-, hnil⟩ := List.cons.inj hs
        exact absurd hnil (List.splitOn_ne_nil _ _)
      | cons a above =>
        obtain ⟨rfl, hrest⟩ := List.cons.inj hs
        rw [ih hrest, List.cons_append]
    · next hc =>
      rw [if_neg hc]
      cases hsplit : s.splitOn '\n' with
      | nil => exact absurd hsplit (List.splitOn_ne_nil _ _)
      | cons first' rest =>
        rw [hsplit, List.modifyHead_cons] at hs
        cases above with
        | nil =>
          obtain ⟨rfl, rfl⟩ := List.cons.inj hs
          have hlast : s.splitOn '\n' = [] ++ [first'] := hsplit
          rw [ih hlast]
          rfl
        | cons a above =>
          obtain ⟨rfl, rfl⟩ := List.cons.inj hs
          have hlast : s.splitOn '\n' = (first' :: above) ++ [tail] := hsplit
          rw [ih hlast]
          rfl

theorem lines_of_isOneLine {s : List Char} (h : IsOneLine s) : lines s = [s] := by
  have hall : ∀ l ∈ [s], IsOneLine l := by simpa using h
  have hone := lines_unlines hall (List.cons_ne_nil _ _)
  simpa [unlines, List.intercalate] using hone

/-- The first place of a word in a text. -/
theorem indexOf?_eq_some_iff {p s : List Char} {n : Nat} (hp : p ≠ []) :
    indexOf? p s = some n ↔ p <+: s.drop n ∧ ∀ m < n, ¬ p <+: s.drop m := by
  have hneeds : NeedsText fun (_ : Option Char) (t : List Char) => after? p t := by
    intro prev
    cases p with
    | nil => exact absurd rfl hp
    | cons c p => rfl
  have hnone (m : Nat) : after? p (s.drop m) = none ↔ ¬ p <+: s.drop m := by
    simp only [← Option.not_isSome_iff_eq_none, Option.isSome_iff_exists, after?_eq_some]
    exact not_congr (exists_congr fun r => eq_comm)
  have hfirst (r : List Char) : firstHit (fun _ t => after? p t) none 0 s = some (n, r) ↔
      IsFirstHit (fun _ t => after? p t) s 0 n r := firstHit_eq_some_iff hneeds [] s
  unfold indexOf?
  rw [Option.map_eq_some_iff]
  constructor
  · rintro ⟨⟨k, r⟩, hk, rfl⟩
    have h := (hfirst r).1 hk
    refine ⟨⟨r, (after?_eq_some.1 h.hit).symm⟩, ?_⟩
    intro m hm
    exact (hnone m).1 (h.before m (Nat.zero_le m) hm)
  · rintro ⟨⟨r, hr⟩, hbefore⟩
    refine ⟨(n, r), (hfirst r).2 ⟨Nat.zero_le n, after?_eq_some.2 hr.symm, ?_⟩, rfl⟩
    intro m _ hm
    exact (hnone m).2 (hbefore m hm)

end Text

namespace Component

open Text

/-! ### The name in a declaration -/

variable {word : String} {s r name rest : List Char} {prev : Option Char}

theorem skipBlanks_suffix (s : List Char) : skipBlanks s <:+ s := List.dropWhile_suffix _

/-- A word leaves less than there was. -/
theorem keyword?_suffix (h : keyword? word s = some r) : r <:+ s ∧ r.length < s.length := by
  obtain ⟨s', hword, hblanks⟩ := Option.bind_eq_some_iff.1 h
  have hs := after?_eq_some.1 hword
  cases s' with
  | nil => cases hblanks
  | cons c s' =>
    rw [blanks?] at hblanks
    split at hblanks
    · obtain rfl := Option.some.inj hblanks
      have hsuffix : skipBlanks s' <:+ s' := skipBlanks_suffix s'
      constructor
      · rw [hs]
        exact (hsuffix.trans (List.suffix_cons c s')).trans (List.suffix_append _ _)
      · rw [hs, List.length_append, List.length_cons]
        have hle := hsuffix.length_le
        omega
    · cases hblanks

theorem optionalKeyword_suffix (word : String) (s : List Char) : optionalKeyword word s <:+ s := by
  unfold optionalKeyword
  cases h : keyword? word s with
  | none => exact List.suffix_refl s
  | some r => exact (keyword?_suffix h).1

theorem capitalName_spec (h : capitalName s = some (name, rest)) :
    s = name ++ rest ∧ name ≠ [] ∧ IsOneLine name := by
  cases s with
  | nil => cases h
  | cons c s =>
    simp only [capitalName, nameOf] at h
    split at h
    · next hc =>
      obtain ⟨rfl, rfl⟩ := Prod.mk.inj (Option.some.inj h)
      refine ⟨by rw [List.cons_append, List.takeWhile_append_dropWhile], List.cons_ne_nil _ _, ?_⟩
      refine IsOneLine.cons ?_ ?_
      · rintro rfl
        exact absurd hc (by decide)
      · intro hm
        exact absurd (List.mem_takeWhile_imp hm) (by decide)
    · cases h

/-- Whether a recogniser reads its name behind something. -/
def ReadsBehind (test : Option Char → List Char → Option (List Char × List Char)) : Prop :=
  ∀ prev s name rest, test prev s = some (name, rest) →
    ∃ s', s' <:+ s ∧ s'.length < s.length ∧ capitalName s' = some (name, rest)

theorem exportedAt_readsBehind (word : String) : ReadsBehind fun _ s => exportedAt word s := by
  intro prev s name rest h
  obtain ⟨s₁, hexport, h⟩ := Option.bind_eq_some_iff.1 h
  obtain ⟨s₂, hword, hname⟩ := Option.bind_eq_some_iff.1 h
  obtain ⟨hs₁, hlt⟩ := keyword?_suffix hexport
  have hdefault := optionalKeyword_suffix "default" s₁
  obtain ⟨hs₂, -⟩ := keyword?_suffix hword
  have hle := (hs₂.trans hdefault).length_le
  exact ⟨s₂, (hs₂.trans hdefault).trans hs₁, by omega, hname⟩

theorem functionAt_readsBehind : ReadsBehind functionAt := by
  intro prev s name rest h
  unfold functionAt at h
  split at h
  · obtain ⟨s₁, hword, hname⟩ := Option.bind_eq_some_iff.1 h
    obtain ⟨hs₁, hlt⟩ := keyword?_suffix hword
    have hasync := (optionalKeyword_suffix "async" (skipBlanks s)).trans (skipBlanks_suffix s)
    have hle := hasync.length_le
    exact ⟨s₁, hs₁.trans hasync, by omega, hname⟩
  · cases h

theorem variableAt_readsBehind : ReadsBehind fun _ s => variableAt s := by
  intro prev s name rest h
  obtain ⟨s₁, hword, h⟩ := Option.bind_eq_some_iff.1 h
  obtain ⟨w, -, hw⟩ := List.exists_of_findSome?_eq_some hword
  obtain ⟨hs₁, hlt⟩ := keyword?_suffix hw
  refine ⟨s₁, hs₁, hlt, ?_⟩
  cases hname : capitalName s₁ with
  | none => simp [hname] at h
  | some x =>
    rw [hname] at h
    dsimp only at h
    split at h
    · split at h
      · exact h
      · cases h
    · cases h

theorem classAt_readsBehind : ReadsBehind fun _ s => (keyword? "class" s).bind capitalName := by
  intro prev s name rest h
  obtain ⟨s₁, hword, hname⟩ := Option.bind_eq_some_iff.1 h
  obtain ⟨hs₁, hlt⟩ := keyword?_suffix hword
  exact ⟨s₁, hs₁, hlt, hname⟩

theorem readsBehind_of_mem {test : Option Char → List Char → Option (List Char × List Char)}
    (h : test ∈ declarationTests) : ReadsBehind test := by
  simp only [declarationTests, List.mem_cons, List.not_mem_nil, or_false] at h
  rcases h with rfl | rfl | rfl | rfl | rfl
  · exact exportedAt_readsBehind "function"
  · exact exportedAt_readsBehind "class"
  · exact functionAt_readsBehind
  · exact variableAt_readsBehind
  · exact classAt_readsBehind

/-- The name of a declaration stands in the text, behind something. -/
theorem declaration?_split {content : List Char} {n : Nat}
    (h : declaration? content = some (n, name, rest)) :
    ∃ before, content = before ++ (name ++ rest) ∧ before ≠ [] ∧ name ≠ [] ∧ IsOneLine name := by
  obtain ⟨test, htest, hfirst⟩ := List.exists_of_findSome?_eq_some h
  have hreads := readsBehind_of_mem htest
  have hneeds : NeedsText test := by
    intro prev
    cases he : test prev [] with
    | none => rfl
    | some x =>
      obtain ⟨s', -, hlt, -⟩ := hreads prev [] x.1 x.2 he
      exact absurd hlt (Nat.not_lt_zero _)
  obtain ⟨s', ⟨skipped, hs'⟩, hlt, hname⟩ :=
    hreads _ _ name rest (hitAt_of_firstHit hneeds hfirst)
  obtain ⟨rfl, hne, hone⟩ := capitalName_spec hname
  refine ⟨content.take n ++ skipped, ?_, ?_, hne, hone⟩
  · rw [List.append_assoc, hs', List.take_append_drop]
  · intro hnil
    obtain ⟨-, rfl⟩ := List.append_eq_nil_iff.1 hnil
    rw [List.nil_append] at hs'
    rw [hs'] at hlt
    exact absurd hlt (Nat.lt_irrefl _)

/-! ### The line that is told -/

/-- Whether a line has one of the words that mark declarations. -/
def IsMarked (f : Framework) (l : List Char) : Prop :=
  ∃ w ∈ declarationWords f, w.toList <:+: l

/-- The line of a text in which a name stands, between what is before it and what is behind it. -/
def nameLine (before name rest : List Char) : List Char :=
  (lines before).getLastD [] ++ (name ++ (lines rest).headD [])

/-- Whether a name between two texts is the first one that is seen together with a word that marks
declarations: its own line has one, no line above has both, and the name is nowhere before in its
line. -/
structure IsSeenFirst (f : Framework) (before name rest : List Char) : Prop where
  marked : IsMarked f (nameLine before name rest)
  above : ∀ l ∈ (lines before).dropLast, name <:+: l → ¬ IsMarked f l
  leftmost : ∀ m < ((lines before).getLastD []).length,
    ¬ name <+: (nameLine before name rest).drop m

theorem findIdx?_middle {α : Type} {p : α → Bool} {above below : List α} {l : α} :
    (above ++ l :: below).findIdx? p = some above.length ↔
      p l = true ∧ ∀ x ∈ above, p x = false := by
  rw [List.findIdx?_append]
  cases h : above.findIdx? p with
  | some n =>
    obtain ⟨hlt, hn, -⟩ := List.findIdx?_eq_some_iff_getElem.1 h
    rw [Option.some_or, Option.some.injEq]
    constructor
    · intro he
      omega
    · rintro ⟨-, hnone⟩
      rw [hnone _ (List.getElem_mem hlt)] at hn
      cases hn
  | none =>
    rw [List.findIdx?_eq_none_iff] at h
    rw [Option.none_or, List.findIdx?_cons]
    cases hl : p l with
    | true => simpa using h
    | false =>
      simp only [Bool.false_eq_true, if_false, false_and, iff_false]
      cases below.findIdx? p <;> simp

/-- What is told of a name in the midst of lines, of which `line` is one. -/
theorem declarationLine_middle {f : Framework} {above below : List (List Char)}
    {line tail name first : List Char} (hline : line = tail ++ (name ++ first))
    (hbehind : above ≠ [] ∨ tail ≠ []) (hname : name ≠ []) :
    declarationLine f (above ++ line :: below) name = (above.length + 1, tail.length + 1) ↔
      IsMarked f line ∧ (∀ l ∈ above, name <:+: l → ¬ IsMarked f l) ∧
        ∀ m < tail.length, ¬ name <+: line.drop m := by
  let declares (l : List Char) : Bool :=
    occursIn name l && (declarationWords f).any fun w => occursIn w.toList l
  have hdeclares (l : List Char) : declares l = true ↔ name <:+: l ∧ IsMarked f l := by
    simp [declares, occursIn_iff, IsMarked]
  have hoccurs : name <:+: line := ⟨tail, first, by simp [hline]⟩
  have hget : (above ++ line :: below).getD above.length [] = line := by simp
  have htold : declarationLine f (above ++ line :: below) name =
      (((above ++ line :: below).findIdx? declares).map fun n =>
        (n + 1, ((indexOf? name ((above ++ line :: below).getD n [])).getD 0) + 1)).getD (1, 1) := by
    unfold declarationLine
    dsimp only
    split
    · next h => rw [show _ = some _ from h, Option.map_some, Option.getD_some]
    · next h => rw [show _ = none from h, Option.map_none, Option.getD_none]
  rw [htold]
  constructor
  · intro h
    cases hn : (above ++ line :: below).findIdx? declares with
    | none =>
      -- the start of the text is told, where the name does not stand
      rw [hn] at h
      obtain ⟨hrow, hcolumn⟩ := Prod.mk.inj h
      have habove : above = [] := List.eq_nil_of_length_eq_zero (by omega)
      have htail : tail = [] := List.eq_nil_of_length_eq_zero (by omega)
      exact absurd htail (hbehind.resolve_left (not_not.2 habove))
    | some n =>
      rw [hn] at h
      obtain ⟨hrow, hcolumn⟩ := Prod.mk.inj h
      obtain rfl : n = above.length := by omega
      obtain ⟨hown, hothers⟩ := findIdx?_middle.1 hn
      rw [hget] at hcolumn
      obtain ⟨k, hk⟩ := Option.isSome_iff_exists.1 (occursIn_iff.2 hoccurs)
      rw [hk, Option.getD_some] at hcolumn
      obtain rfl : k = tail.length := by omega
      refine ⟨((hdeclares line).1 hown).2, ?_, ((indexOf?_eq_some_iff hname).1 hk).2⟩
      intro l hl hin hmarked
      have hno := hothers l hl
      rw [(hdeclares l).2 ⟨hin, hmarked⟩] at hno
      cases hno
  · rintro ⟨hmarked, hothers, hleft⟩
    have hn : (above ++ line :: below).findIdx? declares = some above.length := by
      refine findIdx?_middle.2 ⟨(hdeclares line).2 ⟨hoccurs, hmarked⟩, ?_⟩
      intro l hl
      rw [Bool.eq_false_iff, ne_eq, hdeclares]
      rintro ⟨hin, hm⟩
      exact hothers l hl hin hm
    have hk : indexOf? name line = some tail.length := by
      refine (indexOf?_eq_some_iff hname).2 ⟨⟨first, ?_⟩, hleft⟩
      rw [hline, List.drop_left]
    rw [hn, Option.map_some, Option.getD_some, hget, hk, Option.getD_some]

/-- The place that is told is the one of the name exactly where it is seen first. -/
theorem declarationLine_eq_iff {f : Framework} {before name rest : List Char}
    (hbefore : before ≠ []) (hname : name ≠ []) (hone : IsOneLine name) :
    declarationLine f (lines (before ++ (name ++ rest))) name = placeBehind before ↔
      IsSeenFirst f before name rest := by
  obtain ⟨above, tail, habove⟩ := (List.eq_nil_or_concat' (lines before)).resolve_left
    (lines_ne_nil before)
  obtain ⟨first, below, hbelow⟩ := List.exists_cons_of_ne_nil (lines_ne_nil rest)
  have hlines : lines (before ++ (name ++ rest)) = above ++ (tail ++ (name ++ first)) :: below := by
    have hmiddle : lines name = [] ++ [name] := lines_of_isOneLine hone
    exact lines_append habove (lines_append hmiddle hbelow)
  have hline : nameLine before name rest = tail ++ (name ++ first) := by
    simp [nameLine, habove, hbelow]
  have hplace : placeBehind before = (above.length + 1, tail.length + 1) := by
    simp [placeBehind, habove]
  have hbehind : above ≠ [] ∨ tail ≠ [] := by
    by_contra hnone
    obtain ⟨rfl, rfl⟩ : above = [] ∧ tail = [] := by simpa [not_or] using hnone
    have htext := unlines_lines before
    rw [habove] at htext
    exact hbefore htext.symm
  rw [hlines, hplace, declarationLine_middle rfl hbehind hname]
  constructor
  · rintro ⟨hmarked, hothers, hleft⟩
    refine ⟨hline ▸ hmarked, ?_, ?_⟩
    · rwa [habove, List.dropLast_concat]
    · rwa [habove, List.getLastD_concat, hline]
  · intro h
    have hothers := h.above
    have hleft := h.leftmost
    rw [habove, List.dropLast_concat] at hothers
    rw [habove, List.getLastD_concat, hline] at hleft
    exact ⟨hline ▸ h.marked, hothers, hleft⟩

/-! ### The answer of a search -/

variable {o : SearchOptions} {t : Tree} {query : Value} {found : List Found} {m : Found}

theorem exists_searchFile_of_mem {f : Framework} (hfound : searchBy o f t query = .ok found)
    (hm : m ∈ found) : ∃ q, searchFile f t q m.path = some m := by
  unfold searchBy at hfound
  split at hfound
  · cases hfound
    cases hm
  · obtain ⟨wanted, -, hfound⟩ := bind_eq_ok.1 hfound
    split at hfound
    · split at hfound
      · next q _ =>
        cases hfound
        exact ⟨q, (mem_search.1 hm).2⟩
      · cases hfound
        cases hm
    · cases hfound
      cases hm

/-- A match of a script that declares its component points at the name of the declaration exactly
where the name is seen first. -/
theorem declared_place_iff (hfound : searchBy o .react t query = .ok found) (hm : m ∈ found)
    {content : String} (hread : readText t m.path = .ok content) {n : Nat} {name rest : List Char}
    (hdeclared : declaration? content.toList = some (n, name, rest)) :
    m.name = String.ofList name ∧
    ∃ before, content.toList = before ++ (name ++ rest) ∧
      ((m.line, m.column) = placeBehind before ↔ IsSeenFirst .react before name rest) := by
  obtain ⟨q, hq⟩ := exists_searchFile_of_mem hfound hm
  obtain ⟨-, -, content', hsuits, hplace, -⟩ := searchFile_isMatch hq
  obtain rfl : content = content' := Except.ok.inj (hread.symm.trans hsuits.readable)
  have hnamed : m.name = String.ofList name := by
    have h := hsuits.named
    simp only [nameIn, reactName, hdeclared, Option.map_some, Option.some.injEq] at h
    exact h.symm
  obtain ⟨before, hsplit, hbefore, hname, hone⟩ := declaration?_split hdeclared
  refine ⟨hnamed, before, hsplit, ?_⟩
  rw [hplace, hnamed, String.toList_ofList, hsplit]
  exact declarationLine_eq_iff hbefore hname hone

theorem exists_found {f : Framework} {p : Path} {q : String} (hf : f ≠ .html)
    (hwants : o.wants f = .ok true) (hp : p ∈ o.files f t) (hm : searchFile f t q p = some m) :
    ∃ found, searchBy o f t (.str q) = .ok found ∧ m ∈ found := by
  refine ⟨_, searchBy_eq t q hf hwants, mem_search.2 ?_⟩
  obtain rfl := (searchFile_isMatch hm).1
  exact ⟨hp, hm⟩

/-- A project of one script. -/
def scriptTree (content : String) : Tree :=
  ⟨[(["w"], .directory), (["w", "Button.jsx"], .file content.toUTF8)]⟩

def scriptOptions : SearchOptions := .ofLists "/w" [] [] 3 []

/-- The match of a script of some lines, of which the one that is told has none above. -/
def scriptMatch (column : Nat) (line : String) (after : List String) : Found where
  path := ["w", "Button.jsx"]
  name := "Button"
  framework := .react
  confidence := ⟨10000⟩
  fit := .exact
  line := 1
  column
  before := []
  matched := [line.toList]
  after := after.map String.toList

theorem scanned_script {content : String}
    (h : ["w", "Button.jsx"] ∈ (Scan.files ⟨[], .atMost 3⟩ (Framework.filePatterns .react)
      (scriptTree content) ["w"]).toOption.getD []) :
    ["w", "Button.jsx"] ∈ scriptOptions.files .react (scriptTree content) := by
  rw [scriptOptions, SearchOptions.files_ofLists _ _ (by decide)]
  exact h

/-- A function is seen at its name. -/
theorem declared_place_iff_function :
    ∃ found m, searchBy scriptOptions .react (scriptTree "function Button() {}\n") (.str "Button") =
        .ok found ∧ m ∈ found ∧ (m.line, m.column) = (1, 10) ∧
      ∃ before, "function Button() {}\n".toList =
          before ++ ("Button".toList ++ "() {}\n".toList) ∧
        ((m.line, m.column) = placeBehind before ↔
          IsSeenFirst .react before "Button".toList "() {}\n".toList) := by
  have hm : searchFile .react (scriptTree "function Button() {}\n") "Button" ["w", "Button.jsx"] =
      some (scriptMatch 10 "function Button() {}" [""]) := by
    decide +kernel
  obtain ⟨found, hfound, hin⟩ := exists_found (o := scriptOptions) (by decide) rfl
    (scanned_script (by decide +kernel)) hm
  have hdeclared : declaration? "function Button() {}\n".toList =
      some (0, "Button".toList, "() {}\n".toList) := by
    decide +kernel
  have hread : readText (scriptTree "function Button() {}\n") ["w", "Button.jsx"] =
      .ok "function Button() {}\n" := by
    decide +kernel
  obtain ⟨-, hplace⟩ := declared_place_iff hfound hin hread hdeclared
  exact ⟨found, _, hfound, hin, rfl, hplace⟩

/-- Whether a match is told at one place, and the name of its declaration stands at another one. -/
def PointsElsewhere (content : String) (told right : Nat × Nat) : Prop :=
  told ≠ right ∧ ∃ found m n before name rest,
    searchBy scriptOptions .react (scriptTree content) (.str "Button") = .ok found ∧ m ∈ found ∧
    readText (scriptTree content) m.path = .ok content ∧
    declaration? content.toList = some (n, name, rest) ∧
    content.toList = before ++ (name ++ rest) ∧ (m.line, m.column) = told ∧
    placeBehind before = right

theorem pointsElsewhere_of_searchFile {content : String} {column n : Nat} {line : String}
    {after : List String} {before name rest : List Char}
    (hscanned : ["w", "Button.jsx"] ∈ (Scan.files ⟨[], .atMost 3⟩ (Framework.filePatterns .react)
      (scriptTree content) ["w"]).toOption.getD [])
    (hm : searchFile .react (scriptTree content) "Button" ["w", "Button.jsx"] =
      some (scriptMatch column line after))
    (hread : readText (scriptTree content) ["w", "Button.jsx"] = .ok content)
    (hdeclared : declaration? content.toList = some (n, name, rest))
    (hsplit : content.toList = before ++ (name ++ rest)) (hne : (1, column) ≠ placeBehind before) :
    PointsElsewhere content (1, column) (placeBehind before) := by
  obtain ⟨found, hfound, hin⟩ := exists_found (o := scriptOptions) (by decide) rfl
    (scanned_script hscanned) hm
  exact ⟨hne, found, _, n, before, name, rest, hfound, hin, hread, hdeclared, hsplit, rfl, rfl⟩

/-- A variable is declared by a word that no line is looked for with, so that the start of the file is
told. A line that imports something is told instead of the declaration, since a word occurs in the
name of a file. -/
theorem declared_place_missed :
    PointsElsewhere "let Button = () => 1\n" (1, 1) (1, 5) ∧
    PointsElsewhere "import Button from './classes'\nfunction Button() {}\n" (1, 8) (2, 10) := by
  constructor
  · have hm : searchFile .react (scriptTree "let Button = () => 1\n") "Button"
        ["w", "Button.jsx"] = some (scriptMatch 1 "let Button = () => 1" [""]) := by
      decide +kernel
    have hdeclared : declaration? "let Button = () => 1\n".toList =
        some (0, "Button".toList, " = () => 1\n".toList) := by
      decide +kernel
    have hsplit : "let Button = () => 1\n".toList =
        "let ".toList ++ ("Button".toList ++ " = () => 1\n".toList) := by
      decide
    exact pointsElsewhere_of_searchFile (by decide +kernel) hm (by decide +kernel) hdeclared hsplit
      (by decide)
  · have hm : searchFile .react
        (scriptTree "import Button from './classes'\nfunction Button() {}\n") "Button"
        ["w", "Button.jsx"] =
        some (scriptMatch 8 "import Button from './classes'" ["function Button() {}", ""]) := by
      decide +kernel
    have hdeclared : declaration? "import Button from './classes'\nfunction Button() {}\n".toList =
        some (31, "Button".toList, "() {}\n".toList) := by
      decide +kernel
    have hsplit : "import Button from './classes'\nfunction Button() {}\n".toList =
        "import Button from './classes'\nfunction ".toList ++
          ("Button".toList ++ "() {}\n".toList) := by
      decide
    exact pointsElsewhere_of_searchFile (by decide +kernel) hm (by decide +kernel) hdeclared hsplit
      (by decide)

end Component
end Restyle
