import Restyle.Proofs.CachedLookup
import Restyle.Proofs.FailedEdit
import Restyle.Proofs.MissedElement
import Restyle.Proofs.ScannedLines

/-!
Changes that name no place. Their line is looked up as that of any element: it opens the tag, and
what else it has of the element counts only when the surest line is wanted. The change is made to a
tag that has the id and one of the classes. So it may be sent to a line without its element, though
another line has it; then it fails, and nothing is written.
-/
namespace Restyle

namespace Text

theorem isSome_firstHit_mono {α β : Type} {test : Option Char → List Char → Option α}
    {test' : Option Char → List Char → Option β}
    (himp : ∀ prev s, (test prev s).isSome → (test' prev s).isSome) {prev : Option Char} {n : Nat}
    {s : List Char} (h : (firstHit test prev n s).isSome) : (firstHit test' prev n s).isSome := by
  induction s generalizing prev n with
  | nil =>
    rw [firstHit, Option.isSome_map] at h ⊢
    exact himp prev [] h
  | cons c s ih =>
    rw [firstHit] at h ⊢
    split
    · rfl
    · next hnone =>
      split at h
      · next a ha =>
        have hsome := himp prev (c :: s) (by simp [ha])
        simp [hnone] at hsome
      · exact ih h

end Text

namespace Markup

/-- A line with the element opens the tag. -/
theorem Selector.findTag_of_find {sel : Selector} {line : List Char}
    (h : (sel.find line).isSome) : (findTag sel.tag line).isSome := by
  unfold Selector.find at h
  rw [Option.isSome_map] at h
  unfold findTag
  rw [Option.isSome_map]
  refine Text.isSome_firstHit_mono (fun prev s hopens => ?_) h
  cases htag : tagAt sel.tag s with
  | none => simp [Selector.opensAt, htag] at hopens
  | some rest => rfl

/-- Where neither an id nor classes are asked for, a line that opens the tag has the element. -/
theorem Selector.find_of_findTag {sel : Selector} (hid : sel.id = none)
    (hclasses : sel.classes = []) {line : List Char} (h : (findTag sel.tag line).isSome) :
    (sel.find line).isSome := by
  unfold findTag at h
  rw [Option.isSome_map] at h
  unfold Selector.find
  rw [Option.isSome_map]
  refine Text.isSome_firstHit_mono (fun prev s htag => ?_) h
  obtain ⟨rest, hrest⟩ := Option.isSome_iff_exists.1 htag
  simp [Selector.opensAt, hrest, hid, hclasses]

theorem isSome_scoreLine {d : Descriptor} {f : Framework} {line : List Char} :
    (scoreLine d f line).isSome ↔ d.tag ≠ "" ∧ (findTag d.tag.toList line).isSome := by
  unfold scoreLine
  split <;> simp_all

end Markup

/-! ### The element of a change -/

theorem Capture.key_isOk {c : Capture} (h : c.text = .null) : ∃ key, c.key = .ok key :=
  ⟨_, by rw [Capture.key, h]; rfl⟩

namespace Change

theorem tagText_eq_ok {c : Change} {tag : String} (h : c.tagText = .ok tag) :
    c.tag.orElse (.str "div") = .str tag ∧ tag ≠ "" := by
  unfold tagText at h
  unfold Value.orElse
  split at h
  · next htruthy =>
    rw [if_pos htruthy]
    split at h
    · next s hs =>
      cases h
      refine ⟨hs, ?_⟩
      rintro rfl
      rw [hs] at htruthy
      cases htruthy
    · cases h
  · next hfalsy =>
    cases h
    rw [if_neg hfalsy]
    exact ⟨rfl, by decide⟩

/-- A change whose element can be asked for is looked up with the tag of that element. -/
theorem descriptor_of_target {c : Change} {sel : Markup.Selector} (h : c.target = .ok sel) :
    ∃ d, c.capture.descriptor = .ok d ∧ d.tag ≠ "" ∧ d.tag.toList = sel.tag := by
  unfold target at h
  simp only [bind, Except.bind] at h
  split at h
  · cases h
  · next tag htag =>
    obtain ⟨htag, hne⟩ := tagText_eq_ok htag
    split at h
    · cases h
    · next id hid =>
      split at h
      · cases h
      · next classes hclasses =>
        cases h
        refine ⟨⟨tag, id, classes, none⟩, ?_, hne, rfl⟩
        unfold Capture.descriptor capture
        simp only [htag, hid, hclasses, bind, Except.bind]
        rfl

end Change

namespace Resolver

variable {r : Resolver} {t : Tree}

/-- Nothing is kept yet that could be found, and what is found can be kept. -/
def IsFresh (r : Resolver) : Prop :=
  r.settings.isOn "cache_results" = true → r.cache.entries = [] ∧ r.cache.capacity.IsUsable

theorem IsFresh.lookUp (h : r.IsFresh) (now : Clock) (key : String) (found : Option Cached) :
    (r.lookUp now key found).1 = found ∧ (r.lookUp now key found).2.detected = r.detected := by
  cases hon : r.settings.isOn "cache_results" with
  | false => simp [Resolver.lookUp, hon]
  | true =>
    obtain ⟨hempty, hcap⟩ := h hon
    cases found with
    | none => simp [Resolver.lookUp, hon, Cache.lookupFault?, Cache.get, hempty, keep]
    | some v =>
      rw [lookUp_empty hempty hcap hon]
      exact ⟨rfl, rfl⟩

/-- With a fresh cache what is found is what is located, and the framework is detected then. -/
theorem IsFresh.findCapture (h : r.IsFresh) (now : Clock) {f : Framework}
    (hf : (r.detect t).framework? = some f) {c : Capture} (htext : c.text = .null) :
    (r.findCapture t now c).1 = r.locate f t c ∧
      ((r.findCapture t now c).2.detect t).framework? = some f := by
  have hfresh : (r.detect t).IsFresh := by
    unfold IsFresh
    rw [detect_settings, detect_cache]
    exact h
  have hlocate : (r.detect t).locate f t c = r.locate f t c := by
    rw [detect_eq]
    rfl
  obtain ⟨key, hkey⟩ := Capture.key_isOk htext
  obtain ⟨d, hd, -⟩ := Option.map_eq_some_iff.1 hf
  obtain ⟨hfound, hdetected⟩ := hfresh.lookUp now key (((r.detect t).locate f t c).map .source)
  unfold Resolver.findCapture
  simp only [hf, hkey]
  refine ⟨?_, ?_⟩
  · rw [hfound, source_map, hlocate]
  · rw [detect_of_detected (hdetected.trans hd), framework?, hdetected]
    exact hf

/-- The lines that are scanned for elements. -/
def rows (r : Resolver) (f : Framework) (t : Tree) : List Locate.Row :=
  Locate.rows f t (r.files f t)

theorem mem_files_of_mem_rows {f : Framework} {x : Locate.Row} (h : x ∈ r.rows f t) :
    x.path ∈ r.files f t ∧ ∃ content, Component.readText t x.path = .ok content ∧
      (Text.lines content.toList)[x.index]? = some x.line := by
  obtain ⟨p, hp, hx⟩ := List.mem_flatMap.1 h
  unfold Locate.rowsIn at hx
  split at hx
  · cases hx
  · next content hread =>
    obtain ⟨⟨n, l⟩, hmem, hrow⟩ := List.mem_filterMap.1 hx
    simp only at hrow
    split at hrow
    · cases hrow
    · cases hrow
      exact ⟨hp, content, hread, Component.getElem?_of_mem_scannable hmem⟩

theorem isPlace_of_mem_files {f : Framework} (hroot : ∀ root, r.root = some root → root.IsPlace)
    (ht : t.IsProper) {p : Path} (h : p ∈ r.files f t) : p.IsPlace := by
  unfold files at h
  split at h
  · next root scan hr _ =>
    obtain ⟨found, hfound, hp⟩ := mem_toOption_getD.1 h
    exact Scan.isPlace_of_mem_files (hroot root hr) ht hfound hp
  · cases h

/-- What is located is the line that is chosen of those that fit; a line that fits is enough. -/
theorem locate_isChosen {f : Framework} (hf : f ≠ .html) {c : Capture} {d : Descriptor}
    (hd : c.descriptor = .ok d) {x : Locate.Row} (hx : x ∈ r.rows f t)
    (hfits : (Markup.scoreLine d f x.line).isSome) :
    ∃ s row m, r.locate f t c = some s ∧
      Locate.IsChosen r.choice (·.2.confidence) (Locate.fits d f (r.rows f t)) (row, m) ∧
      s.path = row.path ∧ s.line = row.index + 1 := by
  have hlocate : r.locate f t c = Locate.inFiles d f r.choice t (r.files f t) := by
    unfold locate Capture.descriptorFor
    split <;> simp_all
  have htold := Locate.inFiles_told hf d r.choice t (r.files f t)
  cases hchosen : Locate.choose r.choice (·.2.confidence) (Locate.fits d f (r.rows f t)) with
  | none =>
    obtain ⟨m, hm⟩ := Option.isSome_iff_exists.1 hfits
    have hmem : (x, m) ∈ Locate.fits d f (r.rows f t) := Locate.mem_fits.2 ⟨hx, hm⟩
    rw [Locate.choose_eq_none.1 hchosen] at hmem
    cases hmem
  | some y =>
    obtain ⟨row, m⟩ := y
    rw [← hlocate, show Locate.rows f t (r.files f t) = r.rows f t from rfl, hchosen] at htold
    obtain ⟨s, hs, hsame⟩ := Option.map_eq_some_iff.1 htold
    obtain ⟨hpath, hline⟩ := Prod.mk.inj hsame
    exact ⟨s, row, m, hs, Locate.choose_eq_some hchosen, hpath, (Prod.mk.inj hline).1⟩

end Resolver

/-! ### Changes that name no place -/

namespace Workspace

variable {w : Workspace} {t : Tree} {now : Readings} {c : Change}

theorem placeOf_of_findCapture (hsource : c.source = none) {s : SourceInfo}
    (hfound : (w.resolver.findCapture t now.stamp c.capture).1 = some s) :
    (w.placeOf t now.stamp c).1 = .ok (s.path.resolve, s.line) ∧
      (w.placeOf t now.stamp c).2.resolver = (w.resolver.findCapture t now.stamp c.capture).2 := by
  unfold placeOf
  rw [hsource]
  revert hfound
  generalize w.resolver.findCapture t now.stamp c.capture = found
  obtain ⟨found, resolver⟩ := found
  rintro ⟨⟩
  exact ⟨rfl, rfl⟩

/-- A project of components whose elements can be looked up: nothing was looked up before, and its
root and all that lies in the tree lie at places. -/
structure IsReady (w : Workspace) (t : Tree) : Prop where
  react : (w.resolver.detect t).framework? = some .react
  fresh : w.resolver.IsFresh
  root : ∀ root, w.resolver.root = some root → root.IsPlace
  proper : t.IsProper

/-- A change that names no place, of an element that one of the scanned lines has, is made on the
line that is chosen of those that open its tag. That line has the element if nothing but the tag is
asked for, and in the search for the surest line if every line without the element is less sure than
another. A line that has the element is not said to lack it; on a line that lacks it nothing
happens. -/
theorem applied_where_chosen (h : w.IsReady t) (now : Readings) (hsource : c.source = none)
    {sel : Markup.Selector} (htarget : c.target = .ok sel)
    (hthere : ∃ x ∈ w.resolver.rows .react t, (sel.find x.line).isSome) :
    ∃ d s r m, c.capture.descriptor = .ok d ∧
      Locate.IsChosen w.resolver.choice (·.2.confidence)
        (Locate.fits d .react (w.resolver.rows .react t)) (r, m) ∧
      (w.resolver.findCapture t now.stamp c.capture).1 = some s ∧
      s.path = r.path ∧ s.line = r.index + 1 ∧ (Markup.findTag sel.tag r.line).isSome ∧
      (sel.id = none → sel.classes = [] → (sel.find r.line).isSome) ∧
      (w.resolver.choice = .best →
        (∀ y ∈ Locate.fits d .react (w.resolver.rows .react t), sel.find y.1.line = none →
          ∃ z ∈ Locate.fits d .react (w.resolver.rows .react t),
            y.2.confidence < z.2.confidence) →
        (sel.find r.line).isSome) ∧
      ((sel.find r.line).isSome → ¬ Misses (w.applyChange t now c).1.outcome) ∧
      (sel.find r.line = none →
        (w.applyChange t now c).2.2 = t ∧
        ((w.applyChange t now c).1.outcome = .error .cancelled ∨
          (∃ f, (w.applyChange t now c).1.outcome = .error (.fault f)) ∨
          (w.applyChange t now c).1.outcome =
            .error (.elementNotFound (String.ofList sel.tag) s.line))) := by
  obtain ⟨d, hd, hne, htag⟩ := Change.descriptor_of_target htarget
  obtain ⟨x, hx, hfind⟩ := hthere
  have hopens (line : List Char) : (Markup.scoreLine d .react line).isSome ↔
      (Markup.findTag sel.tag line).isSome := by
    rw [Markup.isSome_scoreLine, htag]
    exact and_iff_right hne
  obtain ⟨s, r, m, hlocate, hchosen, hpath, hline⟩ := Resolver.locate_isChosen (by decide) hd hx
    ((hopens x.line).2 (Markup.Selector.findTag_of_find hfind))
  obtain ⟨hfound, hdetected⟩ := h.fresh.findCapture now.stamp h.react (c := c.capture) rfl
  have hsome := hfound.trans hlocate
  obtain ⟨hr, hm⟩ := Locate.mem_fits.1 hchosen.mem
  have htagged := (hopens r.line).1 (by rw [hm]; rfl)
  -- The place that the change is sent to is the line that was chosen.
  obtain ⟨hfile, content, hread, hget⟩ := Resolver.mem_files_of_mem_rows hr
  obtain ⟨hplace, hresolver⟩ := placeOf_of_findCapture hsource hsome
  have hresolve : s.path.resolve = r.path := by
    rw [hpath]
    exact Path.resolve_of_isPlace (Resolver.isPlace_of_mem_files h.root h.proper hfile)
  rw [hresolve, hline] at hplace
  have hreact := hresolver ▸ hdetected
  have hthen := Style.locate_eq content.toList hget htarget
  refine ⟨d, s, r, m, hd, hchosen, hsome, hpath, hline, htagged,
    fun hid hclasses => Markup.Selector.find_of_findTag hid hclasses htagged,
    fun hbest hless => ?_, fun hhas hmisses => ?_, fun hlacks => ?_⟩
  · refine Option.isSome_iff_ne_none.2 fun hlacks => ?_
    obtain ⟨z, hz, hlt⟩ := hless (r, m) hchosen.mem hlacks
    rw [hbest] at hchosen
    exact absurd hlt (Nat.not_lt.2 (hchosen.le hz))
  · obtain ⟨start, hstart⟩ := Option.isSome_iff_exists.1 hhas
    rw [hstart] at hthen
    obtain ⟨tag, line, hmissed⟩ := misses_applyChange hplace hreact hread hmisses
    cases hthen.symm.trans hmissed
  · rw [hlacks, ← hline] at hthen
    rw [← hline] at hplace
    exact applyChange_of_locate_error hplace hreact hread hthen

/-! ### A page with two elements of one tag -/

/-- Two elements: one with four classes, and one with an id and one of the classes. -/
def twoDivs : Tree :=
  ⟨[(["w"], .directory),
    (["w", "App.jsx"], .file "<div className=\"a b c d\">\n<div id=\"x\" className=\"a\">".toUTF8)]⟩

/-- The project as it is when it was just opened, with the mode in which lines are looked for. -/
def searching (mode : String) : Workspace :=
  let settings := Section.resolution.defaults.apply [("search_mode", .str mode)]
  { smallWorkspace with
    resolver :=
      { root := some ["w"], settings, scan := some ⟨[], .atMost 10⟩
        choice := Resolver.choiceOf settings, detected := none, cache := .empty (.count 100) } }

/-- Asks for a colour of the element with the id, and if told so with all classes. -/
def redX (classes : Value) : Change :=
  { selector := .str "", styles := [(.text "color", .str "red")], id := .str "x", classes
    tag := .str "div", source := none }

def xSelector (classes : List String) : Markup.Selector :=
  ⟨"div".toList, some "x".toList, classes.map String.toList⟩

theorem searching_isReady {mode : String}
    (h : ((searching mode).resolver.detect twoDivs).framework? = some .react) :
    (searching mode).IsReady twoDivs where
  react := h
  fresh := fun _ => ⟨rfl, trivial⟩
  root := by
    rintro root ⟨⟩
    decide
  proper := Tree.isProper_of_entries (by decide)

def classesRow : Locate.Row := ⟨["w", "App.jsx"], 0, "<div className=\"a b c d\">".toList⟩

def idRow : Locate.Row := ⟨["w", "App.jsx"], 1, "<div id=\"x\" className=\"a\">".toList⟩

theorem searching_rows (mode : String) :
    (searching mode).resolver.rows .react twoDivs = [classesRow, idRow] := by
  show Locate.rows .react twoDivs
    ((Scan.files ⟨[], .atMost 10⟩ Framework.react.filePatterns twoDivs ["w"]).toOption.getD []) =
      [classesRow, idRow]
  decide +kernel

/-- Whether a change whose element one of the scanned lines has is sent to a line that has it. -/
def AimsWell (w : Workspace) (t : Tree) (now : Readings) (c : Change) : Prop :=
  ∀ sel, c.target = .ok sel → (∃ x ∈ w.resolver.rows .react t, (sel.find x.line).isSome) →
    ∃ s, ∃ x ∈ w.resolver.rows .react t, (w.resolver.findCapture t now.stamp c.capture).1 = some s ∧
      s.path = x.path ∧ s.line = x.index + 1 ∧ (sel.find x.line).isSome

theorem outcome_of_problem? {r : EditReport} {p : Problem} (h : r.problem? = some p) :
    r.outcome = .error p := by
  unfold EditReport.problem? at h
  split at h
  · cases h
  · next hp =>
    cases h
    exact hp

/-- With an id and four classes asked for, a line with the classes alone is the first to open the
tag, and also the surest. -/
theorem classes_outweigh_id {mode : String}
    (hvalues : ((searching mode).resolver.detect twoDivs).framework? = some .react ∧
      ((searching mode).resolver.findCapture twoDivs Readings.zero.stamp
        (redX (.str "a b c d")).capture).1.map (·.line) = some 1 ∧
      ((searching mode).applyChange twoDivs .zero (redX (.str "a b c d"))).1.problem? =
        some (.elementNotFound "div" 1)) :
    (searching mode).IsReady twoDivs ∧
      ¬ (searching mode).AimsWell twoDivs .zero (redX (.str "a b c d")) ∧
      ((searching mode).applyChange twoDivs .zero (redX (.str "a b c d"))).1.outcome =
        .error (.elementNotFound "div" 1) := by
  obtain ⟨hreact, hline, hmissed⟩ := hvalues
  refine ⟨searching_isReady hreact, fun haims => ?_, outcome_of_problem? hmissed⟩
  have hfinds : ((xSelector ["a", "b", "c", "d"]).find classesRow.line).isSome = false ∧
      ((xSelector ["a", "b", "c", "d"]).find idRow.line).isSome = true := by
    decide +kernel
  obtain ⟨s, x, hx, hs, -, hindex, hhas⟩ := haims (xSelector ["a", "b", "c", "d"]) rfl
    ⟨idRow, by simp [searching_rows], hfinds.2⟩
  rw [hs, Option.map_some, Option.some.injEq, hindex] at hline
  rw [searching_rows] at hx
  rcases List.mem_cons.1 hx with rfl | hx
  · rw [hfinds.1] at hhas
    cases hhas
  · obtain rfl := List.mem_singleton.1 hx
    cases hline

/-- In either mode the change is sent to the first line, and the element is not found there. -/
theorem applied_beside_element :
    ((searching "first-match").IsReady twoDivs ∧
      ¬ (searching "first-match").AimsWell twoDivs .zero (redX (.str "a b c d")) ∧
      ((searching "first-match").applyChange twoDivs .zero (redX (.str "a b c d"))).1.outcome =
        .error (.elementNotFound "div" 1)) ∧
    ((searching "best-match").IsReady twoDivs ∧
      ¬ (searching "best-match").AimsWell twoDivs .zero (redX (.str "a b c d")) ∧
      ((searching "best-match").applyChange twoDivs .zero (redX (.str "a b c d"))).1.outcome =
        .error (.elementNotFound "div" 1)) :=
  ⟨classes_outweigh_id (by decide +kernel), classes_outweigh_id (by decide +kernel)⟩

/-- With the id alone asked for, the line with the id is the surest, and it has the element. -/
theorem applied_where_chosen_by_id :
    (searching "best-match").IsReady twoDivs ∧ (redX .null).source = none ∧
    (redX .null).target = .ok (xSelector []) ∧
    (∃ x ∈ (searching "best-match").resolver.rows .react twoDivs,
      ((xSelector []).find x.line).isSome) ∧
    ∃ s, ∃ r : Locate.Row, ((searching "best-match").resolver.findCapture twoDivs
        Readings.zero.stamp (redX .null).capture).1 = some s ∧
      s.line = r.index + 1 ∧ ((xSelector []).find r.line).isSome ∧
      ¬ Misses ((searching "best-match").applyChange twoDivs .zero (redX .null)).1.outcome := by
  have hready : (searching "best-match").IsReady twoDivs := searching_isReady (by decide +kernel)
  have hthere : ∃ x ∈ (searching "best-match").resolver.rows .react twoDivs,
      ((xSelector []).find x.line).isSome :=
    ⟨idRow, by simp [searching_rows], by decide +kernel⟩
  obtain ⟨d, s, r, m, hd, -, hs, -, hline, -, -, hsurest, hhas, -⟩ :=
    applied_where_chosen hready .zero rfl (c := redX .null) rfl hthere
  have hd' : (redX .null).capture.descriptor = .ok ⟨"div", some "x", none, none⟩ := rfl
  obtain rfl := Except.ok.inj (hd'.symm.trans hd)
  have hfound : ((xSelector []).find r.line).isSome := by
    refine hsurest (by decide +kernel) ?_
    rw [searching_rows]
    decide +kernel
  exact ⟨hready, rfl, rfl, hthere, s, r, hs, hline, hfound, hhas hfound⟩

end Workspace

end Restyle
