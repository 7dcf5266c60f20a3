import Restyle.Proofs.SheetText
import Restyle.Proofs.FoundAgain

/-!
Attaching a class twice. What the first run writes is a class attribute with a text, and the second
run finds that one again. So it changes nothing if the text has the class among its words, which it
has unless the class was put behind an expression with a grave accent in it: there the text that is
read ends too soon.
-/
namespace Restyle.Text

theorem splitOnP_infix (p : Char → Bool) (s : List Char) :
    ∃ w ws, s.splitOnP p = w :: ws ∧ w <+: s ∧ ∀ x ∈ ws, x <:+: s := by
  induction s with
  | nil => exact ⟨[], [], rfl, List.nil_prefix, fun x hx => absurd hx List.not_mem_nil⟩
  | cons c s ih =>
    obtain ⟨w, ws, hsplit, hw, hws⟩ := ih
    rw [List.splitOnP_cons_eq_if_modifyHead, hsplit]
    cases p c with
    | true =>
      refine ⟨[], w :: ws, rfl, List.nil_prefix, fun x hx => ?_⟩
      have hin : x <:+: s := by
        rcases List.mem_cons.1 hx with rfl | hx
        · exact hw.isInfix
        · exact hws x hx
      exact hin.trans (List.suffix_cons c s).isInfix
    | false =>
      exact ⟨c :: w, ws, rfl, List.cons_prefix_cons.2 ⟨rfl, hw⟩,
        fun x hx => (hws x hx).trans (List.suffix_cons c s).isInfix⟩

theorem infix_of_mem_words {s w : List Char} (h : w ∈ words s) : w <:+: s := by
  obtain ⟨x, xs, hsplit, hx, hxs⟩ := splitOnP_infix isBlank s
  have hmem := (List.mem_filter.1 h).1
  rw [hsplit] at hmem
  rcases List.mem_cons.1 hmem with rfl | hmem
  · exact hx.isInfix
  · exact hxs w hmem

theorem mem_words_self {w : List Char} (hne : w ≠ []) (h : ∀ c ∈ w, isBlank c = false) :
    w ∈ words w := by
  rw [words_eq_self hne h]
  exact List.mem_singleton_self w

theorem mem_words_append {w : List Char} (hne : w ≠ []) (h : ∀ c ∈ w, isBlank c = false)
    (s : List Char) : w ∈ words (s ++ ' ' :: w) := by
  have hspace : isBlank ' ' = true := by decide
  rw [words, List.splitOnP_append_cons s w hspace, List.splitOnP_eq_singleton h]
  exact List.mem_filter.2 ⟨List.mem_append_right _ (List.mem_singleton_self w), by simpa using hne⟩

end Restyle.Text

namespace Restyle.Style

open Text Markup

/-! ### Generated classes -/

/-- Whether a class is the generated one of some declarations. -/
def IsGenerated (name : List Char) : Prop :=
  ∃ ds text, className ds = .ok text ∧ name = text.toList

variable {name : List Char}

theorem IsGenerated.plain (h : IsGenerated name) {c : Char} (hc : c ∈ name) :
    isBlank c = false ∧ isQuote c = false ∧ c ∉ ['>', '\n', '$', '\x7b'] := by
  obtain ⟨ds, text, hname, rfl⟩ := h
  have hall : "sourcelens-dynamic-0123456789abcdefghijklmnopqrstuvwxyz".toList.all (fun c =>
      !isBlank c && !isQuote c && !(['>', '\n', '$', '\x7b'].contains c)) = true := by decide
  have hsign := isNameSign_of_mem hname hc
  rw [isNameSign, List.contains_iff_mem] at hsign
  simpa [and_assoc] using List.all_eq_true.1 hall c hsign

theorem IsGenerated.ne_nil (h : IsGenerated name) : name ≠ [] := by
  obtain ⟨ds, text, hname, rfl⟩ := h
  rw [className_eq_ok hname, nameOf, String.toList_append]
  intro hnil
  exact absurd (List.append_eq_nil_iff.1 hnil).1 (by decide)

theorem IsGenerated.isOneLine (h : IsGenerated name) : IsOneLine name :=
  fun hm => absurd ((h.plain hm).2.2) (by decide)

theorem IsGenerated.notMem (h : IsGenerated name) {q : Char} (hq : isQuote q = true) :
    q ∉ name := by
  intro hm
  rw [(h.plain hm).2.1] at hq
  cases hq

theorem IsGenerated.mem_words (h : IsGenerated name) : name ∈ words name :=
  mem_words_self h.ne_nil fun _ hc => (h.plain hc).1

theorem IsGenerated.mem_words_addClassWord (h : IsGenerated name) (value : List Char) :
    name ∈ words (addClassWord value name) := by
  unfold addClassWord
  split
  · next hthere => exact List.contains_iff_mem.1 hthere
  · split
    · exact h.mem_words
    · exact mem_words_append h.ne_nil (fun c hc => (h.plain hc).1) value

/-- A text stays as it is exactly if it has the class among its words. -/
theorem IsGenerated.addClassWord_eq_self_iff (h : IsGenerated name) {value : List Char} :
    addClassWord value name = value ↔ name ∈ words value := by
  constructor
  · intro heq
    rw [← heq]
    exact h.mem_words_addClassWord value
  · intro hthere
    rw [addClassWord, if_pos (List.contains_iff_mem.2 hthere)]

theorem IsGenerated.addClassWord_cases (h : IsGenerated name) (value : List Char) :
    ∃ added, '>' ∉ added ∧ (∀ q, isQuote q = true → q ∉ added) ∧
      (addClassWord value name = value ++ added ∨ addClassWord value name = added) := by
  have hname : '>' ∉ name := fun hm => absurd (h.plain hm).2.2 (by decide)
  have hspace {q : Char} (hq : isQuote q = true) : q ≠ ' ' := by
    rintro rfl
    cases hq
  unfold addClassWord
  split
  · exact ⟨[], List.not_mem_nil, fun _ _ => List.not_mem_nil, .inl (List.append_nil _).symm⟩
  · split
    · exact ⟨name, hname, fun q hq => h.notMem hq, .inr rfl⟩
    · refine ⟨' ' :: name, by simp [hname], fun q hq => ?_, .inl rfl⟩
      rw [List.mem_cons, not_or]
      exact ⟨hspace hq, h.notMem hq⟩

theorem IsGenerated.notMem_addClassWord (h : IsGenerated name) {value : List Char} {q : Char}
    (hq : isQuote q = true) (hvalue : q ∉ value) : q ∉ addClassWord value name := by
  obtain ⟨added, -, hadded, heq | heq⟩ := h.addClassWord_cases value
  · rw [heq, List.mem_append, not_or]
    exact ⟨hvalue, hadded q hq⟩
  · exact heq ▸ hadded q hq

/-! ### What the first run leaves -/

/-- Whether in a stretch of the tag, when its line is the new one, the first thing for a class
attribute is one with this text. -/
structure Place.Shows (p : Place) (s : Span) (new value : List Char) : Prop where
  reached : ∃ before after, tagSpans p.lines p.row p.start = before ++ s :: after ∧
    ∀ s' ∈ before, classIn (p.lines.getD s'.row []) s' = none
  opens : s.row = p.row → new[p.start]? = some '<'
  found : ∃ n k, classIn new ⟨s.row, s.first, stretchStop new s.first⟩ = some (.text n k value)
  oneLine : IsOneLine new

/-- Whether all texts of class attributes that open in the tag are closed in their stretch, and the
expression that is taken for the class attribute is outside of quotes. -/
structure Place.IsTidy (p : Place) : Prop where
  closed : ∀ s ∈ tagSpans p.lines p.row p.start, ∀ m, s.first ≤ m →
    OpensText ((p.lines.getD s.row []).take s.stop) m →
      (hitAt classTextAt ((p.lines.getD s.row []).take s.stop) m).isSome = true
  outside : ∀ s n offset, p.classAttribute? = some (s, .expression n offset) →
    (Scan.start.run (((p.lines.getD s.row []).take n).drop s.first)).quote = none

section

variable {content : List Char} {c : Change} {line : Int} {p : Place} {s : Span}

theorem Place.Shows.classAttribute? (hp : p.IsOn content line) {new value : List Char}
    (h : p.Shows s new value) : ∃ s' n k,
      ({ p with lines := p.lines.set s.row new } : Place).classAttribute? =
        some (s', .text n k value) ∧ s'.row = s.row ∧
        firstIn classTextAt new s'.first s'.stop = some (n, value, k) := by
  obtain ⟨before, after, hspans, hbefore⟩ := h.reached
  obtain ⟨n, k, hfound⟩ := h.found
  obtain ⟨hrows, after', hnew⟩ := tagSpans_set hp.there hp.opens hspans h.opens
  have hmem : s ∈ tagSpans p.lines p.row p.start := hspans ▸ List.mem_append_cons_self
  have hrow := (mem_tagSpans hp.there hp.start_lt hmem).2.2.1
  refine ⟨⟨s.row, s.first, stretchStop new s.first⟩, n, k,
    Place.classAttribute?_eq_some_iff.2 ⟨before, after', hnew, ?_, ?_⟩, rfl, ?_⟩
  · rw [getD_set_self hrow]
    exact hfound
  · intro s' hs'
    rw [List.getD_eq_getElem?_getD, List.getElem?_set_ne (hrows s' hs').ne',
      ← List.getD_eq_getElem?_getD]
    exact hbefore s' hs'
  · exact classIn_eq_text_iff.1 hfound

/-- The second run succeeds, and changes nothing exactly if the text that it finds has the class. -/
theorem Place.Shows.again (hp : p.IsOn content line) (hname : IsGenerated name)
    {new value out : List Char} (h : p.Shows s new value)
    (hout : out = unlines (p.lines.set s.row new))
    (hagain : locate out c line = .ok { p with lines := Text.lines out }) :
    (∃ again, applyClass out c line name = .ok again) ∧
      (applyClass out c line name = .ok out ↔ name ∈ words value) := by
  obtain ⟨s', n, k, hfound, hsrow, htext⟩ := h.classAttribute? hp
  have hlines : Text.lines out = p.lines.set s.row new := by
    rw [hout, hp.lines]
    exact lines_unlines_set content s.row h.oneLine
  rw [hlines] at hagain
  have hrow : s.row < p.lines.length := by
    obtain ⟨before, after, hspans, -⟩ := h.reached
    have hmem : s ∈ tagSpans p.lines p.row p.start := hspans ▸ List.mem_append_cons_self
    exact (mem_tagSpans hp.there hp.start_lt hmem).2.2.1
  have hnew : (p.lines.set s.row new).getD s'.row [] = new := by
    rw [hsrow, getD_set_self hrow]
  have hrow' : s'.row < (p.lines.set s.row new).length := by
    rw [List.length_set, hsrow]
    exact hrow
  have hsame : unlines (p.lines.set s.row new) = out := hout.symm
  rw [applyClass_of_text hagain hfound, Except.ok.injEq, ← hsame, ← hname.addClassWord_eq_self_iff]
  exact ⟨⟨_, rfl⟩, replaced_eq_unlines_iff (p := { p with lines := p.lines.set s.row new }) hrow'
    (by rw [hnew]; exact htext) _⟩

/-- Nothing ends a tag before its stretch does. -/
theorem closing_take (hp : p.IsOn content line) (hs : s ∈ tagSpans p.lines p.row p.start) {m : Nat}
    (hfirst : s.first ≤ m) (hm : m ≤ s.stop) :
    Scan.start.closing '>' (((p.lines.getD s.row []).take m).drop s.first) = none := by
  have hstop := stop_eq_stretchStop hp.there hp.opens hs
  rw [hstop] at hm
  exact (le_stretchStop_iff hfirst (hm.trans (stretchStop_le _ _))).1 hm

/-- Before the first class attribute no text opens in a tidy tag. -/
theorem Place.IsTidy.not_opensText (h : p.IsTidy) (hs : s ∈ tagSpans p.lines p.row p.start)
    {a : List Char} (ha : a <+: (p.lines.getD s.row []).take s.stop)
    (hbefore : ∀ m, s.first ≤ m → m < a.length →
      hitAt classTextAt ((p.lines.getD s.row []).take s.stop) m = none) :
    ∀ m, s.first ≤ m → m < a.length → ¬ OpensText a m := by
  intro m hm hlt hopens
  obtain ⟨b, hb⟩ := ha
  have hhit := h.closed s hs m hm (hb ▸ hopens.append hlt.le b)
  rw [hbefore m hm hlt] at hhit
  cases hhit

/-- A class that is added to a text ends no tag. -/
theorem closing_addClassWord (hname : IsGenerated name) {scan : Markup.Scan}
    {x value : List Char} {q : Char} (hq : isQuote q = true)
    (h : scan.closing '>' (x ++ value) = none) :
    scan.closing '>' (x ++ (addClassWord value name ++ [q])) = none := by
  obtain ⟨hx, hvalue⟩ := Scan.closing_append_eq_none.1 h
  obtain ⟨added, hadded, -, hcases⟩ := hname.addClassWord_cases value
  have hend : '>' ∉ added ++ [q] := by
    have hne : '>' ≠ q := by
      rintro rfl
      cases hq
    simp [hadded, hne]
  rcases hcases with heq | heq
  · rw [heq, List.append_assoc, ← List.append_assoc]
    exact Scan.closing_append_eq_none.2 ⟨h, Scan.closing_of_notMem hend⟩
  · rw [heq]
    exact Scan.closing_append_eq_none.2 ⟨hx, Scan.closing_of_notMem hend⟩

/-- A class attribute with a text shows that in a tidy tag, if it is written before anything that is
found there, and the tag does not end before it does. -/
theorem Place.IsTidy.shows (h : p.IsTidy) (hp : p.IsOn content line) {before after : List Span}
    (hspans : tagSpans p.lines p.row p.start = before ++ s :: after)
    (hbefore : ∀ s' ∈ before, classIn (p.lines.getD s'.row []) s' = none)
    {a gap head value rest : List Char} {q : Char}
    (ha : a <+: (p.lines.getD s.row []).take s.stop) (hfirst : s.first ≤ a.length)
    (hopens : s.row = p.row → p.start < a.length)
    (hnone : ∀ m, s.first ≤ m → m < a.length →
      hitAt classTextAt ((p.lines.getD s.row []).take s.stop) m = none)
    (hgap : IsBlank gap) (hprev : nameStarts (a ++ gap).getLast? = true)
    (hhead : IsTextHead head q) (hvalue : q ∉ value)
    (hline : IsOneLine (a ++ (gap ++ (head ++ (value ++ q :: rest)))))
    (hend : Scan.start.closing '>'
      ((a ++ (gap ++ (head ++ (value ++ [q])))).drop s.first) = none) :
    p.Shows s (a ++ (gap ++ (head ++ (value ++ q :: rest)))) value := by
  have hs : s ∈ tagSpans p.lines p.row p.start := hspans ▸ List.mem_append_cons_self
  have hvalueLine : IsOneLine value := hline.of_subset fun c hc => by simp [hc]
  refine ⟨⟨before, after, hspans, hbefore⟩, fun hrow => ?_, ⟨_, _, classIn_of_written hhead hvalue
    hvalueLine hgap hfirst hprev (h.not_opensText hs ha hnone) hend⟩, hline⟩
  have hopen := hp.opens
  rw [← hrow] at hopen
  rw [List.getElem?_append_left (hopens hrow), ← hopen]
  obtain ⟨b, hb⟩ := ha.trans (List.take_prefix _ _)
  rw [← hb, List.getElem?_append_left (hopens hrow)]

/-- Where an attribute's name is found in a stretch. -/
theorem name_spec (hp : p.IsOn content line) (hs : s ∈ tagSpans p.lines p.row p.start) {n : Nat}
    (hfirst : s.first ≤ n) (hname : ((p.lines.getD s.row []).take s.stop)[n]? = some 'c') :
    n < s.stop ∧ ((p.lines.getD s.row []).take n).length = n ∧ (s.row = p.row → p.start < n) := by
  obtain ⟨hlt, -⟩ := List.getElem?_eq_some_iff.1 hname
  rw [List.length_take] at hlt
  rw [List.getElem?_take_of_lt (by omega)] at hname
  exact ⟨by omega, by rw [List.length_take]; omega, start_lt_of_name hp hs hfirst hname⟩

/-- So does one in the place of what was there for it. -/
theorem Place.IsTidy.shows_at (h : p.IsTidy) (hp : p.IsOn content line) {before after : List Span}
    (hspans : tagSpans p.lines p.row p.start = before ++ s :: after)
    (hbefore : ∀ s' ∈ before, classIn (p.lines.getD s'.row []) s' = none)
    {head value rest : List Char} {n : Nat} {q : Char} (hfirst : s.first ≤ n)
    (hname : ((p.lines.getD s.row []).take s.stop)[n]? = some 'c')
    (hprev : nameStarts (((p.lines.getD s.row []).take s.stop).take n).getLast? = true)
    (hnone : ∀ m, s.first ≤ m → m < n →
      hitAt classTextAt ((p.lines.getD s.row []).take s.stop) m = none)
    (hhead : IsTextHead head q) (hvalue : q ∉ value)
    (hline : IsOneLine ((p.lines.getD s.row []).take n ++ (head ++ (value ++ q :: rest))))
    (hend : (Scan.start.run (((p.lines.getD s.row []).take n).drop s.first)).closing '>'
      (head ++ (value ++ [q])) = none) :
    p.Shows s ((p.lines.getD s.row []).take n ++ (head ++ (value ++ q :: rest))) value := by
  have hs : s ∈ tagSpans p.lines p.row p.start := hspans ▸ List.mem_append_cons_self
  obtain ⟨hlt, hlength, hopens⟩ := name_spec hp hs hfirst hname
  have hgap : IsBlank [] := fun c hc => absurd hc List.not_mem_nil
  have hbound : s.first ≤ ((p.lines.getD s.row []).take n).length := hlength.symm ▸ hfirst
  refine h.shows hp hspans hbefore (List.take_prefix_take_left hlt.le) hbound
    (by rwa [hlength]) (by rwa [hlength]) hgap ?_ hhead hvalue hline ?_
  · rwa [List.append_nil, ← Nat.min_eq_left hlt.le, ← List.take_take]
  · rw [List.nil_append, List.drop_append_of_le_length hbound]
    exact Scan.closing_append_eq_none.2 ⟨closing_take hp hs hfirst hlt.le, hend⟩

/-- A text with the class in it is found where the text was. -/
theorem shows_text (hp : p.IsOn content line) (htidy : p.IsTidy) (hname : IsGenerated name)
    {n k : Nat} {value : List Char} (hfound : p.classAttribute? = some (s, .text n k value)) :
    p.Shows s (splice (p.lines.getD s.row []) (n + k) (n + k + value.length)
      (addClassWord value name)) (addClassWord value name) := by
  obtain ⟨before, after, hspans, hclass, hbefore⟩ := Place.classAttribute?_eq_some_iff.1 hfound
  have hs : s ∈ tagSpans p.lines p.row p.start := hspans ▸ List.mem_append_cons_self
  obtain ⟨hstop, hfirst⟩ := stretch_le hp.there hp.start_lt hs
  have htext := classIn_eq_text_iff.1 hclass
  have hhit := (firstIn_eq_some_iff classTextAt_needsText hstop hfirst).1 htext
  obtain ⟨hprev, head, q, r, hhead, hdrop, hvalue, -, rfl⟩ := classTextAt_eq_some_iff.1 hhit.hit
  have hc : ((p.lines.getD s.row []).take s.stop)[n]? = some 'c' := by
    obtain ⟨rest, rfl, -⟩ := hhead.exists_cons
    rw [← List.head?_drop, hdrop]
    rfl
  obtain ⟨hlt, hlength, -⟩ := name_spec hp hs hhit.behind hc
  have hbehind : (p.lines.getD s.row []).drop n =
      head ++ (value ++ q :: (r ++ (p.lines.getD s.row []).drop s.stop)) := by
    have hle : n ≤ ((p.lines.getD s.row []).take s.stop).length :=
      (List.getElem?_eq_some_iff.1 hc).1.le
    conv => lhs; rw [← List.take_append_drop s.stop (p.lines.getD s.row [])]
    rw [List.drop_append_of_le_length hle, hdrop]
    simp
  have hinside : n + head.length + value.length ≤ s.stop := by
    have hlong := congrArg List.length hdrop
    simp only [List.length_drop, List.length_take, List.length_append] at hlong
    omega
  have hnew : splice (p.lines.getD s.row []) (n + head.length) (n + head.length + value.length)
      (addClassWord value name) = (p.lines.getD s.row []).take n ++ (head ++
        (addClassWord value name ++ q :: (r ++ (p.lines.getD s.row []).drop s.stop))) := by
    rw [splice_append (by rw [← List.drop_drop, hbehind, List.drop_left]), List.take_add, hbehind,
      List.take_left]
    simp
  have hquote := hhead.getLast?.2
  have hnot := hname.notMem_addClassWord hquote hvalue
  have hline := isOneLine_splice (hp.isOneLine s.row) (isOneLine_addClassWord
    (((hp.isOneLine s.row).take s.stop).drop n |>.of_subset (classTextAt_subset hhit.hit))
    hname.isOneLine) (n + head.length) (n + head.length + value.length)
  rw [hnew] at hline ⊢
  refine htidy.shows_at hp hspans hbefore hhit.behind hc hprev hhit.before hhead hnot hline ?_
  have hold := closing_take hp hs (hhit.behind.trans (by omega)) hinside
  have hbound : s.first ≤ ((p.lines.getD s.row []).take n).length := hlength.symm ▸ hhit.behind
  rw [Nat.add_assoc, List.take_add, hbehind, ← List.append_assoc, ← List.length_append,
    List.take_left, List.drop_append_of_le_length hbound] at hold
  exact closing_addClassWord hname hquote (Scan.closing_append_eq_none.1 hold).2

/-- How an expression with a class begins. -/
def templateHead : List Char := "className=\x7b\x60".toList

theorem isTextHead_template : IsTextHead templateHead '\x60' :=
  have hnil : IsBlank [] := fun _ hc => absurd hc List.not_mem_nil
  .mk (.inl rfl) hnil hnil (.inr ⟨[], hnil, rfl⟩) rfl

theorem quote_run_templateHead {scan : Markup.Scan} (h : scan.quote = none) :
    (scan.run templateHead).quote = some '\x60' := by
  have hhead : templateHead = "className=".toList ++ ['\x7b', '\x60'] := rfl
  rw [hhead]
  simp [Scan.run, Scan.step, h, isQuote]

/-- What is written for an expression shows its text up to the first grave accent. -/
theorem shows_expression (hp : p.IsOn content line) (htidy : p.IsTidy) (hname : IsGenerated name)
    {n k close : Nat} {expr value more : List Char}
    (hfound : p.classAttribute? = some (s, .expression n k))
    (h : HasExpression p s n k close expr) (hvalue : '\x60' ∉ value)
    (hwritten : addClassToExpression expr name = templateHead ++ (value ++ '\x60' :: more)) :
    p.Shows s (splice (p.lines.getD s.row []) n (close + 1) (addClassToExpression expr name))
      value := by
  obtain ⟨before, after, hspans, hclass, hbefore⟩ := Place.classAttribute?_eq_some_iff.1 hfound
  have hs : s ∈ tagSpans p.lines p.row p.start := hspans ▸ List.mem_append_cons_self
  obtain ⟨hstop, hfirst⟩ := stretch_le hp.there hp.start_lt hs
  obtain ⟨htext, hexpr⟩ := classIn_eq_expression_iff.1 hclass
  have hnone := (firstIn_eq_none_iff classTextAt_needsText hstop hfirst).1 htext
  have hhit := (firstIn_eq_some_iff classExpressionAt_needsText hstop hfirst).1 hexpr
  obtain ⟨hprev, a, b, r, -, -, hdrop, -⟩ := classExpressionAt_eq_some_iff.1 hhit.hit
  have hc : ((p.lines.getD s.row []).take s.stop)[n]? = some 'c' := by
    rw [← List.head?_drop, hdrop]
    rfl
  have hexprLine : IsOneLine expr := by
    rw [← h.text]
    exact ((hp.isOneLine s.row).take close |>.drop (n + k + 1)).of_subset (trim_sublist _).subset
  have hline := isOneLine_splice (hp.isOneLine s.row)
    (isOneLine_addClassToExpression hexprLine hname.isOneLine) n (close + 1)
  have hnew : splice (p.lines.getD s.row []) n (close + 1) (addClassToExpression expr name) =
      (p.lines.getD s.row []).take n ++ (templateHead ++
        (value ++ '\x60' :: (more ++ (p.lines.getD s.row []).drop (close + 1)))) := by
    rw [splice, hwritten]
    simp
  rw [hnew] at hline ⊢
  refine htidy.shows_at hp hspans hbefore hhit.behind hc hprev (fun m hm _ => hnone m hm)
    isTextHead_template hvalue hline ?_
  have houtside := quote_run_templateHead (htidy.outside s n k hfound)
  refine Scan.closing_append_eq_none.2 ⟨Scan.closing_of_notMem (by decide), ?_⟩
  exact Scan.closing_append_eq_none.2 ⟨Scan.closing_of_quote houtside hvalue,
    Scan.closing_of_notMem (by decide)⟩

theorem classAttribute_eq (name : List Char) :
    classAttribute name = "className=\"".toList ++ (name ++ ['"']) := by
  delta classAttribute
  simp only [List.append_assoc]

theorem isTextHead_className : IsTextHead "className=\"".toList '"' :=
  have hnil : IsBlank [] := fun _ hc => absurd hc List.not_mem_nil
  .mk (.inl rfl) hnil hnil (.inl rfl) rfl

/-- An attribute that is inserted shows the class. -/
theorem shows_inserted (hp : p.IsOn content line) (htidy : p.IsTidy) (hname : IsGenerated name)
    (hfound : p.classAttribute? = none) : ∃ s,
      p.Shows s (insertAttribute (p.lines.getD p.row []) p.start p.tag.length
        (classAttribute name)) name ∧ s.row = p.row := by
  obtain ⟨a, rest, hinserted, ha, hlt, -⟩ :=
    insertAttribute_eq hp.opens p.tag.length (classAttribute name)
  have hattribute : IsOneLine (classAttribute name) := by
    have hopen : IsOneLine "className=\"".toList := by decide
    exact (hopen.append hname.isOneLine).append (by decide)
  have hline := (insertAttribute_spec hp.opens (hp.isOneLine p.row) hattribute p.tag.length).1
  have hspans := tagSpans_eq_cons hp.opens
  obtain ⟨b, hb⟩ := ha
  have hs : (⟨p.row, p.start, stretchStop (p.lines.getD p.row []) p.start⟩ : Span) ∈
      tagSpans p.lines p.row p.start := hspans ▸ List.mem_cons_self
  obtain ⟨hstop, hfirst⟩ := stretch_le hp.there hp.start_lt hs
  have hnone := (firstIn_eq_none_iff classTextAt_needsText hstop hfirst).1
    (classIn_eq_none_iff.1 (Place.classAttribute?_eq_none_iff.1 hfound _ hs)).1
  have hold := closing_take hp hs hstop (Nat.le_refl _)
  simp only at hold hb
  rw [← hb, List.drop_append_of_le_length hlt.le] at hold
  have hnew : a ++ ' ' :: (classAttribute name ++ rest) =
      a ++ ([' '] ++ ("className=\"".toList ++ (name ++ '"' :: rest))) := by
    rw [classAttribute_eq]
    simp only [List.append_assoc, List.cons_append, List.nil_append]
  refine ⟨⟨p.row, p.start, stretchStop (p.lines.getD p.row []) p.start⟩, ?_, rfl⟩
  rw [hinserted, hnew] at hline ⊢
  have hbefore : ∀ s' ∈ ([] : List Span), classIn (p.lines.getD s'.row []) s' = none :=
    fun s' hs' => absurd hs' List.not_mem_nil
  refine htidy.shows hp hspans hbefore ⟨b, hb⟩ hlt.le (fun _ => hlt) (fun m hm _ => hnone m hm)
    ?_ ?_ isTextHead_className (hname.notMem rfl) hline ?_
  · intro c hc
    rw [List.mem_singleton.1 hc]
    decide
  · rw [List.getLast?_concat]
    decide
  · have hend : '>' ∉ [' '] ++ ("className=\"".toList ++ (name ++ ['"'])) := by
      have hno : '>' ∉ name := fun hm => absurd (hname.plain hm).2.2 (by decide)
      simp [hno]
    rw [List.drop_append_of_le_length hlt.le]
    exact Scan.closing_append_eq_none.2
      ⟨(Scan.closing_append_eq_none.1 hold).1, Scan.closing_of_notMem hend⟩

/-! ### Both runs -/

/-- Whether the class is put behind an expression with a grave accent in it. -/
def Place.WrapsAccent (p : Place) (name : List Char) : Prop :=
  ∃ s n offset close expr, p.classAttribute? = some (s, .expression n offset) ∧
    HasExpression p s n offset close expr ∧ occursIn name expr = false ∧ '\x60' ∈ expr

theorem templateHead_append (text : List Char) :
    "className=\x7b\x60$\x7b".toList ++ text = templateHead ++ ("$\x7b".toList ++ text) := rfl

theorem written_of_notMem (expr name : List Char) :
    addClassToExpression expr name = templateHead ++
      ((("$\x7b".toList ++ (expr ++ ['\x7d'])) ++ ' ' :: name) ++ '\x60' :: ['\x7d']) := by
  have hmiddle : "\x7d ".toList = ['\x7d', ' '] := rfl
  have hclose : "\x60\x7d".toList = ['\x60', '\x7d'] := rfl
  rw [addClassToExpression_eq, templateHead_append, hmiddle, hclose]
  simp only [List.append_assoc, List.cons_append, List.nil_append]

theorem written_of_append (before behind name : List Char) :
    addClassToExpression (before ++ '\x60' :: behind) name = templateHead ++
      (("$\x7b".toList ++ before) ++ '\x60' ::
        (behind ++ ("\x7d ".toList ++ (name ++ "\x60\x7d".toList)))) := by
  rw [addClassToExpression_eq, templateHead_append]
  simp only [List.append_assoc, List.cons_append]

/-- What is read of an expression up to its first grave accent does not have the class. -/
theorem IsGenerated.notMem_words (h : IsGenerated name) {before behind : List Char}
    (hno : occursIn name (before ++ '\x60' :: behind) = false) :
    name ∉ words ("$\x7b".toList ++ before) := by
  intro hmem
  have hstart {q : Char} {rest : List Char} (hq : q ∈ ['>', '\n', '$', '\x7b'])
      (hpre : name <+: q :: rest) : False := by
    obtain ⟨c, more, rfl⟩ := List.exists_cons_of_ne_nil h.ne_nil
    obtain ⟨rfl, -⟩ := List.cons_prefix_cons.1 hpre
    exact (h.plain List.mem_cons_self).2.2 hq
  have hin : name <:+: '$' :: '\x7b' :: before := infix_of_mem_words hmem
  rcases List.infix_cons_iff.1 hin with hpre | hin
  · exact hstart (by decide) hpre
  · rcases List.infix_cons_iff.1 hin with hpre | hin
    · exact hstart (by decide) hpre
    · have hwhole := (List.prefix_append before ('\x60' :: behind)).isInfix
      rw [occursIn_iff.2 (hin.trans hwhole)] at hno
      cases hno

theorem wrapsAccent_iff {n k close : Nat} (hfound : p.classAttribute? = some (s, .expression n k))
    {expr : List Char} (hexpr : HasExpression p s n k close expr) :
    p.WrapsAccent name ↔ occursIn name expr = false ∧ '\x60' ∈ expr := by
  constructor
  · rintro ⟨s', n', k', close', expr', hfound', hexpr', hrest⟩
    cases hfound.symm.trans hfound'
    obtain rfl := Option.some.inj (hexpr.closed.symm.trans hexpr'.closed)
    rwa [← hexpr.text, hexpr'.text]
  · exact fun hrest => ⟨s, n, k, close, expr, hfound, hexpr, hrest⟩

theorem twice_of_expression (hname : IsGenerated name) (hplace : locate content c line = .ok p)
    (htidy : p.IsTidy) {n k close : Nat}
    (hfound : p.classAttribute? = some (s, .expression n k))
    (hclose : closingAt '\x7d' (p.lines.getD s.row []) (n + k) = some close)
    {out : List Char} (hout : applyClass content c line name = .ok out)
    (hagain : locate out c line = .ok { p with lines := lines out }) :
    (∃ again, applyClass out c line name = .ok again) ∧
      (applyClass out c line name = .ok out ↔ ¬ p.WrapsAccent name) := by
  have hp := locate_isOn hplace
  obtain ⟨before, after, hspans, hclass, -⟩ := Place.classAttribute?_eq_some_iff.1 hfound
  obtain ⟨expr, htext⟩ : ∃ expr, expressionIn (p.lines.getD s.row []) (n + k) close = expr :=
    ⟨_, rfl⟩
  have hexpr : HasExpression p s n k close expr :=
    ⟨(classIn_eq_expression_iff.1 hclass).2, hclose, htext⟩
  have hfirst := applyClass_of_expression hplace hfound hclose name
  rw [hout, htext] at hfirst
  have hwritten := Except.ok.inj hfirst
  rw [wrapsAccent_iff hfound hexpr]
  by_cases hoccurs : occursIn name expr = true
  · rw [if_pos hoccurs] at hwritten
    rw [hwritten] at hout ⊢
    exact ⟨⟨_, hout⟩, iff_of_true hout fun h => by simp [hoccurs] at h⟩
  · have hnot : occursIn name expr = false := by simpa using hoccurs
    rw [if_neg hoccurs, p.replaced_expression hclose] at hwritten
    by_cases haccent : '\x60' ∈ expr
    · obtain ⟨front, behind, rfl, hfront⟩ := List.eq_append_cons_of_mem haccent
      have hvalue : '\x60' ∉ "$\x7b".toList ++ front := by simp [hfront]
      obtain ⟨hsucceeds, hiff⟩ := (shows_expression hp htidy hname hfound hexpr hvalue
        (written_of_append front behind name)).again hp hname hwritten hagain
      exact ⟨hsucceeds, iff_of_false (fun h => hname.notMem_words hnot (hiff.1 h))
        fun h => h ⟨hnot, haccent⟩⟩
    · have hvalue : '\x60' ∉ ("$\x7b".toList ++ (expr ++ ['\x7d'])) ++ ' ' :: name := by
        simp [haccent, hname.notMem (q := '\x60') rfl]
      obtain ⟨hsucceeds, hiff⟩ := (shows_expression hp htidy hname hfound hexpr hvalue
        (written_of_notMem expr name)).again hp hname hwritten hagain
      refine ⟨hsucceeds, iff_of_true (hiff.2 ?_) fun h => haccent h.2⟩
      exact mem_words_append hname.ne_nil (fun c hc => (hname.plain hc).1) _

/-- In a tidy tag that is found again the second run succeeds; and it changes nothing, unless the
first one put the class behind an expression with a grave accent in it. -/
theorem twice_of_locate (hname : IsGenerated name) (hplace : locate content c line = .ok p)
    (htidy : p.IsTidy) {out : List Char} (hout : applyClass content c line name = .ok out)
    (hagain : locate out c line = .ok { p with lines := lines out }) :
    (∃ again, applyClass out c line name = .ok again) ∧
      (applyClass out c line name = .ok out ↔ ¬ p.WrapsAccent name) := by
  have hp := locate_isOn hplace
  cases hfound : p.classAttribute? with
  | none =>
    have hno : ¬ p.WrapsAccent name := by
      rintro ⟨s, n, offset, close, expr, h, -⟩
      rw [hfound] at h
      cases h
    obtain ⟨s, hshows, hrow⟩ := shows_inserted hp htidy hname hfound
    rw [applyClass_of_none hplace hfound] at hout
    have hwritten := (Except.ok.inj hout).symm
    rw [Place.inserted, ← hrow] at hwritten
    obtain ⟨hsucceeds, hiff⟩ := hshows.again hp hname (by rw [hwritten, hrow]) hagain
    exact ⟨hsucceeds, iff_of_true (hiff.2 hname.mem_words) hno⟩
  | some x =>
    obtain ⟨s, found⟩ := x
    cases found with
    | text n k value =>
      have hno : ¬ p.WrapsAccent name := by
        rintro ⟨s, n, offset, close, expr, h, -⟩
        rw [hfound] at h
        cases h
      rw [applyClass_of_text hplace hfound] at hout
      obtain ⟨hsucceeds, hiff⟩ := (shows_text hp htidy hname hfound).again hp hname
        (Except.ok.inj hout).symm hagain
      exact ⟨hsucceeds, iff_of_true (hiff.2 (hname.mem_words_addClassWord value)) hno⟩
    | expression n k =>
      cases hclose : closingAt '\x7d' (p.lines.getD s.row []) (n + k) with
      | none =>
        rw [applyClass_of_open hplace hfound hclose] at hout
        cases hout
      | some close => exact twice_of_expression hname hplace htidy hfound hclose hout hagain

/-- In a tidy tag the second run succeeds and changes nothing, unless the first one put the class
behind an expression with a grave accent in it: so it is wherever the tag is found again, and where
nothing but the tag is asked for it is. -/
theorem applyClass_twice_iff (hname : IsGenerated name) (hplace : locate content c line = .ok p)
    (htidy : p.IsTidy) {out : List Char} (hout : applyClass content c line name = .ok out) :
    (locate out c line = .ok { p with lines := lines out } →
      (∃ again, applyClass out c line name = .ok again) ∧
        (applyClass out c line name = .ok out ↔ ¬ p.WrapsAccent name)) ∧
    (c.AsksTag → p.IsNamed → locate out c line = .ok { p with lines := lines out }) :=
  ⟨twice_of_locate hname hplace htidy hout,
    fun hasks hnamed => locate_of_applyClass hplace hasks hnamed hname.isOneLine hout⟩

end

/-- The generated class of a red colour. -/
def redClass : List Char := "sourcelens-dynamic-wqxq0q".toList

theorem redClass_isGenerated : IsGenerated redClass :=
  ⟨redDiv.styles, "sourcelens-dynamic-wqxq0q", by decide +kernel, rfl⟩

/-- The tag with one of two classes, with the class behind its expression. -/
def switchedTwice : List Char :=
  "<div className=\x7b\x60$\x7bon ? 'a' : 'b'\x7d sourcelens-dynamic-wqxq0q\x60\x7d>".toList

theorem switchedPlace_isTidy : switchedPlace.IsTidy := by
  have hspans : tagSpans switchedPlace.lines switchedPlace.row switchedPlace.start =
      [⟨0, 0, 31⟩] := by decide +kernel
  have hfound : switchedPlace.classAttribute? = some (⟨0, 0, 31⟩, .expression 5 10) := by
    decide +kernel
  refine ⟨fun s hs m _ hopens => ?_, fun s n offset h => ?_⟩
  · rw [hspans] at hs
    obtain rfl := List.mem_singleton.1 hs
    have hbounded : ∀ m < 31, OpensText (switchedClass.take 31) m →
        (hitAt classTextAt (switchedClass.take 31) m).isSome = true := by decide +kernel
    exact hbounded m hopens.lt_length hopens
  · cases hfound.symm.trans h
    decide +kernel

theorem redDiv_asksTag : redDiv.AsksTag :=
  ⟨⟨"div".toList, none, []⟩, by decide +kernel, rfl, rfl⟩

theorem switchedPlace_isNamed : switchedPlace.IsNamed := by
  intro i c hstart hend hc
  have hall : ∀ i < 4, 0 < i → switchedClass[i]?.all isNamePart = true := by decide +kernel
  have hpart := hall i hend hstart
  have hget : switchedClass[i]? = some c := hc
  rwa [hget] at hpart

theorem applyClass_twice_iff_switched :
    IsGenerated redClass ∧ locate switchedClass redDiv 1 = .ok switchedPlace ∧
    switchedPlace.IsTidy ∧ redDiv.AsksTag ∧ switchedPlace.IsNamed ∧
    applyClass switchedClass redDiv 1 redClass = .ok switchedTwice ∧
    applyClass switchedTwice redDiv 1 redClass = .ok switchedTwice := by
  have hplace : locate switchedClass redDiv 1 = .ok switchedPlace := by decide +kernel
  have hout : applyClass switchedClass redDiv 1 redClass = .ok switchedTwice := by decide +kernel
  have hfound : switchedPlace.classAttribute? = some (⟨0, 0, 31⟩, .expression 5 10) := by
    decide +kernel
  have hexpr : HasExpression switchedPlace ⟨0, 0, 31⟩ 5 10 30 "on ? 'a' : 'b'".toList :=
    ⟨by decide +kernel, by decide +kernel, by decide +kernel⟩
  have hno : ¬ switchedPlace.WrapsAccent redClass := by
    rw [wrapsAccent_iff hfound hexpr]
    exact fun h => absurd h.2 (by decide)
  obtain ⟨htwice, hagain⟩ :=
    applyClass_twice_iff redClass_isGenerated hplace switchedPlace_isTidy hout
  exact ⟨redClass_isGenerated, hplace, switchedPlace_isTidy, redDiv_asksTag,
    switchedPlace_isNamed, hout,
    (htwice (hagain redDiv_asksTag switchedPlace_isNamed)).2.2 hno⟩

/-- A tag with one of two classes that are written with grave accents. -/
def accentedClass : List Char :=
  "<div className=\x7bon ? \x60a\x60 : \x60b\x60\x7d>".toList

/-- That tag with the class behind its expression. -/
def accentedTwice : List Char :=
  "<div className=\x7b\x60$\x7bon ? \x60a\x60 : \x60b\x60\x7d ".toList ++
    "sourcelens-dynamic-wqxq0q\x60\x7d>".toList

/-- Behind an expression with grave accents in it the class comes twice, the second time inside. -/
theorem applyClass_twice_differs :
    className redDiv.styles = .ok "sourcelens-dynamic-wqxq0q" ∧
    applyClass accentedClass redDiv 1 redClass = .ok accentedTwice ∧
    applyClass accentedTwice redDiv 1 redClass ≠ .ok accentedTwice :=
  ⟨by decide +kernel, by decide +kernel, by decide +kernel⟩

end Restyle.Style
