import Restyle.Proofs.FoundAgain
import Restyle.Proofs.OwnAttribute
import Restyle.Proofs.ReadBack

/-!
A style attribute in the tag that it is written into. Where no name and no value can end the object
or the line, the scan of the tag stays between the braces of the object until they close, so the tag
ends where it did; and the search for a style attribute finds that one, with its whole body.
-/
namespace Restyle.Markup

/-! ### The scan behind a text -/

/-- What holds of the scan wherever it comes: nothing is escaped outside of quotes, and what is open
is a quote. -/
structure Scan.IsSound (s : Scan) : Prop where
  escaped : s.quote = none → s.escaped = false
  quote : ∀ q, s.quote = some q → isQuote q = true

theorem Scan.isSound_of_quote {q : Char} (hq : isQuote q = true) (escaped : Bool) (depth : Int) :
    (Scan.mk (some q) escaped depth).IsSound where
  escaped h := by cases h
  quote q' h := by
    obtain rfl := Option.some.inj h
    exact hq

theorem Scan.isSound_of_none (depth : Int) : (Scan.mk none false depth).IsSound where
  escaped _ := rfl
  quote q h := by cases h

theorem Scan.IsSound.step {s : Scan} (h : s.IsSound) (c : Char) : (s.step c).IsSound := by
  obtain ⟨quote, escaped, depth⟩ := s
  cases quote with
  | some q =>
    have hq := h.quote q rfl
    simp only [Scan.step]
    split
    · exact isSound_of_quote hq false depth
    · next hescaped =>
      obtain rfl : escaped = false := by simpa using hescaped
      split
      · exact isSound_of_quote hq true depth
      · split
        · exact isSound_of_none depth
        · exact h
  | none =>
    obtain rfl : escaped = false := h.escaped rfl
    simp only [Scan.step]
    split
    · next hc => exact isSound_of_quote hc false depth
    · split
      · exact isSound_of_none (depth + 1)
      · split
        · exact isSound_of_none (depth - 1)
        · exact h

theorem Scan.IsSound.run {s : Scan} (h : s.IsSound) (w : List Char) : (s.run w).IsSound := by
  induction w generalizing s with
  | nil => exact h
  | cons c w ih => exact ih (h.step c)

theorem Scan.start_isSound : Scan.start.IsSound := isSound_of_none 0

/-- Outside of quotes and braces the scan is as at its start, and so it was before what is neither
a quote nor a brace. -/
theorem Scan.run_eq_start {x behind : List Char}
    (hplain : ∀ c ∈ behind, isQuote c = false ∧ c ≠ '\x7b' ∧ c ≠ '\x7d')
    (hquote : (Scan.start.run (x ++ behind)).quote = none)
    (hdepth : (Scan.start.run (x ++ behind)).depth = 0) : Scan.start.run x = Scan.start := by
  have hsound := Scan.start_isSound.run x
  rw [Scan.run_append] at hquote hdepth
  have hclosed : (Scan.start.run x).quote = none := by
    cases hopen : (Scan.start.run x).quote with
    | none => rfl
    | some q =>
      have hnot : q ∉ behind := by
        intro hq
        have hno := (hplain q hq).1
        rw [hsound.quote q hopen] at hno
        cases hno
      rw [Scan.quote_run hopen hnot] at hquote
      cases hquote
  rw [Scan.run_of_plain hclosed hplain] at hdepth
  have hescaped := hsound.escaped hclosed
  generalize Scan.start.run x = s at *
  obtain ⟨quote, escaped, depth⟩ := s
  simp only at hclosed hescaped hdepth
  rw [hclosed, hescaped, hdepth]
  rfl

/-- Up to the end of a tag nothing ends it, and the end is outside of quotes and braces. -/
theorem scan_of_tagEnd {cs : List Char} {start stop : Nat} (h : tagEnd cs start = some stop) :
    Scan.start.closing '>' ((cs.take stop).drop (start + 1)) = none ∧
      (Scan.start.run ((cs.take stop).drop (start + 1))).quote = none ∧
      (Scan.start.run ((cs.take stop).drop (start + 1))).depth = 0 := by
  obtain ⟨hlt, hget⟩ := tagEnd_spec h
  have hstop : stretchStop cs (start + 1) = stop := by
    rw [tagEnd] at h
    rw [stretchStop, h, Option.getD_some]
  have hclosing := (le_stretchStop_iff (show start + 1 ≤ stop from hlt)
    (List.getElem?_eq_some_iff.1 hget).1.le).1 hstop.ge
  obtain ⟨n, hn, rfl⟩ := Option.map_eq_some_iff.1 h
  have hends := Scan.ends_of_closing hn
  have htake : (cs.take (n + (start + 1))).drop (start + 1) = (cs.drop (start + 1)).take n := by
    rw [List.drop_take, Nat.add_sub_cancel]
  rw [← htake] at hends
  simp only [Scan.ends, Bool.and_eq_true, Option.isNone_iff_eq_none, beq_iff_eq] at hends
  exact ⟨hclosing, hends.1.1.1.1, by simpa using hends.2⟩

/-- Whether the scan goes over a text without an end of the tag, and behind it is as at its
start. -/
structure Scan.Passes (w : List Char) : Prop where
  run : Scan.start.run w = Scan.start
  closing : Scan.start.closing '>' w = none

theorem Scan.Passes.append {a b : List Char} (ha : Scan.Passes a) (hb : Scan.Passes b) :
    Scan.Passes (a ++ b) where
  run := by rw [Scan.run_append, ha.run, hb.run]
  closing := Scan.closing_append_eq_none.2 ⟨ha.closing, by rw [ha.run, hb.closing]⟩

/-- A bracket outside of quotes and braces ends the tag, if nothing before it does. -/
theorem tagEnd_append {front rest : List Char} {start : Nat} (h : start < front.length)
    (hpasses : Scan.Passes (front.drop (start + 1))) :
    tagEnd (front ++ '>' :: rest) start = some front.length := by
  have hhere : Scan.start.closing '>' ('>' :: rest) = some 0 := rfl
  rw [tagEnd, closingAt, List.drop_append_of_le_length h, Scan.closing_append, hpasses.closing]
  simp only [hpasses.run, hhere, Option.map_some, List.length_drop, Option.some.injEq]
  omega

/-- A text that the scan passes can stand in a tag before its end. -/
theorem tagEnd_inserted {a text gap : List Char} {start : Nat} (ha : start < a.length)
    (hpasses : Scan.Passes (a.drop (start + 1))) (htext : Scan.Passes text)
    (hgap : gap = [] ∨ gap = " /".toList) (rest : List Char) :
    tagEnd (a ++ ' ' :: (text ++ (gap ++ '>' :: rest))) start =
      some (a ++ ' ' :: (text ++ gap)).length := by
  have hsplit : a ++ ' ' :: (text ++ (gap ++ '>' :: rest)) =
      (a ++ ' ' :: (text ++ gap)) ++ '>' :: rest := by
    simp
  have hgap' : Scan.Passes gap := by
    rcases hgap with rfl | rfl
    · exact ⟨rfl, rfl⟩
    · exact ⟨by decide, by decide⟩
  rw [hsplit]
  refine tagEnd_append ?_ ?_
  · rw [List.length_append]
    exact Nat.lt_of_lt_of_le ha (Nat.le_add_right _ _)
  · rw [List.drop_append_of_le_length ha]
    exact hpasses.append (.append (a := [' ']) ⟨by decide, by decide⟩ (htext.append hgap'))

end Restyle.Markup

namespace Restyle.Style

open Text Markup

/-- The scan passes what is left of a tag when an attribute is inserted. -/
theorem passes_tagBody {cs : List Char} {start stop : Nat} (hopen : cs[start]? = some '<')
    (hend : tagEnd cs start = some stop) : Scan.Passes ((tagBody cs stop).drop (start + 1)) := by
  obtain ⟨ha, behind, hsplit, hbehind⟩ := tagBody_spec hopen hend
  obtain ⟨hclosing, hquote, hdepth⟩ := scan_of_tagEnd hend
  rw [hsplit, List.drop_append_of_le_length ha] at hclosing hquote hdepth
  exact ⟨Scan.run_eq_start (fun c hc => plain_of_endsTagName (hbehind c hc)) hquote hdepth,
    (Scan.closing_append_eq_none.1 hclosing).1⟩

/-! ### Texts that do not end the object -/

/-- Two closing braces, which end a style object wherever they stand. -/
def objectEnd : List Char := ['\x7d', '\x7d']

theorem objectEnd_prefix_iff {c : Char} {s : List Char} :
    objectEnd <+: c :: s ↔ c = '\x7d' ∧ s.head? = some '\x7d' := by
  rw [objectEnd, List.cons_prefix_cons, eq_comm]
  cases s with
  | nil => simp
  | cons d s => simp [List.cons_prefix_cons, eq_comm]

/-- Two braces that come where texts are joined come in one of them, if they are not one on each
side of the joint. -/
theorem objectEnd_infix_append {a b : List Char} (h : objectEnd <:+: a ++ b)
    (hjoint : ¬ (a.getLast? = some '\x7d' ∧ b.head? = some '\x7d')) :
    objectEnd <:+: a ∨ objectEnd <:+: b := by
  induction a with
  | nil => exact .inr h
  | cons c a ih =>
    cases a with
    | nil =>
      rcases List.infix_cons_iff.1 h with hpre | hin
      · obtain ⟨rfl, hb⟩ := objectEnd_prefix_iff.1 hpre
        exact absurd ⟨rfl, hb⟩ hjoint
      · exact .inr hin
    | cons d a =>
      rcases List.infix_cons_iff.1 h with hpre | hin
      · obtain ⟨hc, hd⟩ := objectEnd_prefix_iff.1 hpre
        exact .inl ((objectEnd_prefix_iff (s := d :: a)).2 ⟨hc, hd⟩).isInfix
      · rw [List.getLast?_cons_cons] at hjoint
        exact (ih hin hjoint).imp_left List.infix_cons

theorem objectEnd_notInfix_of_notMem {w : List Char} (h : '\x7d' ∉ w) : ¬ objectEnd <:+: w :=
  fun hin => h (hin.subset List.mem_cons_self)

/-- The search for the end of an object steps over a text in which none is. -/
theorem untilBraces_append {w : List Char} (hline : IsOneLine w) (hend : ¬ objectEnd <:+: w)
    (hlast : w.getLast? ≠ some '\x7d') (r : List Char) :
    untilBraces (w ++ (objectEnd ++ r)) = some (w, r) := by
  induction w with
  | nil => rfl
  | cons c w ih =>
    have hlast' : w.getLast? ≠ some '\x7d' := by
      cases w with
      | nil => exact fun h => by cases h
      | cons d w => rwa [List.getLast?_cons_cons] at hlast
    have hrest := ih (fun hm => hline (List.mem_cons_of_mem c hm))
      (fun hin => hend (List.infix_cons hin)) hlast'
    have hfeed : ¬ (c == '\n') = true := by
      rw [beq_iff_eq]
      rintro rfl
      exact hline List.mem_cons_self
    rw [List.cons_append, untilBraces, if_neg hfeed, hrest]
    · rfl
    · rintro r' rfl heq
      cases w with
      | nil => exact hlast (by decide)
      | cons d w =>
        obtain ⟨rfl, -⟩ := List.cons.inj heq
        exact hend (objectEnd_prefix_iff.2 ⟨rfl, rfl⟩).isInfix

/-! ### Pieces of an object -/

/-- What the scan knows between the two pairs of braces. -/
def insideObject : Markup.Scan := ⟨none, false, 2⟩

/-- Whether the scan is between the braces of an object over all of a text, and behind it as it was
before. -/
structure IsEnclosed (w : List Char) : Prop where
  back : insideObject.run w = insideObject
  deep : ∀ a, a <+: w → (insideObject.run a).depth = 2

theorem IsEnclosed.append {a b : List Char} (ha : IsEnclosed a) (hb : IsEnclosed b) :
    IsEnclosed (a ++ b) where
  back := by rw [Scan.run_append, ha.back, hb.back]
  deep x hx := by
    rcases prefix_append_cases hx with hx | ⟨more, -, rfl, hmore⟩
    · exact ha.deep x hx
    · rw [Scan.run_append, ha.back]
      exact hb.deep more hmore

theorem isEnclosed_of_plain {w : List Char}
    (h : ∀ c ∈ w, isQuote c = false ∧ c ≠ '\x7b' ∧ c ≠ '\x7d') : IsEnclosed w where
  back := Scan.run_of_plain rfl h
  deep a ha := by
    rw [Scan.run_of_plain rfl fun c hc => h c (ha.subset hc)]
    rfl

/-- Whether a text can stand in a style object: it is between the braces of that, and nothing in it
ends the object or the line. -/
structure IsPiece (w : List Char) : Prop extends IsEnclosed w where
  oneLine : IsOneLine w
  noEnd : ¬ objectEnd <:+: w
  last : w.getLast? ≠ some '\x7d'

theorem IsPiece.append {a b : List Char} (ha : IsPiece a) (hb : IsPiece b) : IsPiece (a ++ b) where
  toIsEnclosed := ha.toIsEnclosed.append hb.toIsEnclosed
  oneLine := ha.oneLine.append hb.oneLine
  noEnd h := (objectEnd_infix_append h fun hj => ha.last hj.1).elim ha.noEnd hb.noEnd
  last h := by
    rw [List.getLast?_append, Option.or_eq_some_iff] at h
    rcases h with h | ⟨-, h⟩
    · exact hb.last h
    · exact ha.last h

/-- What is neither a quote nor a brace can stand anywhere in an object. -/
theorem isPiece_of_plain {w : List Char} (hline : IsOneLine w)
    (h : ∀ c ∈ w, isQuote c = false ∧ c ≠ '\x7b' ∧ c ≠ '\x7d') : IsPiece w where
  toIsEnclosed := isEnclosed_of_plain h
  oneLine := hline
  noEnd := objectEnd_notInfix_of_notMem fun hm => (h _ hm).2.2 rfl
  last hl := (h _ (List.mem_of_getLast? hl)).2.2 rfl

/-- Between quotes the scan stays in them and counts no braces, and is behind them as it was. -/
theorem Between.run_eq {q : Char} {w : List Char} (h : Between q w) (d : Int) :
    (Markup.Scan.mk (some q) false d).run w = ⟨some q, false, d⟩ ∧
      ∀ a, a <+: w → ((Markup.Scan.mk (some q) false d).run a).depth = d := by
  have hstep {c : Char} (quote : c ≠ q) (backslash : c ≠ '\\') :
      (Markup.Scan.mk (some q) false d).step c = ⟨some q, false, d⟩ := by
    simp [Markup.Scan.step, quote, backslash]
  have hescape : (Markup.Scan.mk (some q) false d).step '\\' = ⟨some q, true, d⟩ := by
    simp [Markup.Scan.step]
  have hescaped (c : Char) : (Markup.Scan.mk (some q) true d).step c = ⟨some q, false, d⟩ := rfl
  induction h with
  | nil =>
    refine ⟨rfl, fun a ha => ?_⟩
    rw [List.prefix_nil.1 ha]
    rfl
  | @plain c w quote backslash rest ih =>
    rw [Scan.run, List.foldl_cons, hstep quote backslash]
    refine ⟨ih.1, fun a ha => ?_⟩
    rcases List.prefix_cons_iff.1 ha with rfl | ⟨x, rfl, hx⟩
    · rfl
    · rw [Scan.run, List.foldl_cons, hstep quote backslash]
      exact ih.2 x hx
  | @escaped c w feed rest ih =>
    rw [Scan.run, List.foldl_cons, hescape, List.foldl_cons, hescaped]
    refine ⟨ih.1, fun a ha => ?_⟩
    rcases List.prefix_cons_iff.1 ha with rfl | ⟨x, rfl, hx⟩
    · rfl
    · rcases List.prefix_cons_iff.1 hx with rfl | ⟨y, rfl, hy⟩
      · rw [Scan.run, List.foldl_cons, hescape]
        rfl
      · rw [Scan.run, List.foldl_cons, hescape, List.foldl_cons, hescaped]
        exact ih.2 y hy

theorem isEnclosed_quoted {w : List Char} (h : Between '\'' w) :
    IsEnclosed ('\'' :: w ++ ['\'']) := by
  have hopen (x : List Char) :
      insideObject.run ('\'' :: x) = (Markup.Scan.mk (some '\'') false 2).run x := rfl
  obtain ⟨hback, hdeep⟩ := h.run_eq 2
  have hwhole : insideObject.run ('\'' :: w ++ ['\'']) = insideObject := by
    rw [Scan.run_append, hopen, hback]
    rfl
  refine ⟨hwhole, fun a ha => ?_⟩
  rcases List.prefix_concat_iff.1 ha with rfl | hx
  · rw [hwhole]
    rfl
  · rcases List.prefix_cons_iff.1 hx with rfl | ⟨y, rfl, hy⟩
    · rfl
    · exact hdeep y hy

/-- A text in quotes can stand in an object if nothing between them ends it. -/
theorem isPiece_quoted {w : List Char} (h : Between '\'' w) (hline : IsOneLine w)
    (hend : ¬ objectEnd <:+: w) : IsPiece ('\'' :: w ++ ['\'']) where
  toIsEnclosed := isEnclosed_quoted h
  oneLine := (hline.cons (by decide)).append (by decide)
  noEnd hin := by
    rcases objectEnd_infix_append hin (fun hj => by cases hj.2) with hin | hin
    · rcases List.infix_cons_iff.1 hin with hpre | hin
      · cases (objectEnd_prefix_iff.1 hpre).1
      · exact hend hin
    · exact objectEnd_notInfix_of_notMem (by decide) hin
  last := by
    rw [List.getLast?_concat]
    exact fun h => by cases h

/-! ### Names and values -/

/-- A text that ends no style object and no line. -/
structure IsHarmless (s : List Char) : Prop where
  oneLine : IsOneLine s
  noEnd : ¬ objectEnd <:+: s

/-- A name that between single quotes, too, is what it is. -/
structure IsHarmlessName (name : List Char) : Prop extends IsHarmless name where
  noQuote : '\'' ∉ name
  noEscape : '\\' ∉ name

theorem head?_flatMap_escapeQuoted {value : List Char}
    (h : (value.flatMap escapeQuoted).head? = some '\x7d') : value.head? = some '\x7d' := by
  cases value with
  | nil => cases h
  | cons c value =>
    rw [List.flatMap_cons, escapeQuoted] at h
    split at h
    · cases h
    · exact h

theorem objectEnd_of_flatMap_escapeQuoted {value : List Char}
    (h : objectEnd <:+: value.flatMap escapeQuoted) : objectEnd <:+: value := by
  induction value with
  | nil => exact h
  | cons c value ih =>
    rw [List.flatMap_cons, escapeQuoted] at h
    split at h
    · next hc =>
      have hbrace : '\x7d' ∉ ['\\', c] := by
        simp only [Bool.or_eq_true, beq_iff_eq] at hc
        rcases hc with rfl | rfl <;> decide
      have hjoint : ¬ (['\\', c].getLast? = some '\x7d' ∧
          (value.flatMap escapeQuoted).head? = some '\x7d') :=
        fun hj => hbrace (List.mem_of_getLast? hj.1)
      rcases objectEnd_infix_append h hjoint with hin | hin
      · exact absurd hin (objectEnd_notInfix_of_notMem hbrace)
      · exact List.infix_cons (ih hin)
    · rcases List.infix_cons_iff.1 h with hpre | hin
      · obtain ⟨hc, hhead⟩ := objectEnd_prefix_iff.1 hpre
        exact (objectEnd_prefix_iff.2 ⟨hc, head?_flatMap_escapeQuoted hhead⟩).isInfix
      · exact List.infix_cons (ih hin)

theorem ne_brace_of_isUpper {c : Char} (h : c.isUpper = true) : c ≠ '\x7d' := by
  rintro rfl
  cases h

theorem head?_dashesToCapitals {name : List Char}
    (h : (dashesToCapitals name).head? = some '\x7d') : name.head? = some '\x7d' := by
  fun_cases dashesToCapitals name with
  | case1 c rest hc =>
    rw [dashesToCapitals, if_pos hc] at h
    exact absurd (Option.some.inj h) (ne_brace_of_isUpper (isUpper_toUpper hc))
  | case2 c rest hc =>
    rw [dashesToCapitals, if_neg hc] at h
    cases h
  | case3 c rest hdash =>
    rw [dashesToCapitals] at h
    · exact h
    · exact hdash
  | case4 => cases h

theorem objectEnd_of_dashesToCapitals {name : List Char}
    (h : objectEnd <:+: dashesToCapitals name) : objectEnd <:+: name := by
  fun_induction dashesToCapitals name with
  | case1 c rest hc ih =>
    rcases List.infix_cons_iff.1 h with hpre | hin
    · exact absurd (objectEnd_prefix_iff.1 hpre).1 (ne_brace_of_isUpper (isUpper_toUpper hc))
    · exact List.infix_cons (List.infix_cons (ih hin))
  | case2 c rest hc ih =>
    rcases List.infix_cons_iff.1 h with hpre | hin
    · cases (objectEnd_prefix_iff.1 hpre).1
    · exact List.infix_cons (ih hin)
  | case3 c rest hdash ih =>
    rcases List.infix_cons_iff.1 h with hpre | hin
    · obtain ⟨hc, hhead⟩ := objectEnd_prefix_iff.1 hpre
      exact (objectEnd_prefix_iff.2 ⟨hc, head?_dashesToCapitals hhead⟩).isInfix
    · exact List.infix_cons (ih hin)
  | case4 => exact h

/-- A name stays so when it gets capitals for its dashes. -/
theorem IsHarmlessName.camelCase {name : List Char} (h : IsHarmlessName name) :
    IsHarmlessName (camelCase name) where
  oneLine := isOneLine_camelCase h.oneLine
  noEnd hin := by
    unfold Style.camelCase at hin
    split at hin
    · exact h.noEnd hin
    · exact h.noEnd (objectEnd_of_dashesToCapitals hin)
  noQuote := notMem_camelCase (by decide) h.noQuote
  noEscape := notMem_camelCase (by decide) h.noEscape

theorem IsHarmlessName.tellable {name : List Char} (h : IsHarmlessName name) : IsTellable name :=
  ⟨h.noQuote, fun _ hlast => h.oneLine (List.mem_of_getLast? hlast)⟩

theorem between_of_notMem {q : Char} {w : List Char} (hquote : q ∉ w) (hescape : '\\' ∉ w) :
    Between q w := by
  induction w with
  | nil => exact .nil
  | cons c w ih =>
    rw [List.mem_cons, not_or] at hquote hescape
    exact .plain (Ne.symm hquote.1) (Ne.symm hescape.1) (ih hquote.2 hescape.2)

theorem plain_of_part {c : Char} (h : isIdentifierPart c = true) :
    isQuote c = false ∧ c ≠ '\x7b' ∧ c ≠ '\x7d' := by
  refine ⟨isQuote_eq_false_of_part h, ?_, ?_⟩
  · rintro rfl
    exact absurd h (by decide)
  · rintro rfl
    exact absurd h (by decide)

/-- A name that is written without quotes has no quotes and no braces in it, a line feed at its end
included. -/
theorem plain_of_isIdentifier {name : List Char} (h : isIdentifier name = true) {c : Char}
    (hc : c ∈ name) : isQuote c = false ∧ c ≠ '\x7b' ∧ c ≠ '\x7d' := by
  cases name with
  | nil => cases hc
  | cons first rest =>
    rw [isIdentifier, Bool.and_eq_true] at h
    obtain ⟨hfirst, hrest⟩ := h
    rcases List.mem_cons.1 hc with rfl | hc
    · exact plain_of_part (isIdentifierPart_of_starts hfirst)
    · split at hrest
      · next hfeed =>
        rw [← List.dropLast_append_getLast? _ hfeed, List.mem_append] at hc
        rcases hc with hc | hc
        · exact plain_of_part (List.all_eq_true.1 hrest c hc)
        · rw [List.mem_singleton.1 hc]
          decide
      · exact plain_of_part (List.all_eq_true.1 hrest c hc)

theorem isEnclosed_writeName {name : List Char} (hquote : '\'' ∉ name) (hescape : '\\' ∉ name) :
    IsEnclosed (writeName name) := by
  unfold writeName
  split
  · next hname => exact isEnclosed_of_plain fun _ hc => plain_of_isIdentifier hname hc
  · exact isEnclosed_quoted (between_of_notMem hquote hescape)

theorem isEnclosed_writeValue (value : List Char) : IsEnclosed (writeValue value) :=
  isEnclosed_quoted (between_escaped value)

theorem IsHarmlessName.isPiece {name : List Char} (h : IsHarmlessName name) :
    IsPiece (writeName name) := by
  unfold writeName
  split
  · next hname => exact isPiece_of_plain h.oneLine fun _ hc => plain_of_isIdentifier hname hc
  · exact isPiece_quoted (between_of_notMem h.noQuote h.noEscape) h.oneLine h.noEnd

theorem IsHarmless.isPiece {value : List Char} (h : IsHarmless value) : IsPiece (writeValue value) :=
  have hsub : value.flatMap escapeQuoted ⊆ writeValue value := by simp [writeValue]
  isPiece_quoted (between_escaped value) ((isOneLine_writeValue h.oneLine).of_subset hsub)
    fun hin => h.noEnd (objectEnd_of_flatMap_escapeQuoted hin)

/-! ### The attribute -/

/-- Entries whose names and values end no object and no line, with the values in quotes. -/
def Entries.AreHarmless (es : Entries) : Prop :=
  ∀ e ∈ es, IsHarmlessName e.1 ∧ ∃ value, IsHarmless value ∧ e.2 = writeValue value

/-- What holds of names, values and what stands between them, and of texts that are put together from
others of which it holds, holds of a whole object. -/
theorem objectBody_induction {P : List Char → Prop} (happend : ∀ a b, P a → P b → P (a ++ b))
    (hplain : ∀ w, (∀ c ∈ w, c ∈ [' ', ':', ',']) → P w) {es : Entries}
    (hentries : ∀ e ∈ es, P (writeName e.1) ∧ P e.2) : P (objectBody es) := by
  have hspace : P [' '] := hplain _ (by simp)
  have hbody : P (writeBody es) := by
    induction es with
    | nil => exact hplain _ (List.forall_mem_nil _)
    | cons e es ih =>
      obtain ⟨hname, hvalue⟩ := hentries e List.mem_cons_self
      have hentry : P (writeName e.1 ++ (": ".toList ++ e.2)) :=
        happend _ _ hname (happend _ _ (hplain _ (by simp)) hvalue)
      have hrest := ih fun x hx => hentries x (List.mem_cons_of_mem e hx)
      cases es with
      | nil =>
        have hone : writeBody [e] = writeName e.1 ++ (": ".toList ++ e.2) := by simp [writeBody]
        rw [hone]
        exact hentry
      | cons e' es =>
        have hmore : writeBody (e :: e' :: es) = writeName e.1 ++ (": ".toList ++ e.2) ++
            (", ".toList ++ writeBody (e' :: es)) := by
          simp [writeBody_cons]
        rw [hmore]
        exact happend _ _ hentry (happend _ _ (hplain _ (by simp)) hrest)
  exact happend _ _ hspace (happend _ _ hbody hspace)

theorem plain_of_mem_signs {c : Char} (h : c ∈ [' ', ':', ',']) :
    isQuote c = false ∧ c ≠ '\x7b' ∧ c ≠ '\x7d' ∧ c ≠ '\n' := by
  simp only [List.mem_cons, List.not_mem_nil, or_false] at h
  rcases h with rfl | rfl | rfl <;> decide

theorem Entries.AreHarmless.isPiece {es : Entries} (h : es.AreHarmless) :
    IsPiece (objectBody es) := by
  refine objectBody_induction (fun _ _ => IsPiece.append) (fun w hw => ?_) fun e he => ?_
  · refine isPiece_of_plain (fun hm => (plain_of_mem_signs (hw _ hm)).2.2.2 rfl) fun c hc => ?_
    obtain ⟨hquote, hopen, hclose, -⟩ := plain_of_mem_signs (hw c hc)
    exact ⟨hquote, hopen, hclose⟩
  · obtain ⟨hname, value, hvalue, heq⟩ := h e he
    exact ⟨hname.isPiece, heq ▸ hvalue.isPiece⟩

theorem Entries.AreHarmless.readEntries_objectBody {es : Entries} (h : es.AreHarmless)
    (hes : (es.map (·.1)).Nodup) : readEntries (objectBody es) = es := by
  refine readEntries_written hes fun e he => ?_
  obtain ⟨hname, value, -, heq⟩ := h e he
  exact ⟨hname.tellable.reads, heq ▸ isText_writeValue value⟩

/-- How a style attribute with an object begins. -/
def styleHead : List Char := "style=\x7b\x7b".toList

/-- The attribute with `w` between the braces of its object. -/
def attributeOf (w : List Char) : List Char := styleHead ++ (w ++ objectEnd)

theorem styleAttribute_eq (es : Entries) : styleAttribute es = attributeOf (objectBody es) := by
  have hhead : styleHead = "style=".toList ++ "\x7b\x7b".toList := by decide
  unfold styleAttribute attributeOf
  rw [writeObject_eq, hhead, List.append_assoc]
  rfl

section

variable {w : List Char}

/-- Behind an attribute the scan is as it was before. -/
theorem IsEnclosed.run_attribute (h : IsEnclosed w) :
    Scan.start.run (attributeOf w) = Scan.start := by
  have hopen : Scan.start.run styleHead = insideObject := by decide
  rw [attributeOf, Scan.run_append, Scan.run_append, hopen, h.back]
  decide

/-- Behind its first brace and before its last one an attribute is between braces. -/
theorem IsEnclosed.deep_attribute (h : IsEnclosed w) {a : List Char} (ha : a <+: attributeOf w)
    (hlong : 7 ≤ a.length) (hne : a ≠ attributeOf w) : (Scan.start.run a).depth ≠ 0 := by
  have hopen : Scan.start.run styleHead = insideObject := by decide
  rcases prefix_append_cases ha with hhead | ⟨more, -, rfl, hmore⟩
  · have hall : ∀ n ≤ 8, 7 ≤ n → (Scan.start.run (styleHead.take n)).depth ≠ 0 := by decide
    have hlength : a.length ≤ 8 := hhead.length_le
    rw [List.prefix_iff_eq_take.1 hhead]
    exact hall a.length hlength hlong
  · rw [Scan.run_append, hopen]
    rcases prefix_append_cases hmore with hw | ⟨last, hlast, rfl, hend⟩
    · rw [h.deep more hw]
      decide
    · rw [Scan.run_append, h.back]
      rcases List.prefix_cons_iff.1 hend with rfl | ⟨x, rfl, hx⟩
      · exact absurd rfl hlast
      · rcases List.prefix_cons_iff.1 hx with rfl | ⟨y, rfl, hy⟩
        · decide
        · rw [List.prefix_nil.1 hy] at hne
          exact absurd rfl hne

theorem getElem?_attributeOf {k : Nat} (hk : k < 8) : (attributeOf w)[k]? = styleHead[k]? := by
  have hhead : styleHead.length = 8 := by decide
  rw [attributeOf, List.getElem?_append_left (by omega)]

/-- No tag ends in an attribute. -/
theorem IsEnclosed.closing_attribute (h : IsEnclosed w) :
    Scan.start.closing '>' (attributeOf w) = none := by
  cases hclosing : Scan.start.closing '>' (attributeOf w) with
  | none => rfl
  | some n =>
    exfalso
    have hlt := Scan.closing_lt hclosing
    have hget := Scan.getElem?_of_closing hclosing
    have hends := Scan.ends_of_closing hclosing
    have hlength : ((attributeOf w).take n).length = n := by
      rw [List.length_take, Nat.min_eq_left hlt.le]
    have hlong : 7 ≤ n := by
      by_contra hshort
      have hall : ∀ n < 7, styleHead[n]? ≠ some '>' := by decide
      rw [getElem?_attributeOf (by omega)] at hget
      exact hall n (by omega) hget
    have hdepth := h.deep_attribute (List.take_prefix n _) (by omega) fun heq => by
      rw [heq] at hlength
      omega
    simp only [Scan.ends, Bool.and_eq_true] at hends
    exact hdepth (by simpa using hends.2)

theorem IsEnclosed.passes_attribute (h : IsEnclosed w) : Scan.Passes (attributeOf w) :=
  ⟨h.run_attribute, h.closing_attribute⟩

end

/-! ### Looking for the attribute -/

theorem styleNameAt_needsText : NeedsText styleNameAt := by
  intro prev
  simp [styleNameAt, after?, afterBy?]

/-- The name of a style attribute with the equals sign behind it. -/
def IsStyleName (head : List Char) : Prop := ∃ b, IsBlank b ∧ head = "style".toList ++ (b ++ ['='])

theorem hitAt_styleName_iff {text : List Char} {m : Nat} :
    (hitAt styleNameAt text m).isSome = true ↔ nameStarts (text.take m).getLast? = true ∧
      ∃ head, IsStyleName head ∧ head <+: text.drop m := by
  have hopens : ((after? "style".toList (text.drop m)).bind afterEquals?).isSome = true ↔
      ∃ head, IsStyleName head ∧ head <+: text.drop m := by
    constructor
    · intro h
      obtain ⟨r, hr⟩ := Option.isSome_iff_exists.1 h
      obtain ⟨u, hu, hequals⟩ := Option.bind_eq_some_iff.1 hr
      obtain ⟨a, b, ha, -, rfl, -⟩ := afterEquals?_eq_some_iff.1 hequals
      exact ⟨_, ⟨a, ha, rfl⟩, b ++ r, by rw [after?_eq_some.1 hu]; simp⟩
    · rintro ⟨head, ⟨a, ha, rfl⟩, rest, hrest⟩
      have hafter : after? "style".toList (text.drop m) = some (a ++ '=' :: rest) :=
        after?_eq_some.2 (by rw [← hrest]; simp)
      rw [hafter, Option.bind_some, afterEquals?, skipBlanks_append_of_blank ha]
      rfl
  rw [hitAt, styleNameAt, ← hopens]
  cases nameStarts (text.take m).getLast? <;>
    cases ((after? "style".toList (text.drop m)).bind afterEquals?).isSome <;> simp

/-- Where an attribute with an object is found its name is. -/
theorem styleName_of_styleObject {text : List Char} {m : Nat}
    (h : (hitAt styleObjectAt text m).isSome = true) :
    (hitAt styleNameAt text m).isSome = true := by
  obtain ⟨found, hfound⟩ := Option.isSome_iff_exists.1 h
  rw [hitAt, styleObjectAt] at hfound
  split at hfound
  · next hprev =>
    split at hfound
    · next hrest => rw [hitAt, styleNameAt, hprev, hrest]; rfl
    · cases hfound
  · cases hfound

/-- The letter that starts the name does not come again before its equals sign. -/
theorem IsStyleName.exists_cons {head : List Char} (h : IsStyleName head) :
    ∃ rest, head = 's' :: rest ∧ 's' ∉ rest ∧ rest.getLast? = some '=' := by
  obtain ⟨b, hb, rfl⟩ := h
  refine ⟨"tyle".toList ++ (b ++ ['=']), rfl, ?_, ?_⟩
  · have hblank : 's' ∉ b := fun hs => absurd (hb 's' hs) (by decide)
    simp [hblank]
  · rw [← List.append_assoc, List.getLast?_concat]

theorem styleName_head {text : List Char} {m : Nat}
    (h : (hitAt styleNameAt text m).isSome = true) : text[m]? = some 's' := by
  obtain ⟨-, head, hhead, rest, hrest⟩ := hitAt_styleName_iff.1 h
  obtain ⟨more, rfl, -⟩ := hhead.exists_cons
  rw [← List.head?_drop, ← hrest]
  rfl

theorem styleName_append {a : List Char} {m : Nat}
    (h : (hitAt styleNameAt a m).isSome = true) (b : List Char) :
    (hitAt styleNameAt (a ++ b) m).isSome = true := by
  have hlt := (List.getElem?_eq_some_iff.1 (styleName_head h)).1
  obtain ⟨hprev, head, hhead, hpre⟩ := hitAt_styleName_iff.1 h
  refine hitAt_styleName_iff.2 ⟨?_, head, hhead, ?_⟩
  · rwa [List.take_append_of_le_length hlt.le]
  · rw [List.drop_append_of_le_length hlt.le]
    exact hpre.trans (List.prefix_append _ _)

/-- A name that stands before a blank and another name stands before them alone. -/
theorem styleName_of_append {a b : List Char} {m : Nat}
    (h : (hitAt styleNameAt (a ++ ' ' :: 's' :: b) m).isSome = true) (hm : m ≤ a.length) :
    (hitAt styleNameAt a m).isSome = true := by
  obtain ⟨hprev, head, hhead, hpre⟩ := hitAt_styleName_iff.1 h
  rw [List.take_append_of_le_length hm] at hprev
  rw [List.drop_append_of_le_length hm] at hpre
  refine hitAt_styleName_iff.2 ⟨hprev, head, hhead, ?_⟩
  rcases prefix_append_cases hpre with hshort | ⟨more, hne, rfl, hbehind⟩
  · exact hshort
  -- The name would go on in the blank, where it does not end, and with the letter behind that.
  exfalso
  obtain ⟨rest, hrest, hnot, hlast⟩ := hhead.exists_cons
  rcases List.prefix_cons_iff.1 hbehind with rfl | ⟨x, rfl, hx⟩
  · exact hne rfl
  cases hfront : a.drop m with
  | nil =>
    rw [hfront] at hrest
    cases (List.cons.inj hrest).1
  | cons c front =>
    rw [hfront] at hrest
    obtain rfl := (List.cons.inj hrest).2
    rcases List.prefix_cons_iff.1 hx with rfl | ⟨y, rfl, -⟩
    · rw [List.append_eq, List.getLast?_concat] at hlast
      cases hlast
    · exact hnot (by simp)

/-- An attribute with an object is found where it is written, with its whole body. -/
theorem IsPiece.styleObjectAt_eq {w : List Char} (h : IsPiece w) {prev : Option Char}
    (hprev : nameStarts prev = true) (r : List Char) :
    styleObjectAt prev (attributeOf w ++ r) = some (w, (attributeOf w).length) := by
  have hopen : (after? "style".toList (attributeOf w ++ r)).bind afterEquals? =
      some ('\x7b' :: '\x7b' :: (w ++ (objectEnd ++ r))) := by
    have hsplit : attributeOf w ++ r =
        "style".toList ++ ('=' :: '\x7b' :: '\x7b' :: (w ++ (objectEnd ++ r))) := by
      have hhead : styleHead = "style".toList ++ ['=', '\x7b', '\x7b'] := by decide
      simp [attributeOf, hhead]
    rw [hsplit]
    exact Option.bind_eq_some_iff.2 ⟨_, after?_eq_some.2 rfl, rfl⟩
  rw [styleObjectAt, if_pos hprev, hopen]
  simp only [untilBraces_append h.oneLine h.noEnd h.last, Option.map_some, List.length_append,
    attributeOf]
  congr 2
  omega

end Restyle.Style
