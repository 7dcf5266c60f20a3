import Restyle.Proofs.ClassAttribute
import Restyle.Proofs.SheetText

/-!
When an expression for classes keeps its meaning. The class is put behind the expression unless it
is part of that, and whether it is part of it is told by its letters alone; and where a text in
quotes is found in the tag, which may be the beginning of the expression, that is changed and not
the whole.
-/
namespace Restyle.Markup

open Text

/-- A quote stays open as long as it does not come again. -/
theorem Scan.quote_run {s : Scan} {q : Char} {w : List Char} (hs : s.quote = some q) (h : q ∉ w) :
    (s.run w).quote = some q := by
  induction w generalizing s with
  | nil => exact hs
  | cons c w ih =>
    rw [List.mem_cons, not_or] at h
    obtain ⟨hc, hw⟩ := h
    have hne : (c == q) = false := by simpa using Ne.symm hc
    refine ih (s := s.step c) ?_ hw
    simp only [Scan.step, hs, hne, Bool.false_eq_true, if_false]
    split
    · rfl
    · split
      · rfl
      · exact hs

/-- What is neither a quote nor a brace says nothing outside of quotes. -/
theorem Scan.run_of_plain {s : Scan} {w : List Char} (hs : s.quote = none)
    (h : ∀ c ∈ w, isQuote c = false ∧ c ≠ '\x7b' ∧ c ≠ '\x7d') : s.run w = s := by
  induction w with
  | nil => rfl
  | cons c w ih =>
    obtain ⟨hquote, hopen, hclose⟩ := h c List.mem_cons_self
    have hstep : s.step c = s := by
      simp [Scan.step, hs, hquote, hopen, hclose]
    rw [Scan.run, List.foldl_cons, hstep]
    exact ih fun x hx => h x (List.mem_cons_of_mem _ hx)

/-- No blank is a quote or a brace. -/
theorem plain_of_blank {c : Char} (h : isBlank c = true) :
    isQuote c = false ∧ c ≠ '\x7b' ∧ c ≠ '\x7d' := by
  refine ⟨Style.isQuote_eq_false_of_blank h, ?_, ?_⟩
  · rintro rfl
    exact absurd h (by decide)
  · rintro rfl
    exact absurd h (by decide)

theorem Scan.run_of_blank {s : Scan} {w : List Char} (hs : s.quote = none) (h : Style.IsBlank w) :
    s.run w = s :=
  run_of_plain hs fun c hc => plain_of_blank (h c hc)

theorem Scan.ends_of_closing {closer : Char} {s : Scan} {text : List Char} {n : Nat}
    (h : s.closing closer text = some n) : ends closer closer (s.run (text.take n)) = true := by
  induction text generalizing s n with
  | nil => cases h
  | cons c text ih =>
    rw [Scan.closing] at h
    split at h
    · next hends =>
      obtain rfl := Option.some.inj h
      have hc : c = closer := by
        simp only [Scan.ends, Bool.and_eq_true, beq_iff_eq] at hends
        exact hends.1.2
      rwa [hc] at hends
    · obtain ⟨m, hm, rfl⟩ := Option.map_eq_some_iff.1 h
      exact ih hm

end Restyle.Markup

namespace Restyle.Style

open Text Markup

/-! ### The line around an expression -/

theorem stretch_le {lines : List (List Char)} {row start : Nat} (hrow : row < lines.length)
    (hstart : start < (lines.getD row []).length) {s : Span} (h : s ∈ tagSpans lines row start) :
    s.first ≤ s.stop ∧ s.first ≤ (lines.getD s.row []).length := by
  refine ⟨(mem_tagSpans hrow hstart h).2.2.2.1, ?_⟩
  obtain ⟨later, -, -, hspans⟩ := tagSpans_eq hrow start
  rw [hspans] at h
  rcases List.mem_cons.1 h with rfl | h
  · exact hstart.le
  · rw [(mem_laterSpans h).2.2]
    exact Nat.zero_le _

/-- An expression stands between braces behind its name and an equals sign. -/
structure IsExpression (line : List Char) (n offset close : Nat) (a b d e : List Char) : Prop where
  blank : IsBlank a ∧ IsBlank b ∧ IsBlank d ∧ IsBlank e
  length : offset = 10 + a.length + b.length
  text : line.drop n = "className".toList ++ (a ++ '=' :: (b ++ '\x7b' ::
    (d ++ (expressionIn line (n + offset) close ++ (e ++ '\x7d' :: line.drop (close + 1))))))

theorem length_className (a b : List Char) :
    ("className".toList ++ (a ++ '=' :: b)).length = 10 + a.length + b.length := by
  have hname : "className".toList.length = 9 := rfl
  simp only [List.length_append, List.length_cons, hname]
  omega

theorem exists_isExpression {line : List Char} {first stop n offset close : Nat}
    (hexpr : firstIn classExpressionAt line first stop = some (n, offset))
    (hclose : closingAt '\x7d' line (n + offset) = some close) :
    ∃ a b d e, IsExpression line n offset close a b d e := by
  obtain ⟨-, -, prev, hat⟩ := firstIn_spec hexpr
  obtain ⟨-, a, b, r, ha, hb, hr, hoffset⟩ := classExpressionAt_eq_some_iff.1 hat
  have hdrop : (line.take stop).drop n <+: line.drop n := by
    rw [List.drop_take]
    exact List.take_prefix _ _
  obtain ⟨more, hmore⟩ := hdrop
  have hbehind : line.drop n =
      ("className".toList ++ (a ++ '=' :: b)) ++ '\x7b' :: (r ++ more) := by
    rw [← hmore, hr]
    simp
  have hlength : offset = ("className".toList ++ (a ++ '=' :: b)).length := by
    rw [length_className, hoffset]
  have hbrace : line.drop (n + offset) = '\x7b' :: (r ++ more) := by
    rw [← List.drop_drop, hbehind, hlength, List.drop_left]
  obtain ⟨k, hk, rfl⟩ := Option.map_eq_some_iff.1 hclose
  rw [hbrace] at hk
  have hlast := Scan.getElem?_of_closing hk
  obtain ⟨j, rfl⟩ : ∃ j, k = j + 1 := by
    cases k with
    | zero => cases hlast
    | succ j => exact ⟨j, rfl⟩
  rw [List.getElem?_cons_succ] at hlast
  obtain ⟨hj, hget⟩ := List.getElem?_eq_some_iff.1 hlast
  have hinner : (line.take (j + 1 + (n + offset))).drop (n + offset + 1) = (r ++ more).take j := by
    rw [List.drop_take, ← List.drop_drop, hbrace]
    congr 1
    omega
  have houter : line.drop (j + 1 + (n + offset) + 1) = (r ++ more).drop (j + 1) := by
    have hsum : j + 1 + (n + offset) + 1 = (n + offset) + ((j + 1) + 1) := by omega
    rw [hsum, ← List.drop_drop, hbrace, List.drop_succ_cons]
  obtain ⟨d, e, hd, he, htrim, -, -⟩ := exists_trim ((r ++ more).take j)
  refine ⟨a, b, d, e, ⟨ha, hb, hd, he⟩, hoffset, ?_⟩
  have hsplit : r ++ more = (r ++ more).take j ++ '\x7d' :: (r ++ more).drop (j + 1) := by
    rw [← hget, ← List.drop_eq_getElem_cons hj, List.take_append_drop]
  rw [expressionIn, hinner, houter, hbehind]
  calc ("className".toList ++ (a ++ '=' :: b)) ++ '\x7b' :: (r ++ more)
      = ("className".toList ++ (a ++ '=' :: b)) ++ '\x7b' ::
          ((d ++ (trim ((r ++ more).take j) ++ e)) ++ '\x7d' :: (r ++ more).drop (j + 1)) := by
        rw [← htrim, ← hsplit]
    _ = _ := by simp

/-! ### What an edit adds -/

theorem IsBlank.count_eq_zero {s : List Char} (h : IsBlank s) {c : Char} (hc : isBlank c = false) :
    s.count c = 0 := by
  refine List.count_eq_zero.2 fun hm => ?_
  rw [h c hm] at hc
  cases hc

theorem count_addClassWord_le (value name : List Char) (c : Char) :
    (addClassWord value name).count c ≤ value.count c + name.count c + [' '].count c := by
  unfold addClassWord
  split
  · omega
  · split
    · omega
    · rw [List.count_append, ← List.singleton_append, List.count_append]
      omega

theorem splice_append {line value more : List Char} {v : Nat} (hline : line.drop v = value ++ more)
    (new : List Char) : splice line v (v + value.length) new = line.take v ++ (new ++ more) := by
  rw [splice, ← List.drop_drop, hline, List.drop_left, List.append_assoc]

/-- The text of a class attribute stands in the line between two quotes. -/
theorem exists_head_of_text {line value : List Char} {first stop m k : Nat}
    (htext : firstIn classTextAt line first stop = some (m, value, k)) :
    ∃ head q more, IsTextHead head q ∧ k = head.length ∧
      line.drop m = head ++ (value ++ q :: more) := by
  obtain ⟨-, -, prev, hat⟩ := firstIn_spec htext
  obtain ⟨-, head, q, r, hhead, hline, -, -, hk⟩ := classTextAt_eq_some_iff.1 hat
  have hpre : (line.take stop).drop m <+: line.drop m := by
    rw [List.drop_take]
    exact List.take_prefix _ _
  obtain ⟨more, hmore⟩ := hpre
  refine ⟨head, q, r ++ more, hhead, hk, ?_⟩
  rw [← hmore, hline]
  simp

theorem exists_drop_of_text {line value : List Char} {first stop m k : Nat}
    (htext : firstIn classTextAt line first stop = some (m, value, k)) :
    ∃ more, line.drop (m + k) = value ++ more := by
  obtain ⟨head, q, more, -, rfl, hline⟩ := exists_head_of_text htext
  exact ⟨q :: more, by rw [← List.drop_drop, hline, List.drop_left]⟩

theorem addClassToExpression_eq (expr name : List Char) : addClassToExpression expr name =
    "className=\x7b\x60$\x7b".toList ++
      (expr ++ ("\x7d ".toList ++ (name ++ "\x60\x7d".toList))) := by
  delta addClassToExpression
  simp only [List.append_assoc]

/-- A line with a class behind an expression has one opening brace more than that. -/
theorem IsExpression.count {line a b d e : List Char} {n offset close : Nat}
    (h : IsExpression line n offset close a b d e) (name : List Char) :
    (splice line n (close + 1)
        (addClassToExpression (expressionIn line (n + offset) close) name)).count '\x7b' =
      line.count '\x7b' + name.count '\x7b' + 1 := by
  obtain ⟨ha, hb, hd, he⟩ := h.blank
  have hblank : isBlank '\x7b' = false := by decide
  have hold (expr post : List Char) : ("className".toList ++ (a ++ '=' :: (b ++ '\x7b' ::
      (d ++ (expr ++ (e ++ '\x7d' :: post)))))).count '\x7b' =
        expr.count '\x7b' + post.count '\x7b' + 1 := by
    simp [ha.count_eq_zero hblank, hb.count_eq_zero hblank,
      hd.count_eq_zero hblank, he.count_eq_zero hblank]
  have hnew (expr : List Char) : (addClassToExpression expr name).count '\x7b' =
      expr.count '\x7b' + name.count '\x7b' + 2 := by
    have hopen : "className=\x7b\x60$\x7b".toList.count '\x7b' = 2 := by decide
    have hmiddle : "\x7d ".toList.count '\x7b' = 0 := by decide
    have hclose : "\x60\x7d".toList.count '\x7b' = 0 := by decide
    rw [addClassToExpression_eq, List.count_append, List.count_append, List.count_append,
      List.count_append, hopen, hmiddle, hclose]
    omega
  have hcount := congrArg (List.count '\x7b') (List.take_append_drop n line)
  rw [h.text, List.count_append, hold] at hcount
  rw [splice, List.count_append, List.count_append, hnew]
  omega

theorem exists_unlines_set {ls : List (List Char)} {row : Nat} (h : row < ls.length) :
    ∃ pre post, ∀ line, unlines (ls.set row line) = pre ++ (line ++ post) := by
  induction ls generalizing row with
  | nil => cases h
  | cons l ls ih =>
    cases row with
    | zero =>
      cases ls with
      | nil => exact ⟨[], [], fun line => by simp [unlines, List.intercalate]⟩
      | cons l' ls =>
        refine ⟨[], '\n' :: unlines (l' :: ls), fun line => ?_⟩
        rw [List.set_cons_zero, unlines, List.intercalate_cons_cons]
        simp [unlines]
    | succ row =>
      have hrow : row < ls.length := by simpa using h
      obtain ⟨pre, post, hset⟩ := ih hrow
      refine ⟨l ++ '\n' :: pre, post, fun line => ?_⟩
      obtain ⟨l', ls', hne⟩ : ∃ l' ls', ls.set row line = l' :: ls' := by
        cases hls : ls.set row line with
        | nil =>
          rw [List.set_eq_nil_iff] at hls
          simp [hls] at h
        | cons l' ls' => exact ⟨l', ls', rfl⟩
      have hrest := hset line
      rw [hne, unlines] at hrest
      rw [List.set_cons_succ, hne, unlines, List.intercalate_cons_cons, hrest]
      simp

theorem unlines_set_inj {ls : List (List Char)} {row : Nat} (h : row < ls.length)
    {line line' : List Char} :
    unlines (ls.set row line) = unlines (ls.set row line') ↔ line = line' := by
  obtain ⟨pre, post, hset⟩ := exists_unlines_set h
  rw [hset, hset, List.append_cancel_left_eq, List.append_cancel_right_eq]

/-! ### Whether the class is attached -/

/-- Whether a token may end beside this character. -/
def delimits : Option Char → Bool
  | none => true
  | some c => isBlank c || isQuote c

/-- Whether the class stands in the expression as a token, between blanks, quotes and the ends. -/
def HasToken (name expr : List Char) : Prop :=
  ∃ n < expr.length + 1, name <+: expr.drop n ∧ delimits (expr.take n).getLast? ∧
    delimits (expr.drop (n + name.length)).head?

instance (name expr : List Char) : Decidable (HasToken name expr) :=
  inferInstanceAs (Decidable (∃ n < expr.length + 1, _))

theorem HasToken.occursIn {name expr : List Char} (h : HasToken name expr) :
    occursIn name expr = true := by
  obtain ⟨n, -, hname, -⟩ := h
  exact occursIn_iff.2 (hname.isInfix.trans (List.drop_suffix n expr).isInfix)

/-- The first expression for classes in a stretch, from its name at `n` to its brace at `close`. -/
structure HasExpression (p : Place) (s : Span) (n offset close : Nat) (expr : List Char) :
    Prop where
  found : firstIn classExpressionAt (p.lines.getD s.row []) s.first s.stop = some (n, offset)
  closed : closingAt '\x7d' (p.lines.getD s.row []) (n + offset) = some close
  text : expressionIn (p.lines.getD s.row []) (n + offset) close = expr

/-- Whether an edit keeps what the expression means: nothing is changed, and the class is a token of
the expression, or the class is put behind the whole expression. -/
def Place.KeepsExpression (p : Place) (s : Span) (n close : Nat) (expr name out : List Char) :
    Prop :=
  out = unlines p.lines ∧ HasToken name expr ∨
    out = p.replaced s n (close + 1 - n) (addClassToExpression expr name)

instance (p : Place) (s : Span) (n close : Nat) (expr name out : List Char) :
    Decidable (p.KeepsExpression s n close expr name out) :=
  inferInstanceAs (Decidable (_ ∨ _))

/-- Whether what is found lets an edit keep the expression: a text there need not change, and the
class is a token of the expression; or there is no text, and the class is a token of the expression
as soon as its letters occur there. -/
def ClassAttribute.Spares (found : ClassAttribute) (expr name : List Char) : Prop :=
  match found with
  | .text _ _ value => addClassWord value name = value ∧ HasToken name expr
  | .expression _ _ => (occursIn name expr = true ↔ HasToken name expr)

section

variable {content : List Char} {c : Change} {line : Int} {p : Place} {s : Span}
  {n offset close : Nat} {expr : List Char}

/-- A content with another text in a class attribute is the old one only if the text is. -/
theorem replaced_eq_unlines_iff (hrow : s.row < p.lines.length) {m k : Nat} {value : List Char}
    (htext : firstIn classTextAt (p.lines.getD s.row []) s.first s.stop = some (m, value, k))
    (new : List Char) :
    p.replaced s (m + k) value.length new = unlines p.lines ↔ new = value := by
  obtain ⟨more, hmore⟩ := exists_drop_of_text htext
  have hold : unlines p.lines = unlines (p.lines.set s.row
      ((p.lines.getD s.row []).take (m + k) ++ (value ++ more))) := by
    rw [← hmore, List.take_append_drop, set_getD_self]
  rw [hold, Place.replaced, splice_append hmore, unlines_set_inj hrow, List.append_cancel_left_eq,
    List.append_cancel_right_eq]

/-- A line that has no more opening braces than before and in the class has no class behind the
expression. -/
theorem HasExpression.ne_replaced (h : HasExpression p s n offset close expr)
    (hrow : s.row < p.lines.length) (name : List Char) {other : List Char}
    (hcount : other.count '\x7b' ≤ (p.lines.getD s.row []).count '\x7b' + name.count '\x7b') :
    unlines (p.lines.set s.row other) ≠
      p.replaced s n (close + 1 - n) (addClassToExpression expr name) := by
  obtain ⟨a, b, d, e, hshape⟩ := exists_isExpression h.found h.closed
  have hmore := hshape.count name
  rw [p.replaced_expression h.closed, Ne, unlines_set_inj hrow, ← h.text]
  rintro rfl
  omega

theorem HasExpression.unlines_ne_replaced (h : HasExpression p s n offset close expr)
    (hrow : s.row < p.lines.length) (name : List Char) :
    unlines p.lines ≠ p.replaced s n (close + 1 - n) (addClassToExpression expr name) := by
  have hcount := Nat.le_add_right ((p.lines.getD s.row []).count '\x7b') (name.count '\x7b')
  have hne := h.ne_replaced hrow name hcount
  rwa [set_getD_self] at hne

/-- A class in a text keeps the expression only if nothing changes. -/
theorem HasExpression.keeps_text_iff (h : HasExpression p s n offset close expr)
    (hrow : s.row < p.lines.length) {m k : Nat} {value : List Char}
    (htext : firstIn classTextAt (p.lines.getD s.row []) s.first s.stop = some (m, value, k))
    (name : List Char) :
    p.KeepsExpression s n close expr name
        (p.replaced s (m + k) value.length (addClassWord value name)) ↔
      addClassWord value name = value ∧ HasToken name expr := by
  obtain ⟨more, hmore⟩ := exists_drop_of_text htext
  have hcount : (splice (p.lines.getD s.row []) (m + k) (m + k + value.length)
      (addClassWord value name)).count '\x7b' ≤
        (p.lines.getD s.row []).count '\x7b' + name.count '\x7b' := by
    have hcount := congrArg (List.count '\x7b')
      (List.take_append_drop (m + k) (p.lines.getD s.row []))
    have hword := count_addClassWord_le value name '\x7b'
    have hspace : [' '].count '\x7b' = 0 := by decide
    rw [hmore, List.count_append, List.count_append] at hcount
    rw [splice_append hmore, List.count_append, List.count_append]
    omega
  have hne := h.ne_replaced hrow name hcount
  rw [Place.KeepsExpression, replaced_eq_unlines_iff hrow htext]
  exact or_iff_left hne

/-! ### When a text is found at an expression -/

theorem openingQuote?_brace {a b rest : List Char} (ha : IsBlank a) (hb : IsBlank b) :
    openingQuote? (a ++ '=' :: (b ++ '\x7b' :: rest)) =
      match skipBlanks rest with
      | q :: value => if isQuote q then some (q, value) else none
      | [] => none := by
  have hhead : ∀ c, ('\x7b' :: rest).head? = some c → isBlank c = false := by
    rintro c ⟨⟩
    decide
  rw [openingQuote?, afterEquals?_eq_some_iff.2 ⟨a, b, ha, hb, rfl, hhead⟩]
  rfl

theorem IsExpression.behind_name {line a b d e : List Char} {n offset close : Nat}
    (h : IsExpression line n offset close a b d e) : line.drop (n + offset) = '\x7b' ::
      (d ++ (expressionIn line (n + offset) close ++ (e ++ '\x7d' :: line.drop (close + 1)))) := by
  have htext : line.drop n = ("className".toList ++ (a ++ '=' :: b)) ++ '\x7b' :: (d ++
      (expressionIn line (n + offset) close ++ (e ++ '\x7d' :: line.drop (close + 1)))) := by
    conv_lhs => rw [h.text]
    simp
  rw [← List.drop_drop, htext, h.length, ← length_className, List.drop_left]

/-- The braces of an expression close behind every quote in it that opens first. -/
theorem IsExpression.mem_of_quote {line a b d e more : List Char} {n offset close : Nat} {q : Char}
    (h : IsExpression line n offset close a b d e)
    (hclose : closingAt '\x7d' line (n + offset) = some close)
    (hexpr : expressionIn line (n + offset) close = q :: more) (hq : isQuote q = true) :
    q ∈ more := by
  obtain ⟨ha, hb, hd, he⟩ := h.blank
  by_contra hnot
  have hbrace : line.drop (n + offset) =
      ('\x7b' :: (d ++ (q :: more ++ e))) ++ '\x7d' :: line.drop (close + 1) := by
    rw [h.behind_name, hexpr]
    simp
  obtain ⟨k, hk, rfl⟩ := Option.map_eq_some_iff.1 hclose
  have hlt := Scan.closing_lt hk
  have htake : (line.drop (n + offset)).take k = '\x7b' :: (d ++ (q :: more ++ e)) := by
    have hlength := congrArg List.length hbrace
    rw [List.length_append, List.length_cons, List.length_drop, List.length_cons,
      List.length_drop] at hlength
    rw [List.length_drop] at hlt
    rw [hbrace]
    exact List.take_left' (by rw [List.length_cons]; omega)
  have hends := Scan.ends_of_closing hk
  rw [htake] at hends
  have hnone : (Scan.start.run ('\x7b' :: (d ++ (q :: more ++ e)))).quote = none := by
    simp only [Scan.ends, Bool.and_eq_true, Option.isNone_iff_eq_none] at hends
    exact hends.1.1.1.1
  have hsome : (Scan.start.run ('\x7b' :: (d ++ (q :: more ++ e)))).quote = some q := by
    have hopen : Scan.start.run ('\x7b' :: d) = ⟨none, false, 1⟩ := Scan.run_of_blank rfl hd
    have hrest : q ∉ more ++ e := by
      rw [List.mem_append, not_or]
      refine ⟨hnot, fun hm => ?_⟩
      rw [isQuote_eq_false_of_blank (he q hm)] at hq
      cases hq
    have hsplit : '\x7b' :: (d ++ (q :: more ++ e)) = ('\x7b' :: d) ++ ([q] ++ (more ++ e)) := by
      simp
    rw [hsplit, Scan.run_append, hopen, Scan.run_append]
    exact Scan.quote_run (by simp [Scan.run, Scan.step, hq]) hrest
  rw [hnone] at hsome
  cases hsome

theorem IsExpression.take {line a b d e : List Char} {n offset close stop : Nat}
    (h : IsExpression line n offset close a b d e)
    (hclose : closingAt '\x7d' line (n + offset) = some close) (hstop : close < stop) :
    ∃ post, (line.take stop).drop n = "className".toList ++ (a ++ '=' ::
      (b ++ '\x7b' :: (d ++ (expressionIn line (n + offset) close ++ (e ++ '\x7d' :: post))))) := by
  have hwhole : line.drop n = ("className".toList ++ (a ++ '=' :: (b ++ '\x7b' ::
      (d ++ (expressionIn line (n + offset) close ++ (e ++ ['\x7d'])))))) ++
        line.drop (close + 1) := by
    conv_lhs => rw [h.text]
    simp
  obtain ⟨front, hfront⟩ : ∃ front, "className".toList ++ (a ++ '=' :: (b ++ '\x7b' ::
      (d ++ (expressionIn line (n + offset) close ++ (e ++ ['\x7d']))))) = front := ⟨_, rfl⟩
  rw [hfront] at hwhole
  have hlong : front.length ≤ stop - n := by
    have hlength := congrArg List.length hwhole
    rw [List.length_append, List.length_drop, List.length_drop] at hlength
    have hin := (List.getElem?_eq_some_iff.1 (closingAt_spec hclose).2).1
    omega
  refine ⟨(line.drop (close + 1)).take (stop - n - front.length), ?_⟩
  rw [List.drop_take, hwhole, List.take_append, List.take_of_length_le hlong, ← hfront]
  simp

/-- A text that is found at the name of an expression begins that. -/
theorem IsExpression.head_of_hit {line a b d e : List Char} {n offset close stop : Nat}
    (h : IsExpression line n offset close a b d e)
    (hclose : closingAt '\x7d' line (n + offset) = some close) (hstop : close < stop)
    {found : List Char × Nat} (hhit : hitAt classTextAt (line.take stop) n = some found) :
    ∃ q, (expressionIn line (n + offset) close).head? = some q ∧ isQuote q = true := by
  obtain ⟨ha, hb, hd, he⟩ := h.blank
  obtain ⟨post, hpost⟩ := h.take hclose hstop
  obtain ⟨-, head, q, r, hhead, hsplit, -⟩ := classTextAt_eq_some_iff.1 hhit
  have hopen := opening_eq_some_iff.2 ⟨head, hhead, hsplit⟩
  rw [hpost, afterClassName?_append (.inl rfl) ha, Option.bind_some, openingQuote?_brace ha hb,
    skipBlanks_append_of_blank hd] at hopen
  cases hexpr : expressionIn line (n + offset) close with
  | nil =>
    have hbrace : skipBlanks ('\x7d' :: post) = '\x7d' :: post := by
      apply skipBlanks_of_head
      rintro c ⟨⟩
      decide
    rw [hexpr, List.nil_append, skipBlanks_append_of_blank he, hbrace] at hopen
    cases hopen
  | cons x more =>
    have hx : isBlank x = false := by
      obtain ⟨-, -, -, -, -, hfirst, -⟩ := exists_trim ((line.take close).drop (n + offset + 1))
      exact hfirst x (by rw [← expressionIn, hexpr]; rfl)
    have hskip : skipBlanks (x :: more ++ (e ++ '\x7d' :: post)) =
        x :: (more ++ (e ++ '\x7d' :: post)) := by
      apply skipBlanks_of_head
      rintro c ⟨⟩
      exact hx
    rw [hexpr, hskip] at hopen
    by_cases hq : isQuote x = true
    · exact ⟨x, rfl, hq⟩
    · simp [hq] at hopen

/-- An expression that begins with a quote is taken for a text. -/
theorem IsExpression.hit_of_head {line a b d e : List Char} {n offset close stop : Nat}
    (h : IsExpression line n offset close a b d e) (hline : IsOneLine line)
    (hclose : closingAt '\x7d' line (n + offset) = some close) (hstop : close < stop)
    (hprev : nameStarts ((line.take stop).take n).getLast? = true) {q : Char}
    (hhead : (expressionIn line (n + offset) close).head? = some q) (hq : isQuote q = true) :
    ∃ value k, hitAt classTextAt (line.take stop) n = some (value, k) := by
  obtain ⟨ha, hb, hd, -⟩ := h.blank
  obtain ⟨post, hpost⟩ := h.take hclose hstop
  obtain ⟨more, hmore⟩ : ∃ more, expressionIn line (n + offset) close = q :: more :=
    List.head?_eq_some_iff.1 hhead
  obtain ⟨value, rest, hsplit, hnot⟩ :=
    List.eq_append_cons_of_mem (h.mem_of_quote hclose hmore hq)
  have hone : IsOneLine value := by
    have hexpr : IsOneLine (expressionIn line (n + offset) close) :=
      ((hline.take close).drop (n + offset + 1)).of_subset (trim_sublist _).subset
    rw [hmore, hsplit] at hexpr
    exact hexpr.of_subset (by simp)
  have hopens : IsTextHead ("className".toList ++ (a ++ '=' :: (b ++ (('\x7b' :: d) ++ [q])))) q :=
    .mk (.inl rfl) ha hb (.inr ⟨d, hd, rfl⟩) hq
  refine ⟨value, _, classTextAt_eq_some_iff.2 ⟨hprev, _, q, rest ++ (e ++ '\x7d' :: post), hopens,
    ?_, hnot, hone, rfl⟩⟩
  rw [hpost, hmore, hsplit]
  simp

theorem classIn_of_expression {line : List Char}
    (hexpr : firstIn classExpressionAt line s.first s.stop = some (n, offset)) :
    classIn line s = match firstIn classTextAt line s.first s.stop with
      | some (m, value, k) => some (.text m k value)
      | none => some (.expression n offset) := by
  unfold classIn
  rw [hexpr]
  rfl

/-- An edit of a tag with an expression for classes keeps what that means exactly if what is found
in the tag lets it. A text goes before an expression, and one is found in particular if the
expression begins with a quote, whatever follows. -/
theorem applyClass_keepsExpression_iff (hplace : locate content c line = .ok p)
    {found : ClassAttribute} (hfound : p.classAttribute? = some (s, found))
    (h : HasExpression p s n offset close expr) :
    (∀ name, ∃ out, applyClass content c line name = .ok out ∧
      (p.KeepsExpression s n close expr name out ↔ found.Spares expr name)) ∧
    ((∃ m k value, found = .text m k value) ↔
      ¬ HasNoHit classTextAt ((p.lines.getD s.row []).take s.stop) s.first) ∧
    (close < s.stop →
      ((hitAt classTextAt ((p.lines.getD s.row []).take s.stop) n).isSome = true ↔
        ∃ q, expr.head? = some q ∧ isQuote q = true)) := by
  obtain ⟨before, after, hspans, hclass, -⟩ := Place.classAttribute?_eq_some_iff.1 hfound
  have hp := locate_isOn hplace
  have hmem : s ∈ tagSpans p.lines p.row p.start := hspans ▸ List.mem_append_cons_self
  have hrow := (mem_tagSpans hp.there hp.start_lt hmem).2.2.1
  obtain ⟨hstop, hfirst⟩ := stretch_le hp.there hp.start_lt hmem
  rw [classIn_of_expression h.found] at hclass
  refine ⟨fun name => ?_, ?_, fun hin => ?_⟩
  · cases htext : firstIn classTextAt (p.lines.getD s.row []) s.first s.stop with
    | some x =>
      obtain ⟨m, value, k⟩ := x
      rw [htext] at hclass
      obtain rfl := Option.some.inj hclass
      exact ⟨_, applyClass_of_text hplace hfound name, h.keeps_text_iff hrow htext name⟩
    | none =>
      rw [htext] at hclass
      obtain rfl := Option.some.inj hclass
      refine ⟨_, applyClass_of_expression hplace hfound h.closed name, ?_⟩
      rw [h.text, Place.KeepsExpression, unlines_lines_of_locate hplace, ClassAttribute.Spares]
      by_cases hoccurs : occursIn name expr = true
      · have hne := h.unlines_ne_replaced hrow name
        rw [unlines_lines_of_locate hplace] at hne
        rw [if_pos hoccurs, or_iff_left hne, eq_true hoccurs]
        simp
      · have hno : ¬ HasToken name expr := fun ht => hoccurs ht.occursIn
        rw [if_neg hoccurs]
        exact iff_of_true (.inr rfl) (iff_of_false hoccurs hno)
  · rw [← firstIn_eq_none_iff classTextAt_needsText hstop hfirst]
    cases htext : firstIn classTextAt (p.lines.getD s.row []) s.first s.stop with
    | some x =>
      rw [htext] at hclass
      obtain rfl := Option.some.inj hclass
      simp
    | none =>
      rw [htext] at hclass
      obtain rfl := Option.some.inj hclass
      simp
  · obtain ⟨a, b, d, e, hshape⟩ := exists_isExpression h.found h.closed
    have hhit := ((firstIn_eq_some_iff classExpressionAt_needsText hstop hfirst).1 h.found).hit
    have hprev := (classExpressionAt_eq_some_iff.1 hhit).1
    rw [← h.text, Option.isSome_iff_exists]
    constructor
    · rintro ⟨text, htext⟩
      exact hshape.head_of_hit h.closed hin htext
    · rintro ⟨q, hhead, hq⟩
      obtain ⟨value, k, htext⟩ :=
        hshape.hit_of_head (hp.isOneLine s.row) h.closed hin hprev hhead hq
      exact ⟨(value, k), htext⟩

end

/-- A tag whose class is one of two, as an expression. -/
def switchedClass : List Char := "<div className=\x7bon ? 'a' : 'b'\x7d>".toList

def switchedPlace : Place := ⟨[switchedClass], 0, 0, "div".toList⟩

theorem applyClass_keepsExpression_iff_switched :
    locate switchedClass redDiv 1 = .ok switchedPlace ∧
    switchedPlace.classAttribute? = some (⟨0, 0, 31⟩, .expression 5 10) ∧
    HasExpression switchedPlace ⟨0, 0, 31⟩ 5 10 30 "on ? 'a' : 'b'".toList ∧
    ∃ out, applyClass switchedClass redDiv 1 "c".toList = .ok out ∧
      switchedPlace.KeepsExpression ⟨0, 0, 31⟩ 5 30 "on ? 'a' : 'b'".toList "c".toList out := by
  have hplace : locate switchedClass redDiv 1 = .ok switchedPlace := by decide +kernel
  have hfound : switchedPlace.classAttribute? = some (⟨0, 0, 31⟩, .expression 5 10) := by
    decide +kernel
  have hexpr : HasExpression switchedPlace ⟨0, 0, 31⟩ 5 10 30 "on ? 'a' : 'b'".toList :=
    ⟨by decide +kernel, by decide +kernel, by decide +kernel⟩
  have hspares : (ClassAttribute.expression 5 10).Spares "on ? 'a' : 'b'".toList "c".toList :=
    iff_of_false (by decide +kernel) (by decide +kernel)
  obtain ⟨out, hout, hiff⟩ := (applyClass_keepsExpression_iff hplace hfound hexpr).1 "c".toList
  exact ⟨hplace, hfound, hexpr, out, hout, hiff.2 hspares⟩

/-- Two expressions that are no texts in quotes, and what becomes of them. A text that begins the
first one gets the class, and what is joined to it stays behind; the other one stays as it is, for a
class in it begins with the letters of the class. -/
theorem applyClass_edits_expression :
    let joined := "<div className=\x7b'a' + b\x7d>".toList
    let longer := "<div className=\x7bon ? 'c1' : b\x7d>".toList
    (HasExpression ⟨[joined], 0, 0, "div".toList⟩ ⟨0, 0, 24⟩ 5 10 23 "'a' + b".toList ∧
      ¬ IsText "'a' + b".toList ∧ locate joined redDiv 1 = .ok ⟨[joined], 0, 0, "div".toList⟩ ∧
      applyClass joined redDiv 1 "c".toList = .ok "<div className=\x7b'a c' + b\x7d>".toList ∧
      ¬ Place.KeepsExpression ⟨[joined], 0, 0, "div".toList⟩ ⟨0, 0, 24⟩ 5 23 "'a' + b".toList
        "c".toList "<div className=\x7b'a c' + b\x7d>".toList) ∧
    (HasExpression ⟨[longer], 0, 0, "div".toList⟩ ⟨0, 0, 30⟩ 5 10 29 "on ? 'c1' : b".toList ∧
      ¬ IsText "on ? 'c1' : b".toList ∧
      locate longer redDiv 1 = .ok ⟨[longer], 0, 0, "div".toList⟩ ∧
      applyClass longer redDiv 1 "c".toList = .ok longer ∧
      ¬ Place.KeepsExpression ⟨[longer], 0, 0, "div".toList⟩ ⟨0, 0, 30⟩ 5 29
        "on ? 'c1' : b".toList "c".toList longer) := by
  have hbare {text : List Char} (h : (text.getLast?.map isQuote).getD false = false) :
      ¬ IsText text := by
    intro htext
    obtain ⟨q, hlast, hq⟩ := htext.getLast?
    rw [hlast] at h
    exact absurd (hq.symm.trans h) (by decide)
  refine ⟨⟨⟨by decide +kernel, by decide +kernel, by decide +kernel⟩, hbare (by decide),
    by decide +kernel, by decide +kernel, by decide +kernel⟩, ⟨by decide +kernel,
    by decide +kernel, by decide +kernel⟩, hbare (by decide), by decide +kernel,
    by decide +kernel, by decide +kernel⟩

end Restyle.Style
