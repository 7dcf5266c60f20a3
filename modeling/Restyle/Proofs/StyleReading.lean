import Mathlib.Data.List.Basic
import Mathlib.Data.List.TakeDrop
import Mathlib.Data.List.TakeWhile
import Restyle.Style.Apply

/-!
How the entries of a style object are read. Its body is cut into segments by the commas outside of
quotes and brackets. Where a segment is a name with a value that is a text in quotes or has no comma
in it, the reader finds that entry and goes on behind the segment.
-/
namespace Restyle.Style

open Text Markup

/-! ### Segments -/

/-- Brackets of all kinds count as braces. -/
def asBrace (c : Char) : Char :=
  if c == '(' || c == '[' then '\x7b' else if c == ')' || c == ']' then '\x7d' else c

/-- What the scan knows behind a text in which all brackets count. -/
def nesting (s : Markup.Scan) (text : List Char) : Markup.Scan := s.run (text.map asBrace)

/-- Whether a character separates two segments. -/
def separates (s : Markup.Scan) (c : Char) : Bool := s.quote.isNone && decide (s.depth ≤ 0) && c == ','

def segmentsFrom (s : Markup.Scan) (segment : List Char) : List Char → List (List Char)
  | [] => [segment.reverse]
  | c :: rest =>
    if separates s c then segment.reverse :: segmentsFrom .start [] rest
    else segmentsFrom (s.step (asBrace c)) (c :: segment) rest

/-- The stretches of a body between the commas that are outside of quotes and brackets, without
the blank ones. -/
def segments (body : List Char) : List (List Char) :=
  (segmentsFrom .start [] body).filter fun s => !s.all isBlank

/-- What may stand between two quotes: a backslash takes the next character along, and without one
there is no quote. -/
inductive Between (q : Char) : List Char → Prop
  | nil : Between q []
  | plain {c : Char} {w : List Char} (quote : c ≠ q) (backslash : c ≠ '\\') (rest : Between q w) :
      Between q (c :: w)
  | escaped {c : Char} {w : List Char} (feed : c ≠ '\n') (rest : Between q w) :
      Between q ('\\' :: c :: w)

/-- A name, as it is written. -/
inductive IsName : List Char → List Char → Prop
  | word {c : Char} {w : List Char} (first : startsIdentifier c) (rest : w.all isIdentifierPart) :
      IsName (c :: w) (c :: w)
  | quoted {q : Char} {w : List Char} (quote : q = '\'' ∨ q = '"') (between : Between q w)
      (once : q ∉ w) : IsName (q :: w ++ [q]) w

/-- What is read as a name: a word, or whatever stands between two quotes, backslashes too. -/
inductive ReadsName : List Char → List Char → Prop
  | word {c : Char} {w : List Char} (first : startsIdentifier c) (rest : w.all isIdentifierPart) :
      ReadsName (c :: w) (c :: w)
  | quoted {q : Char} {w : List Char} (quote : q = '\'' ∨ q = '"') (once : q ∉ w) :
      ReadsName (q :: w ++ [q]) w

theorem IsName.reads {text name : List Char} (h : IsName text name) : ReadsName text name := by
  cases h with
  | word first rest => exact .word first rest
  | quoted quote between once => exact .quoted quote once

/-- A text in quotes; between grave accents nothing is escaped. -/
inductive IsText : List Char → Prop
  | quoted {q : Char} {w : List Char} (quote : q = '\'' ∨ q = '"') (between : Between q w) :
      IsText (q :: w ++ [q])
  | accents {w : List Char} (once : '\x60' ∉ w) : IsText ('\x60' :: w ++ ['\x60'])

def IsBlank (s : List Char) : Prop := ∀ c ∈ s, isBlank c

/-- Whether a segment is a name, a colon and something behind it, with blanks around each. -/
def Spells (segment : List Char) (e : List Char × List Char) : Prop :=
  ∃ before name between value, IsBlank before ∧ IsName name e.1 ∧ IsBlank between ∧ value ≠ [] ∧
    segment = before ++ (name ++ (between ++ ':' :: value)) ∧ trim value = e.2

/-- A value that the reader does not cut. -/
def IsUncut (value : List Char) : Prop := IsText value ∨ ',' ∉ value

/-! ### Blanks and names -/

/-- The blanks beyond ASCII. -/
def wideBlanks : List (Nat × Nat) :=
  [(0x85, 0x85), (0xA0, 0xA0), (0x1680, 0x1680), (0x2000, 0x200A), (0x2028, 0x2029),
    (0x202F, 0x202F), (0x205F, 0x205F), (0x3000, 0x3000)]

theorem wordRanges_apart :
    wordRanges.toList.all fun r => wideBlanks.all fun b => b.2 < r.1 || r.2 < b.1 := by
  decide +kernel

theorem isBlank_eq_false_of_word {c : Char} (h : isWord c = true) : isBlank c = false := by
  cases hb : isBlank c with
  | false => rfl
  | true =>
    simp only [isBlank, Bool.or_eq_true, Bool.and_eq_true, decide_eq_true_eq, beq_iff_eq] at hb
    rw [isWord] at h
    split at h
    · have hn : c.toNat = c.val.toNat := rfl
      delta Char.isAlphanum Char.isAlpha Char.isUpper Char.isLower Char.isDigit at h
      simp only [Bool.or_eq_true, Bool.and_eq_true, decide_eq_true_eq, UInt32.le_iff_toNat_le,
        beq_iff_eq] at h
      rcases h with h | rfl
      · simp at h
        omega
      · simp at hb
    · have hwide : ∃ b ∈ wideBlanks, b.1 ≤ c.toNat ∧ c.toNat ≤ b.2 := by
        simp only [wideBlanks, List.mem_cons, List.not_mem_nil, or_false, exists_eq_or_imp,
          exists_eq_left]
        omega
      obtain ⟨b, hm, hlow, hhigh⟩ := hwide
      rw [inRanges, ← Array.any_toList, List.any_eq_true] at h
      obtain ⟨r, hr, hin⟩ := h
      have hapart := List.all_eq_true.1 (List.all_eq_true.1 wordRanges_apart r hr) b hm
      simp only [Bool.or_eq_true, Bool.and_eq_true, decide_eq_true_eq] at hin hapart
      omega

theorem isBlank_eq_false_of_part {c : Char} (h : isIdentifierPart c = true) : isBlank c = false := by
  simp only [isIdentifierPart, Bool.or_eq_true, beq_iff_eq] at h
  rcases h with h | rfl
  · exact isBlank_eq_false_of_word h
  · decide

theorem isIdentifierPart_of_starts {c : Char} (h : startsIdentifier c = true) :
    isIdentifierPart c = true := by
  simp only [startsIdentifier, isIdentifierPart, Bool.or_eq_true, beq_iff_eq] at h ⊢
  rcases h with (h | rfl) | h
  · exact .inl (isWord_of_isAlphanum (by simp [Char.isAlphanum, h]))
  · exact .inl (by decide)
  · exact .inr h

theorem skipBlanks_append_of_blank {a s : List Char} (h : IsBlank a) :
    skipBlanks (a ++ s) = skipBlanks s :=
  List.dropWhile_append_of_pos h

theorem skipBlanks_of_head {s : List Char} (h : ∀ c, s.head? = some c → isBlank c = false) :
    skipBlanks s = s := by
  cases s with
  | nil => rfl
  | cons c s => simp [skipBlanks, h c rfl]

theorem isBlank_takeWhile (s : List Char) : IsBlank (s.takeWhile isBlank) :=
  fun c hc => List.all_eq_true.1 List.all_takeWhile c hc

theorem head?_skipBlanks {s : List Char} {c : Char} (h : (skipBlanks s).head? = some c) :
    isBlank c = false := by
  have hd := List.head?_dropWhile_not isBlank s
  unfold skipBlanks at h
  rw [h] at hd
  simpa using hd

/-- A text is what trimming leaves between blanks; that neither starts nor ends with a blank. -/
theorem exists_trim (s : List Char) :
    ∃ a b, IsBlank a ∧ IsBlank b ∧ s = a ++ (trim s ++ b) ∧
      (∀ c, (trim s).head? = some c → isBlank c = false) ∧
      ∀ c, (trim s).getLast? = some c → isBlank c = false := by
  have hs : s.takeWhile isBlank ++ skipBlanks s = s := List.takeWhile_append_dropWhile
  have ht : trim s ++ ((skipBlanks s).reverse.takeWhile isBlank).reverse = skipBlanks s := by
    have h := List.takeWhile_append_dropWhile (p := isBlank) (l := (skipBlanks s).reverse)
    have hr := congrArg List.reverse h
    rwa [List.reverse_append, List.reverse_reverse] at hr
  refine ⟨s.takeWhile isBlank, ((skipBlanks s).reverse.takeWhile isBlank).reverse,
    isBlank_takeWhile s, ?_, by rw [ht, hs], ?_, ?_⟩
  · intro c hc
    exact isBlank_takeWhile _ c (List.mem_reverse.1 hc)
  · intro c hc
    apply head?_skipBlanks (s := s)
    rw [← ht, List.head?_append, hc]
    rfl
  · intro c hc
    rw [trim, trimRight, List.getLast?_reverse] at hc
    exact head?_skipBlanks hc

theorem isQuote_eq_false_of_part {c : Char} (h : isIdentifierPart c = true) : isQuote c = false := by
  cases hq : isQuote c with
  | false => rfl
  | true =>
    simp only [isQuote, Bool.or_eq_true, beq_iff_eq] at hq
    rcases hq with (rfl | rfl) | rfl <;> exact absurd h (by decide)

theorem isQuote_eq_false_of_blank {c : Char} (h : isBlank c = true) : isQuote c = false := by
  cases hq : isQuote c with
  | false => rfl
  | true =>
    simp only [isQuote, Bool.or_eq_true, beq_iff_eq] at hq
    rcases hq with (rfl | rfl) | rfl <;> exact absurd h (by decide)

theorem isBlank_eq_false_of_quote {c : Char} (h : isQuote c = true) : isBlank c = false := by
  cases hb : isBlank c with
  | false => rfl
  | true =>
    rw [isQuote_eq_false_of_blank hb] at h
    cases h

/-! ### The scan over names and texts -/

theorem nesting_append (s : Markup.Scan) (a b : List Char) :
    nesting s (a ++ b) = nesting (nesting s a) b := by
  simp [nesting, Markup.Scan.run_append]

theorem nesting_cons (s : Markup.Scan) (c : Char) (w : List Char) :
    nesting s (c :: w) = nesting (s.step (asBrace c)) w := rfl

/-- A bracket is neither a quote nor a backslash, and neither is the brace it counts as. -/
theorem asBrace_cases {q : Char} (hq : isQuote q = true) (c : Char) :
    asBrace c = c ∨ asBrace c ≠ '\\' ∧ asBrace c ≠ q ∧ c ≠ '\\' ∧ c ≠ q := by
  have hne {b : Char} (hb : isQuote b = false) : b ≠ q := by
    rintro rfl
    rw [hq] at hb
    cases hb
  simp only [asBrace, Bool.or_eq_true, beq_iff_eq]
  split
  · next h =>
    rcases h with rfl | rfl <;>
      exact .inr ⟨by decide, hne (by decide), by decide, hne (by decide)⟩
  · split
    · next h =>
      rcases h with rfl | rfl <;>
        exact .inr ⟨by decide, hne (by decide), by decide, hne (by decide)⟩
    · exact .inl rfl

theorem step_in_quotes {q : Char} (hq : isQuote q = true) (escaped : Bool) (d : Int) (c : Char) :
    (Markup.Scan.mk (some q) escaped d).step (asBrace c) =
      if escaped then ⟨some q, false, d⟩ else if c = '\\' then ⟨some q, true, d⟩
      else if c = q then ⟨none, false, d⟩ else ⟨some q, false, d⟩ := by
  cases escaped with
  | true => rfl
  | false =>
    rcases asBrace_cases hq c with h | ⟨h₁, h₂, h₃, h₄⟩
    · simp [Markup.Scan.step, h]
    · simp [Markup.Scan.step, h₁, h₂, h₃, h₄]

/-- Between quotes the scan stays in them, and behind them it is as it was. -/
theorem Between.nesting_eq {q : Char} {w : List Char} (h : Between q w) (hq : isQuote q = true)
    (d : Int) : nesting ⟨some q, false, d⟩ w = ⟨some q, false, d⟩ := by
  induction h with
  | nil => rfl
  | plain quote backslash rest ih =>
    rw [nesting_cons, step_in_quotes hq]
    simpa [quote, backslash] using ih
  | escaped feed rest ih =>
    rw [nesting_cons, step_in_quotes hq, nesting_cons]
    simpa [step_in_quotes hq] using ih

theorem Between.quote_of_prefix {q : Char} {w : List Char} (h : Between q w)
    (hq : isQuote q = true) (d : Int) {a b : List Char} (hw : a ++ b = w) :
    (nesting ⟨some q, false, d⟩ a).quote = some q := by
  induction h generalizing a with
  | nil =>
    rw [List.append_eq_nil_iff.1 hw |>.1]
    rfl
  | plain quote backslash rest ih =>
    cases a with
    | nil => rfl
    | cons x a =>
      rw [List.cons_append, List.cons.injEq] at hw
      obtain ⟨rfl, hw⟩ := hw
      rw [nesting_cons, step_in_quotes hq]
      simpa [quote, backslash] using ih hw
  | escaped feed rest ih =>
    match a, hw with
    | [], _ => rfl
    | [x], hw =>
      obtain ⟨rfl, -⟩ := List.cons.injEq .. ▸ hw
      rw [nesting_cons, step_in_quotes hq]
      rfl
    | x :: y :: a, hw =>
      simp only [List.cons_append, List.cons.injEq] at hw
      obtain ⟨rfl, rfl, hrest⟩ := hw
      rw [nesting_cons, step_in_quotes hq, nesting_cons]
      simpa [step_in_quotes hq] using ih hrest

theorem quote_of_notMem {q : Char} {w : List Char} (h : q ∉ w) (hq : isQuote q = true)
    (escaped : Bool) (d : Int) : (nesting ⟨some q, escaped, d⟩ w).quote = some q := by
  induction w generalizing escaped with
  | nil => rfl
  | cons c w ih =>
    rw [List.mem_cons, not_or] at h
    have hc : ¬c = q := fun e => h.1 e.symm
    rw [nesting_cons, step_in_quotes hq, if_neg hc]
    split
    · exact ih h.2 _
    · split <;> exact ih h.2 _

/-- Without quotes the scan stays out of them. -/
theorem nesting_of_unquoted {w : List Char} (h : ∀ c ∈ w, isQuote c = false) (d : Int) :
    ∃ d', nesting ⟨none, false, d⟩ w = ⟨none, false, d'⟩ := by
  induction w generalizing d with
  | nil => exact ⟨d, rfl⟩
  | cons c w ih =>
    have hc : isQuote (asBrace c) = false := by
      unfold asBrace
      split
      · decide
      · split
        · decide
        · exact h c List.mem_cons_self
    have hw : ∀ c ∈ w, isQuote c = false := fun c hc => h c (List.mem_cons_of_mem _ hc)
    have hstep : ∃ d', (Markup.Scan.mk none false d).step (asBrace c) = ⟨none, false, d'⟩ := by
      simp only [Markup.Scan.step, hc, Bool.false_eq_true, if_false]
      split
      · exact ⟨_, rfl⟩
      · split <;> exact ⟨_, rfl⟩
    obtain ⟨d', hd'⟩ := hstep
    obtain ⟨d'', hd''⟩ := ih hw d'
    exact ⟨d'', by rw [nesting_cons, hd', hd'']⟩

theorem step_open {q : Char} (hq : isQuote q = true) (d : Int) :
    (Markup.Scan.mk none false d).step (asBrace q) = ⟨some q, false, d⟩ := by
  rcases asBrace_cases hq q with h | ⟨-, -, -, h⟩
  · simp [Markup.Scan.step, h, hq]
  · exact absurd rfl h

theorem isQuote_of_or {q : Char} (h : q = '\'' ∨ q = '"') : isQuote q = true := by
  rcases h with rfl | rfl <;> rfl

/-- Inside a text the scan is in quotes. -/
theorem IsText.isSome_quote {text a b : List Char} (h : IsText text) (hab : a ++ b = text)
    (ha : a ≠ []) (hb : b ≠ []) (d : Int) : (nesting ⟨none, false, d⟩ a).quote.isSome = true := by
  obtain ⟨c, a, rfl⟩ := List.exists_cons_of_ne_nil ha
  obtain ⟨b, z, rfl⟩ := List.eq_nil_or_concat b |>.resolve_left hb
  rw [List.concat_eq_append, ← List.append_assoc] at hab
  cases h with
  | @quoted q w quote between =>
    rw [List.cons_append] at hab
    have hq := isQuote_of_or quote
    obtain ⟨hw, -⟩ := List.append_inj' hab rfl
    obtain ⟨rfl, hrest⟩ := List.cons.inj hw
    rw [nesting_cons, step_open hq, between.quote_of_prefix hq d hrest]
    rfl
  | @accents w once =>
    rw [List.cons_append] at hab
    obtain ⟨hw, -⟩ := List.append_inj' hab rfl
    obtain ⟨rfl, rfl⟩ := List.cons.inj hw
    have ha : '\x60' ∉ a := fun h => once (List.mem_append_left _ h)
    rw [nesting_cons, step_open (by decide), quote_of_notMem ha (by decide)]
    rfl

/-- Behind a name the scan is out of quotes. -/
theorem IsName.nesting_eq {text name : List Char} (h : IsName text name) (d : Int) :
    ∃ d', nesting ⟨none, false, d⟩ text = ⟨none, false, d'⟩ := by
  cases h with
  | @word c w first rest =>
    apply nesting_of_unquoted
    intro x hx
    rcases List.mem_cons.1 hx with rfl | hx
    · exact isQuote_eq_false_of_part (isIdentifierPart_of_starts first)
    · exact isQuote_eq_false_of_part (List.all_eq_true.1 rest x hx)
  | @quoted q w quote between once =>
    have hq := isQuote_of_or quote
    have hbackslash : q ≠ '\\' := by
      rcases quote with rfl | rfl <;> decide
    refine ⟨d, ?_⟩
    rw [List.cons_append, nesting_cons, step_open hq, nesting_append, between.nesting_eq hq,
      nesting_cons, step_in_quotes hq]
    simp [hbackslash, nesting, Markup.Scan.run]

/-! ### Names and texts are read back -/

theorem untilQuote_append {q : Char} {w : List Char} (h : q ∉ w) (y : List Char) :
    untilQuote q (w ++ q :: y) = some (w, y) := by
  have hw : ∀ c ∈ w, (c != q) = true := by
    intro c hc
    have hne : c ≠ q := fun e => h (e ▸ hc)
    simpa using hne
  simp [untilQuote, List.span_eq_takeWhile_dropWhile, List.takeWhile_append_of_pos hw,
    List.dropWhile_append_of_pos hw]

theorem untilQuote_eq_some {q : Char} {s w r : List Char} (h : untilQuote q s = some (w, r)) :
    q ∉ w ∧ s = w ++ q :: r := by
  have hs := List.takeWhile_append_dropWhile (p := (· != q)) (l := s)
  rw [untilQuote, List.span_eq_takeWhile_dropWhile] at h
  cases hd : s.dropWhile (· != q) with
  | nil => simp [hd] at h
  | cons c rest =>
    simp only [hd, Option.some.injEq, Prod.mk.injEq] at h
    obtain ⟨rfl, rfl⟩ := h
    have hc := List.head?_dropWhile_not (· != q) s
    rw [hd] at hc
    obtain rfl : c = q := by simpa using hc
    refine ⟨?_, by rw [← hd, hs]⟩
    intro hm
    have hne := List.all_eq_true.1 (List.all_takeWhile (p := (· != c)) (l := s)) c hm
    simp at hne

theorem nameAt_append {text name y : List Char} (h : ReadsName text name)
    (hy : ∀ c, y.head? = some c → isIdentifierPart c = false) :
    nameAt (text ++ y) = some (name, y) := by
  cases h with
  | @word c w first rest =>
    have hw : ∀ c ∈ w, isIdentifierPart c = true := List.all_eq_true.1 rest
    have hend : y.takeWhile isIdentifierPart = [] ∧ y.dropWhile isIdentifierPart = y := by
      cases y with
      | nil => exact ⟨rfl, rfl⟩
      | cons x y => simp [hy x rfl]
    simp [nameAt, first, List.span_eq_takeWhile_dropWhile, List.takeWhile_append_of_pos hw,
      List.dropWhile_append_of_pos hw, hend.1, hend.2]
  | @quoted q w quote once =>
    have hstart : startsIdentifier q = false := by
      rcases quote with rfl | rfl <;> decide
    simp only [List.cons_append, List.append_assoc, List.nil_append, nameAt, hstart,
      Bool.false_eq_true, if_false]
    rw [if_pos (by simpa using quote), untilQuote_append once]

theorem closeText_append {q : Char} {w : List Char} (h : Between q w) (hq : q ≠ '\\')
    (y : List Char) : closeText q (w ++ q :: y) = some (w ++ [q], y) := by
  induction h with
  | nil =>
    rw [List.nil_append, closeText]
    · simp
    · intro _ _ he
      exact absurd he hq
  | plain quote backslash rest ih =>
    rw [List.cons_append, closeText]
    · simp [quote, backslash, ih]
    · intro _ _ he
      exact absurd he backslash
  | escaped feed rest ih => simp [closeText, feed, ih]

theorem closeText_eq_some {q : Char} {s t r : List Char} (h : closeText q s = some (t, r)) :
    ∃ w, Between q w ∧ t = w ++ [q] ∧ s = w ++ q :: r := by
  fun_induction closeText q s generalizing t r with
  | case1 => cases h
  | case2 => cases h
  | case3 c rest feed ih =>
    obtain ⟨⟨v, r'⟩, hv, he⟩ := Option.map_eq_some_iff.1 h
    obtain ⟨rfl, rfl⟩ := Prod.mk.inj he
    obtain ⟨w, hw, rfl, rfl⟩ := ih hv
    exact ⟨'\\' :: c :: w, .escaped (by simpa using feed) hw, rfl, rfl⟩
  | case4 c rest _ hc =>
    obtain ⟨rfl, rfl⟩ := Prod.mk.inj (Option.some.inj h)
    obtain rfl := eq_of_beq hc
    exact ⟨[], .nil, rfl, rfl⟩
  | case5 => cases h
  | case6 c rest _ hc hbackslash ih =>
    obtain ⟨⟨v, r'⟩, hv, he⟩ := Option.map_eq_some_iff.1 h
    obtain ⟨rfl, rfl⟩ := Prod.mk.inj he
    obtain ⟨w, hw, rfl, rfl⟩ := ih hv
    exact ⟨c :: w, .plain (by simpa using hc) (by simpa using hbackslash) hw, rfl, rfl⟩

/-- The reader finds a text in quotes exactly where one stands. -/
theorem textAt_eq_some_iff {s t r : List Char} :
    textAt s = some (t, r) ↔ IsText t ∧ s = t ++ r := by
  constructor
  · intro h
    cases s with
    | nil => cases h
    | cons c s =>
      simp only [textAt, Bool.or_eq_true, beq_iff_eq] at h
      split at h
      · next quote =>
        obtain ⟨⟨v, r'⟩, hv, he⟩ := Option.map_eq_some_iff.1 h
        obtain ⟨rfl, rfl⟩ := Prod.mk.inj he
        obtain ⟨w, hw, rfl, rfl⟩ := closeText_eq_some hv
        exact ⟨.quoted quote hw, by simp⟩
      · split at h
        · next accent =>
          obtain ⟨⟨v, r'⟩, hv, he⟩ := Option.map_eq_some_iff.1 h
          obtain ⟨rfl, rfl⟩ := Prod.mk.inj he
          obtain ⟨once, rfl⟩ := untilQuote_eq_some hv
          subst accent
          exact ⟨.accents once, by simp⟩
        · cases h
  · rintro ⟨h, rfl⟩
    cases h with
    | @quoted q w quote between =>
      have hbackslash : q ≠ '\\' := by
        rcases quote with rfl | rfl <;> decide
      simp only [List.cons_append, List.append_assoc, List.nil_append, textAt]
      rw [if_pos (by simpa using quote), closeText_append between hbackslash]
      rfl
    | @accents w once =>
      simp [textAt, untilQuote_append once]

/-! ### Values -/

/-- What is left of a text behind an entry: nothing, or what stands behind a comma. -/
def IsEnd (y r : List Char) : Prop := y = [] ∧ r = [] ∨ y = ',' :: r

theorem entryEnd?_of_isEnd {b y r : List Char} (hb : IsBlank b) (hy : IsEnd y r) :
    entryEnd? (b ++ y) = some r := by
  rw [entryEnd?, skipBlanks_append_of_blank hb]
  rcases hy with ⟨rfl, rfl⟩ | rfl <;> rfl

/-- An entry does not end before a value that has no comma in it. -/
theorem entryEnd?_append {v : List Char} (hv : v ≠ []) (hcomma : ',' ∉ v)
    (hlast : ∀ c, v.getLast? = some c → isBlank c = false) (z : List Char) :
    entryEnd? (v ++ z) = none := by
  have hne : skipBlanks v ≠ [] := by
    intro h
    have hall := List.dropWhile_eq_nil_iff.1 h
    have hb := hall _ (List.getLast_mem hv)
    rw [hlast _ (List.getLast?_eq_some_getLast hv)] at hb
    cases hb
  obtain ⟨c, rest, hrest⟩ := List.exists_cons_of_ne_nil hne
  have hc : c ≠ ',' := by
    rintro rfl
    have hm : ',' ∈ skipBlanks v := hrest ▸ List.mem_cons_self
    exact hcomma ((List.dropWhile_sublist _).mem hm)
  have hskip : skipBlanks (v ++ z) = c :: (rest ++ z) := by
    unfold skipBlanks at hrest ⊢
    rw [List.dropWhile_append, hrest]
    rfl
  rw [entryEnd?, hskip]
  split
  · next h => cases h
  · next h => exact absurd (List.cons.inj h).1 hc
  · rfl

theorem plainValue_append {v b y r : List Char} (hv : v ≠ []) (hcomma : ',' ∉ v)
    (hlast : ∀ c, v.getLast? = some c → isBlank c = false) (hb : IsBlank b) (hy : IsEnd y r) :
    plainValue (v ++ (b ++ y)) = some (v, r) := by
  induction v with
  | nil => exact absurd rfl hv
  | cons c v ih =>
    rw [List.mem_cons, not_or] at hcomma
    have hc : (c == ',') = false := by
      have hne : c ≠ ',' := fun e => hcomma.1 e.symm
      simpa using hne
    rw [List.cons_append, plainValue, hc]
    cases v with
    | nil => simp [entryEnd?_of_isEnd hb hy]
    | cons c' v =>
      have hlast' : ∀ x, (c' :: v).getLast? = some x → isBlank x = false := by
        intro x hx
        exact hlast x (by rwa [List.getLast?_cons_cons])
      rw [entryEnd?_append (by simp) hcomma.2 hlast', ih (by simp) hcomma.2 hlast']
      rfl

theorem IsText.getLast? {text : List Char} (h : IsText text) :
    ∃ q, text.getLast? = some q ∧ isQuote q = true := by
  cases h with
  | quoted quote between => exact ⟨_, List.getLast?_concat, isQuote_of_or quote⟩
  | accents once => exact ⟨_, List.getLast?_concat, by decide⟩

/-- A text in quotes that starts where a value starts ends in the value, if behind the value the
scan has left all quotes. -/
theorem IsText.within {t u v b y : List Char} (ht : IsText t) (hv : v ≠ []) (hb : IsBlank b)
    (heq : v ++ (b ++ y) = t ++ u) {d : Int}
    (hquote : y ≠ [] → (nesting ⟨none, false, d⟩ (v ++ b)).quote = none) :
    ∃ w, v = t ++ w ∧ u = w ++ (b ++ y) := by
  have hshort : ∃ c, v ++ b = t ++ c ∧ u = c ++ y := by
    rw [← List.append_assoc] at heq
    rcases List.append_eq_append_iff.1 heq with ⟨a, ha, hy⟩ | ⟨c, hc, hu⟩
    · by_cases hne : a = []
      · subst hne
        exact ⟨[], by simpa using ha.symm, by simpa using hy.symm⟩
      · have hin := ht.isSome_quote ha.symm (by simp [hv]) hne d
        rw [hquote (by simp [hy, hne])] at hin
        cases hin
    · exact ⟨c, hc, hu⟩
  obtain ⟨c, hc, rfl⟩ := hshort
  rcases List.append_eq_append_iff.1 hc with ⟨a, rfl, rfl⟩ | ⟨w, rfl, rfl⟩
  · by_cases hne : a = []
    · subst hne
      exact ⟨[], by simp, by simp⟩
    · obtain ⟨q, hlast, hq⟩ := ht.getLast?
      rw [List.getLast?_append_of_ne_nil _ hne] at hlast
      have hblank := hb q (List.mem_append_left _ (List.mem_of_getLast? hlast))
      rw [isQuote_eq_false_of_blank hblank] at hq
      cases hq
  · exact ⟨w, rfl, by simp⟩

/-- A value that is not cut is read to its end. -/
theorem valueAt_append {v b y r : List Char} (hv : v ≠ []) (huncut : IsUncut v)
    (hlast : ∀ c, v.getLast? = some c → isBlank c = false) (hb : IsBlank b) (hy : IsEnd y r)
    {d : Int} (hquote : y ≠ [] → (nesting ⟨none, false, d⟩ (v ++ b)).quote = none) :
    valueAt (v ++ (b ++ y)) = some (v, r) := by
  rcases huncut with htext | hcomma
  · rw [valueAt, textAt_eq_some_iff.2 ⟨htext, rfl⟩]
    simp only [entryEnd?_of_isEnd hb hy]
  · have hplain := plainValue_append hv hcomma hlast hb hy
    cases ht : textAt (v ++ (b ++ y)) with
    | none => simp only [valueAt, ht, hplain]
    | some found =>
      obtain ⟨t, u⟩ := found
      obtain ⟨htext, heq⟩ := textAt_eq_some_iff.1 ht
      obtain ⟨w, rfl, rfl⟩ := htext.within hv hb heq hquote
      by_cases hw : w = []
      · subst hw
        rw [List.append_nil] at ht ⊢
        simp only [valueAt, ht, List.nil_append, entryEnd?_of_isEnd hb hy]
      · have hcomma' : ',' ∉ w := fun h => hcomma (List.mem_append_right _ h)
        have hlast' : ∀ c, w.getLast? = some c → isBlank c = false := by
          intro c hc
          exact hlast c (by rwa [List.getLast?_append_of_ne_nil _ hw])
        simp only [valueAt, ht, entryEnd?_append hw hcomma' hlast', hplain]

theorem trim_of_ends {s : List Char} (hfirst : ∀ c, s.head? = some c → isBlank c = false)
    (hlast : ∀ c, s.getLast? = some c → isBlank c = false) : trim s = s := by
  rw [trim, skipBlanks_of_head hfirst, trimRight]
  have hrev := skipBlanks_of_head (s := s.reverse) (by simpa using hlast)
  rw [skipBlanks] at hrev
  rw [hrev, List.reverse_reverse]

theorem trim_of_isBlank {s : List Char} (h : IsBlank s) : trim s = [] := by
  have hs : skipBlanks s = [] := List.dropWhile_eq_nil_iff.2 h
  rw [trim, hs]
  rfl

theorem IsEnd.skipBlanks_eq {y r : List Char} (hy : IsEnd y r) : skipBlanks y = y := by
  rcases hy with ⟨rfl, -⟩ | rfl <;> rfl

theorem IsEnd.valueAt_eq {y r : List Char} (hy : IsEnd y r) : valueAt y = none := by
  rcases hy with ⟨rfl, -⟩ | rfl <;> rfl

theorem IsEnd.takeWhile_eq {y r : List Char} (hy : IsEnd y r) : y.takeWhile isBlank = [] := by
  rcases hy with ⟨rfl, -⟩ | rfl <;> rfl

/-- What stands behind a colon is read as what trimming leaves of it. -/
theorem valueAfterColon_append {value y r : List Char} (hne : value ≠ [])
    (huncut : IsUncut (trim value)) (hy : IsEnd y r) {d : Int}
    (hquote : y ≠ [] → (nesting ⟨none, false, d⟩ value).quote = none) :
    ∃ v, valueAfterColon (value ++ y) = some (v, r) ∧ trim v = trim value := by
  obtain ⟨a, b, ha, hb, hvalue, hfirst, hlast⟩ := exists_trim value
  by_cases hv : trim value = []
  · have hblank : IsBlank value := by
      intro c hc
      rw [hvalue, hv, List.nil_append, List.mem_append] at hc
      exact hc.elim (ha c) (hb c)
    refine ⟨[value.getLast hne], ?_, ?_⟩
    · have hskip : skipBlanks (value ++ y) = y := by
        rw [skipBlanks_append_of_blank hblank, hy.skipBlanks_eq]
      have htake : (value ++ y).takeWhile isBlank = value := by
        rw [List.takeWhile_append_of_pos hblank, hy.takeWhile_eq, List.append_nil]
      have hend := entryEnd?_of_isEnd (b := []) (fun _ h => absurd h List.not_mem_nil) hy
      rw [List.nil_append] at hend
      simp only [valueAfterColon, hskip, hy.valueAt_eq, htake, hend,
        List.getLast?_eq_some_getLast hne, Option.map_some]
    · rw [hv]
      apply trim_of_isBlank
      intro c hc
      rw [List.mem_singleton.1 hc]
      exact hblank _ (List.getLast_mem hne)
  · refine ⟨trim value, ?_, trim_of_ends hfirst hlast⟩
    obtain ⟨d', hd'⟩ := nesting_of_unquoted (fun c hc => isQuote_eq_false_of_blank (ha c hc)) d
    have hquote' : y ≠ [] → (nesting ⟨none, false, d'⟩ (trim value ++ b)).quote = none := by
      intro hy'
      have h := hquote hy'
      rwa [hvalue, nesting_append, hd'] at h
    have hskip : skipBlanks (value ++ y) = trim value ++ (b ++ y) := by
      have hhead : ∀ c, (trim value ++ (b ++ y)).head? = some c → isBlank c = false := by
        intro c hc
        rw [List.head?_append_of_ne_nil _ hv] at hc
        exact hfirst c hc
      conv => lhs; rw [hvalue]
      rw [List.append_assoc, List.append_assoc, skipBlanks_append_of_blank ha,
        skipBlanks_of_head hhead]
    rw [valueAfterColon, hskip, valueAt_append hv huncut hlast hb hy hquote']

/-! ### Entries -/

/-- A name does not go on in the blanks before a colon, and not in the colon. -/
theorem isIdentifierPart_before_colon {between : List Char} (hb : IsBlank between) (s : List Char) :
    ∀ c, (between ++ ':' :: s).head? = some c → isIdentifierPart c = false := by
  intro c hc
  cases hpart : isIdentifierPart c with
  | false => rfl
  | true =>
    cases between with
    | nil =>
      obtain rfl : ':' = c := Option.some.inj hc
      exact absurd hpart (by decide)
    | cons x between =>
      obtain rfl : x = c := Option.some.inj hc
      have hx := isBlank_eq_false_of_part hpart
      rw [hb x List.mem_cons_self] at hx
      cases hx

/-- Where a segment spells an entry the reader finds that entry, and goes on behind it. -/
theorem entryAt_append {name between value y r : List Char} {k : List Char} (hname : IsName name k)
    (hb : IsBlank between) (hne : value ≠ []) (huncut : IsUncut (trim value)) (hy : IsEnd y r)
    {d : Int} (hquote : y ≠ [] →
      (nesting ⟨none, false, d⟩ (name ++ (between ++ ':' :: value))).quote = none) :
    entryAt (name ++ (between ++ ':' :: (value ++ y))) =
      some ((k, trim value), (name ++ (between ++ ':' :: (value ++ y))).length - r.length) := by
  obtain ⟨d₁, hd₁⟩ := hname.nesting_eq d
  have hcolon : ∀ c ∈ between ++ [':'], isQuote c = false := by
    intro c hc
    rcases List.mem_append.1 hc with hc | hc
    · exact isQuote_eq_false_of_blank (hb c hc)
    · rw [List.mem_singleton.1 hc]
      decide
  obtain ⟨d₂, hd₂⟩ := nesting_of_unquoted hcolon d₁
  have hquote' : y ≠ [] → (nesting ⟨none, false, d₂⟩ value).quote = none := by
    intro hy'
    have h := hquote hy'
    rw [nesting_append, hd₁, ← List.singleton_append, ← List.append_assoc, nesting_append,
      hd₂] at h
    exact h
  obtain ⟨v, hv, htrim⟩ := valueAfterColon_append hne huncut hy hquote'
  have hend := isIdentifierPart_before_colon hb (value ++ y)
  have hskip : skipBlanks (between ++ ':' :: (value ++ y)) = ':' :: (value ++ y) := by
    rw [skipBlanks_append_of_blank hb]
    rfl
  simp only [entryAt, nameAt_append hname.reads hend, hskip, hv, htrim]

theorem hits_prev {α : Type} (test : List Char → Option (α × Nat)) (prev prev' : Option Char)
    (skip : Nat) (s : List Char) :
    hits (fun _ t => test t) prev skip s = hits (fun _ t => test t) prev' skip s := by
  cases s with
  | nil => rfl
  | cons c s => cases skip <;> rfl

theorem hits_skip {α : Type} (test : Option Char → List Char → Option (α × Nat))
    (prev : Option Char) (a b : List Char) :
    ∃ prev', hits test prev a.length (a ++ b) = hits test prev' 0 b := by
  induction a generalizing prev with
  | nil => exact ⟨prev, rfl⟩
  | cons c a ih =>
    obtain ⟨prev', h⟩ := ih (some c)
    exact ⟨prev', h⟩

/-- The entries that are found in a text from its start on. -/
def found (s : List Char) : Entries := hits (fun _ t => entryAt t) none 0 s

theorem found_of_entryAt {a b : List Char} {e : List Char × List Char} (ha : a ≠ [])
    (h : entryAt (a ++ b) = some (e, a.length)) : found (a ++ b) = e :: found b := by
  obtain ⟨c, a, rfl⟩ := List.exists_cons_of_ne_nil ha
  rw [List.cons_append] at h ⊢
  obtain ⟨prev, hskip⟩ := hits_skip (fun _ t => entryAt t) (some c) a b
  have hrest : hits (fun _ t => entryAt t) (some c) a.length (a ++ b) = found b := by
    rw [hskip]
    exact hits_prev entryAt prev none 0 b
  simp only [found, hits, h, List.length_cons, Nat.add_sub_cancel]
  rw [hrest]
  rfl

theorem found_cons {c : Char} {s : List Char} (h : entryAt (c :: s) = none) :
    found (c :: s) = found s := by
  simp only [found, hits, h]
  exact hits_prev entryAt (some c) none 0 s

theorem found_of_isBlank {a : List Char} (ha : IsBlank a) (s : List Char) :
    found (a ++ s) = found s := by
  induction a with
  | nil => rfl
  | cons c a ih =>
    have hc := ha c List.mem_cons_self
    have hstart : startsIdentifier c = false := by
      cases h : startsIdentifier c with
      | false => rfl
      | true =>
        have hpart := isBlank_eq_false_of_part (isIdentifierPart_of_starts h)
        rw [hc] at hpart
        cases hpart
    have hquote := isQuote_eq_false_of_blank hc
    simp only [isQuote, Bool.or_eq_false_iff] at hquote
    have hname : nameAt (c :: (a ++ s)) = none := by
      simp [nameAt, hstart, hquote]
    rw [List.cons_append, found_cons (by simp only [entryAt, hname])]
    exact ih fun x hx => ha x (List.mem_cons_of_mem _ hx)

theorem found_comma (s : List Char) : found (',' :: s) = found s := found_cons rfl

theorem IsName.ne_nil {name k : List Char} (h : IsName name k) : name ≠ [] := by
  cases h <;> simp

/-- The entry of a segment is found, and what is found behind its end. -/
theorem found_append {segment y r : List Char} {e : List Char × List Char}
    (hs : Spells segment e) (huncut : IsUncut e.2) (hy : IsEnd y r)
    (hquote : y ≠ [] → (nesting .start segment).quote = none) :
    found (segment ++ y) = e :: found r := by
  obtain ⟨before, name, between, value, hbefore, hname, hb, hne, rfl, htrim⟩ := hs
  obtain ⟨k, v⟩ := e
  obtain rfl : trim value = v := htrim
  obtain ⟨d, hd⟩ := nesting_of_unquoted (fun c hc => isQuote_eq_false_of_blank (hbefore c hc)) 0
  have hquote' : y ≠ [] →
      (nesting ⟨none, false, d⟩ (name ++ (between ++ ':' :: value))).quote = none := by
    intro hy'
    have h := hquote hy'
    rw [nesting_append] at h
    rwa [← hd]
  have hentry := entryAt_append hname hb hne huncut hy hquote'
  obtain ⟨p, hp⟩ : ∃ p, y = p ++ r := by
    rcases hy with ⟨rfl, rfl⟩ | rfl
    · exact ⟨[], rfl⟩
    · exact ⟨[','], rfl⟩
  have hsplit : name ++ (between ++ ':' :: (value ++ y)) =
      (name ++ (between ++ ':' :: (value ++ p))) ++ r := by
    simp [hp]
  have hall : before ++ (name ++ (between ++ ':' :: value)) ++ y =
      before ++ (name ++ (between ++ ':' :: (value ++ y))) := by
    simp
  rw [hsplit, List.length_append, Nat.add_sub_cancel] at hentry
  rw [hall, found_of_isBlank hbefore, hsplit]
  exact found_of_entryAt (by simp [hname.ne_nil]) hentry

end Restyle.Style
