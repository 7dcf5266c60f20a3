import Restyle.Proofs.FirstHit
import Restyle.Proofs.StyleMerge

/-!
The class attribute that is changed. A text in quotes begins with a name, an equals sign and a
quote, and ends at the next such quote; an expression begins with a brace. The first stretch of the
tag in which one of them is found decides, and a text there goes before an expression.
-/

namespace Restyle.Style

open Text Markup

/-! ### How a class attribute begins -/

theorem afterEquals?_eq_some_iff {s r : List Char} :
    afterEquals? s = some r ↔ ∃ a b, IsBlank a ∧ IsBlank b ∧ s = a ++ '=' :: (b ++ r) ∧
      ∀ c, r.head? = some c → isBlank c = false := by
  constructor
  · intro h
    unfold afterEquals? at h
    split at h
    · next rest hs =>
      obtain rfl := Option.some.inj h
      have hfront : s.takeWhile isBlank ++ skipBlanks s = s := List.takeWhile_append_dropWhile
      have hbehind : rest.takeWhile isBlank ++ skipBlanks rest = rest :=
        List.takeWhile_append_dropWhile
      rw [hs] at hfront
      exact ⟨s.takeWhile isBlank, rest.takeWhile isBlank, isBlank_takeWhile s,
        isBlank_takeWhile rest, by rw [hbehind, hfront], fun c hc => head?_skipBlanks hc⟩
    · cases h
  · rintro ⟨a, b, ha, hb, rfl, hr⟩
    have hequals : skipBlanks ('=' :: (b ++ r)) = '=' :: (b ++ r) := by
      apply skipBlanks_of_head
      rintro c ⟨⟩
      decide
    rw [afterEquals?, skipBlanks_append_of_blank ha, hequals]
    simp only [skipBlanks_append_of_blank hb, skipBlanks_of_head hr]

/-- A brace with blanks behind it, or nothing. -/
def IsBrace (o : List Char) : Prop := o = [] ∨ ∃ d, IsBlank d ∧ o = '\x7b' :: d

theorem skipBrace_eq_iff {s r : List Char} {q : Char} (hq : isQuote q = true) :
    skipBrace s = q :: r ↔ ∃ o, IsBrace o ∧ s = o ++ q :: r := by
  have hskip : skipBlanks (q :: r) = q :: r := by
    apply skipBlanks_of_head
    rintro c ⟨⟩
    exact isBlank_eq_false_of_quote hq
  constructor
  · intro h
    unfold skipBrace at h
    split at h
    · next rest =>
      have hrest : rest.takeWhile isBlank ++ skipBlanks rest = rest :=
        List.takeWhile_append_dropWhile
      rw [h] at hrest
      exact ⟨'\x7b' :: rest.takeWhile isBlank, .inr ⟨_, isBlank_takeWhile rest, rfl⟩,
        by rw [List.cons_append, hrest]⟩
    · exact ⟨[], .inl rfl, h⟩
  · rintro ⟨o, rfl | ⟨d, hd, rfl⟩, rfl⟩
    · rw [List.nil_append, skipBrace]
      rintro rest ⟨⟩
      cases hq
    · rw [List.cons_append, skipBrace, skipBlanks_append_of_blank hd, hskip]

theorem openingQuote?_eq_some_iff {s r : List Char} {q : Char} :
    openingQuote? s = some (q, r) ↔ isQuote q = true ∧ ∃ a b o, IsBlank a ∧ IsBlank b ∧ IsBrace o ∧
      s = a ++ '=' :: (b ++ (o ++ q :: r)) := by
  constructor
  · intro h
    unfold openingQuote? at h
    split at h
    · cases h
    · next rest hrest =>
      obtain ⟨a, b, ha, hb, rfl, -⟩ := afterEquals?_eq_some_iff.1 hrest
      split at h
      · next c value hvalue =>
        split at h
        · next hquote =>
          obtain ⟨rfl, rfl⟩ := Prod.mk.inj (Option.some.inj h)
          obtain ⟨o, ho, rfl⟩ := (skipBrace_eq_iff hquote).1 hvalue
          exact ⟨hquote, a, b, o, ha, hb, ho, rfl⟩
        · cases h
      · cases h
  · rintro ⟨hq, a, b, o, ha, hb, ho, rfl⟩
    have hhead : ∀ c, (o ++ q :: r).head? = some c → isBlank c = false := by
      intro c hc
      rcases ho with rfl | ⟨d, -, rfl⟩
      · obtain rfl := Option.some.inj hc
        exact isBlank_eq_false_of_quote hq
      · obtain rfl := Option.some.inj hc
        decide
    have hequals := afterEquals?_eq_some_iff.2 ⟨a, b, ha, hb, rfl, hhead⟩
    have hbrace : skipBrace (o ++ q :: r) = q :: r := (skipBrace_eq_iff hq).2 ⟨o, ho, rfl⟩
    rw [openingQuote?, hequals]
    simp only [hbrace, if_pos hq]

/-- How a class attribute with a text begins: its name, an equals sign, perhaps a brace, and the
quote that opens the text. Blanks may stand between these. -/
inductive IsTextHead : List Char → Char → Prop
  | mk {name a b o : List Char} {q : Char}
      (named : name = "className".toList ∨ name = "class".toList) (before : IsBlank a)
      (behind : IsBlank b) (brace : IsBrace o) (quote : isQuote q = true) :
      IsTextHead (name ++ (a ++ '=' :: (b ++ (o ++ [q])))) q

theorem afterClassName?_eq_some {s r : List Char} (h : afterClassName? s = some r) :
    ∃ name, (name = "className".toList ∨ name = "class".toList) ∧ s = name ++ r := by
  rw [afterClassName?, Option.orElse_eq_orElse, Option.orElse_eq_or, Option.or_eq_some_iff] at h
  rcases h with h | ⟨-, h⟩
  · exact ⟨_, .inl rfl, after?_eq_some.1 h⟩
  · exact ⟨_, .inr rfl, after?_eq_some.1 h⟩

theorem afterClassName?_append {name a r : List Char}
    (hname : name = "className".toList ∨ name = "class".toList) (ha : IsBlank a) :
    afterClassName? (name ++ (a ++ '=' :: r)) = some (a ++ '=' :: r) := by
  have hshort : after? name (name ++ (a ++ '=' :: r)) = some (a ++ '=' :: r) :=
    after?_eq_some.2 rfl
  rw [afterClassName?, Option.orElse_eq_orElse, Option.orElse_eq_or, Option.or_eq_some_iff]
  rcases hname with rfl | rfl
  · exact .inl hshort
  · refine .inr ⟨?_, hshort⟩
    -- The longer name goes on with a letter, which is neither a blank nor an equals sign.
    rw [Option.eq_none_iff_forall_ne_some]
    intro x hx
    have heq : "class".toList ++ (a ++ '=' :: r) = "className".toList ++ x := after?_eq_some.1 hx
    have hlong : "className".toList ++ x = "class".toList ++ ("Name".toList ++ x) := rfl
    have hrest : a ++ '=' :: r = "Name".toList ++ x := List.append_cancel_left (heq.trans hlong)
    cases a with
    | nil => exact absurd (List.cons.inj hrest).1 (by decide)
    | cons c a =>
      have hc := ha c List.mem_cons_self
      rw [(List.cons.inj hrest).1] at hc
      exact absurd hc (by decide)

theorem opening_eq_some_iff {s r : List Char} {q : Char} :
    (afterClassName? s).bind openingQuote? = some (q, r) ↔
      ∃ head, IsTextHead head q ∧ s = head ++ r := by
  rw [Option.bind_eq_some_iff]
  constructor
  · rintro ⟨u, hu, hquote⟩
    obtain ⟨name, hname, rfl⟩ := afterClassName?_eq_some hu
    obtain ⟨hq, a, b, o, ha, hb, ho, rfl⟩ := openingQuote?_eq_some_iff.1 hquote
    exact ⟨_, .mk hname ha hb ho hq, by simp⟩
  · rintro ⟨head, hhead, rfl⟩
    obtain @⟨name, a, b, o, _, hname, ha, hb, ho, hq⟩ := hhead
    have hopen : afterClassName? (name ++ (a ++ '=' :: (b ++ (o ++ [q]))) ++ r) =
        some (a ++ '=' :: (b ++ (o ++ q :: r))) := by
      simpa using afterClassName?_append hname ha
    exact ⟨_, hopen, openingQuote?_eq_some_iff.2 ⟨hq, a, b, o, ha, hb, ho, rfl⟩⟩

theorem untilQuote?_eq_some_iff {q : Char} {s v r : List Char} :
    untilQuote? q s = some (v, r) ↔ s = v ++ q :: r ∧ q ∉ v ∧ IsOneLine v := by
  induction s generalizing v r with
  | nil => simp [untilQuote?]
  | cons c s ih =>
    rw [untilQuote?]
    by_cases hc : c = q
    · subst hc
      cases v with
      | nil => simp [IsOneLine]
      | cons d v =>
        simp only [beq_self_eq_true, if_true, Option.some.injEq, Prod.mk.injEq, reduceCtorEq,
          false_and, List.cons_append, List.cons.injEq, List.mem_cons, not_or, false_iff]
        rintro ⟨⟨rfl, -⟩, ⟨hne, -⟩, -⟩
        exact hne rfl
    · have hq : (c == q) = false := by simpa using hc
      rw [hq, if_neg Bool.false_ne_true]
      cases v with
      | nil =>
        have hno : ¬ (c :: s = [] ++ q :: r ∧ q ∉ ([] : List Char) ∧ IsOneLine []) :=
          fun h => hc (List.cons.inj h.1).1
        refine iff_of_false ?_ hno
        split
        · exact fun h => by cases h
        · intro h
          obtain ⟨_, _, he⟩ := Option.map_eq_some_iff.1 h
          cases (Prod.mk.inj he).1
      | cons d v =>
        by_cases hfeed : c = '\n'
        · subst hfeed
          refine iff_of_false (by simp) ?_
          rintro ⟨heq, -, hline⟩
          obtain ⟨rfl, -⟩ := List.cons.inj heq
          exact hline List.mem_cons_self
        · have hn : (c == '\n') = false := by simpa using hfeed
          rw [hn, if_neg Bool.false_ne_true, Option.map_eq_some_iff]
          constructor
          · rintro ⟨⟨v', r'⟩, hv, he⟩
            obtain ⟨heq, rfl⟩ := Prod.mk.inj he
            obtain ⟨rfl, rfl⟩ := List.cons.inj heq
            obtain ⟨rfl, hnot, hline⟩ := ih.1 hv
            exact ⟨rfl, by simp [hnot, Ne.symm hc], hline.cons hfeed⟩
          · rintro ⟨heq, hnot, hline⟩
            obtain ⟨rfl, rfl⟩ := List.cons.inj heq
            rw [List.mem_cons, not_or] at hnot
            exact ⟨(v, r), ih.2 ⟨rfl, hnot.2, fun h => hline (List.mem_cons_of_mem _ h)⟩, rfl⟩

theorem classTextAt_eq_some_iff {prev : Option Char} {s value : List Char} {offset : Nat} :
    classTextAt prev s = some (value, offset) ↔ nameStarts prev = true ∧ ∃ head q r,
      IsTextHead head q ∧ s = head ++ (value ++ q :: r) ∧ q ∉ value ∧ IsOneLine value ∧
        offset = head.length := by
  unfold classTextAt
  constructor
  · intro h
    split at h
    · next hprev =>
      split at h
      · next q rest hrest =>
        obtain ⟨⟨v, r⟩, hv, he⟩ := Option.map_eq_some_iff.1 h
        obtain ⟨rfl, rfl⟩ := Prod.mk.inj he
        obtain ⟨head, hhead, rfl⟩ := opening_eq_some_iff.1 hrest
        obtain ⟨rfl, hnot, hline⟩ := untilQuote?_eq_some_iff.1 hv
        exact ⟨hprev, head, q, r, hhead, rfl, hnot, hline, by simp⟩
      · cases h
    · cases h
  · rintro ⟨hprev, head, q, r, hhead, rfl, hnot, hline, rfl⟩
    have hopen : (afterClassName? (head ++ (value ++ q :: r))).bind openingQuote? =
        some (q, value ++ q :: r) := opening_eq_some_iff.2 ⟨head, hhead, rfl⟩
    have huntil : untilQuote? q (value ++ q :: r) = some (value, r) :=
      untilQuote?_eq_some_iff.2 ⟨rfl, hnot, hline⟩
    rw [if_pos hprev, hopen]
    simp [huntil]

/-- The letter that starts a class attribute does not come again before its text. -/
theorem IsTextHead.exists_cons {head : List Char} {q : Char} (h : IsTextHead head q) :
    ∃ rest, head = 'c' :: rest ∧ 'c' ∉ rest := by
  obtain @⟨name, a, b, o, _, hname, ha, hb, ho, hq⟩ := h
  have hblank {s : List Char} (hs : IsBlank s) : 'c' ∉ s := fun hc => absurd (hs 'c' hc) (by decide)
  have hbrace : 'c' ∉ o := by
    intro hc
    rcases ho with rfl | ⟨d, hd, rfl⟩
    · cases hc
    · exact hblank hd ((List.mem_cons.1 hc).resolve_left (by decide))
  have hquote : 'c' ≠ q := by
    rintro rfl
    exact absurd hq (by decide)
  have hrest : 'c' ∉ a ++ '=' :: (b ++ (o ++ [q])) := by
    simp [hblank ha, hblank hb, hbrace, hquote]
  rcases hname with rfl | rfl
  · exact ⟨"lassName".toList ++ (a ++ '=' :: (b ++ (o ++ [q]))), rfl, by simpa using hrest⟩
  · exact ⟨"lass".toList ++ (a ++ '=' :: (b ++ (o ++ [q]))), rfl, by simpa using hrest⟩

theorem classExpressionAt_eq_some_iff {prev : Option Char} {s : List Char} {offset : Nat} :
    classExpressionAt prev s = some offset ↔ nameStarts prev = true ∧ ∃ a b r, IsBlank a ∧
      IsBlank b ∧ s = "className".toList ++ (a ++ '=' :: (b ++ '\x7b' :: r)) ∧
        offset = 10 + a.length + b.length := by
  have hlength (a b r : List Char) :
      ("className".toList ++ (a ++ '=' :: (b ++ '\x7b' :: r))).length - ('\x7b' :: r).length =
        10 + a.length + b.length := by
    have hname : "className".toList.length = 9 := rfl
    simp only [List.length_append, List.length_cons, hname]
    omega
  unfold classExpressionAt
  constructor
  · intro h
    split at h
    · next hprev =>
      split at h
      · next r hr =>
        obtain ⟨u, hu, hequals⟩ := Option.bind_eq_some_iff.1 hr
        obtain rfl := after?_eq_some.1 hu
        obtain ⟨a, b, ha, hb, rfl, -⟩ := afterEquals?_eq_some_iff.1 hequals
        exact ⟨hprev, a, b, r, ha, hb, rfl, by rw [← Option.some.inj h, hlength]⟩
      · cases h
    · cases h
  · rintro ⟨hprev, a, b, r, ha, hb, rfl, rfl⟩
    have hhead : ∀ c, ('\x7b' :: r).head? = some c → isBlank c = false := by
      rintro c ⟨⟩
      decide
    have hequals : (after? "className".toList
        ("className".toList ++ (a ++ '=' :: (b ++ '\x7b' :: r)))).bind afterEquals? =
          some ('\x7b' :: r) :=
      Option.bind_eq_some_iff.2 ⟨_, after?_eq_some.2 rfl,
        afterEquals?_eq_some_iff.2 ⟨a, b, ha, hb, rfl, hhead⟩⟩
    rw [if_pos hprev, hequals]
    simp only [hlength]

/-! ### The class attribute of a tag -/

/-- The content when an attribute is inserted into the tag. -/
def Place.inserted (p : Place) (text : List Char) : List Char :=
  unlines (p.lines.set p.row
    (insertAttribute (p.lines.getD p.row []) p.start p.tag.length text))

/-- The expression between the brace at `brace` and the one that closes it. -/
def expressionIn (line : List Char) (brace close : Nat) : List Char :=
  trim ((line.take close).drop (brace + 1))

/-- A class attribute: a text that starts `offset` characters behind `n`, or an expression with its
brace there. -/
inductive ClassAttribute where
  | text (n offset : Nat) (value : List Char)
  | expression (n offset : Nat)
  deriving DecidableEq, Repr

/-- What a stretch has for a class attribute: a text if there is one, else an expression. -/
def classIn (line : List Char) (s : Span) : Option ClassAttribute :=
  match firstIn classTextAt line s.first s.stop with
  | some (n, value, offset) => some (.text n offset value)
  | none => (firstIn classExpressionAt line s.first s.stop).map fun (n, offset) =>
      .expression n offset

theorem classIn_eq_text_iff {line value : List Char} {s : Span} {n offset : Nat} :
    classIn line s = some (.text n offset value) ↔
      firstIn classTextAt line s.first s.stop = some (n, value, offset) := by
  unfold classIn
  cases firstIn classTextAt line s.first s.stop with
  | some x =>
    obtain ⟨m, v, k⟩ := x
    simp only [Option.some.injEq, ClassAttribute.text.injEq, Prod.mk.injEq]
    exact and_congr_right fun _ => and_comm
  | none => simp

theorem classIn_eq_expression_iff {line : List Char} {s : Span} {n offset : Nat} :
    classIn line s = some (.expression n offset) ↔
      firstIn classTextAt line s.first s.stop = none ∧
        firstIn classExpressionAt line s.first s.stop = some (n, offset) := by
  unfold classIn
  cases firstIn classTextAt line s.first s.stop with
  | some x => simp
  | none => simp

theorem classIn_eq_none_iff {line : List Char} {s : Span} :
    classIn line s = none ↔ firstIn classTextAt line s.first s.stop = none ∧
      firstIn classExpressionAt line s.first s.stop = none := by
  unfold classIn
  cases firstIn classTextAt line s.first s.stop with
  | some x => simp
  | none => simp

/-- The first stretch of the tag that has something for a class attribute, and what that is. -/
def Place.classAttribute? (p : Place) : Option (Span × ClassAttribute) :=
  (tagSpans p.lines p.row p.start).findSome? fun s =>
    (classIn (p.lines.getD s.row []) s).map fun found => (s, found)

theorem Place.classAttribute?_eq_some_iff {p : Place} {s : Span} {found : ClassAttribute} :
    p.classAttribute? = some (s, found) ↔ ∃ before after,
      tagSpans p.lines p.row p.start = before ++ s :: after ∧
      classIn (p.lines.getD s.row []) s = some found ∧
      ∀ s' ∈ before, classIn (p.lines.getD s'.row []) s' = none := by
  unfold Place.classAttribute?
  rw [List.findSome?_eq_some_iff]
  constructor
  · rintro ⟨before, s', after, hspans, hfound, hbefore⟩
    obtain ⟨x, hx, he⟩ := Option.map_eq_some_iff.1 hfound
    obtain ⟨rfl, rfl⟩ := Prod.mk.inj he
    exact ⟨before, after, hspans, hx, fun s'' hs'' => Option.map_eq_none_iff.1 (hbefore s'' hs'')⟩
  · rintro ⟨before, after, hspans, hfound, hbefore⟩
    exact ⟨before, s, after, hspans, by rw [hfound]; rfl, fun s' hs' => by rw [hbefore s' hs']; rfl⟩

theorem Place.classAttribute?_eq_none_iff {p : Place} :
    p.classAttribute? = none ↔ ∀ s ∈ tagSpans p.lines p.row p.start,
      classIn (p.lines.getD s.row []) s = none := by
  unfold Place.classAttribute?
  rw [List.findSome?_eq_none_iff]
  simp only [Option.map_eq_none_iff]

/-- What is done with a class attribute. -/
def attachTo (line : List Char) (row : Nat) (name : List Char) : ClassAttribute → Finding
  | .text n offset value =>
    .changed (splice line (n + offset) (n + offset + value.length) (addClassWord value name))
  | .expression n offset =>
    match closingAt '\x7d' line (n + offset) with
    | none => .refused (.classNotChangeable (row + 1))
    | some close =>
      if occursIn name (expressionIn line (n + offset) close) then .changed line
      else .changed (splice line n (close + 1)
        (addClassToExpression (expressionIn line (n + offset) close) name))

theorem attachClass_eq (ls : List (List Char)) (name : List Char) (s : Span) :
    attachClass ls name s = match classIn (ls.getD s.row []) s with
      | none => .absent
      | some found => attachTo (ls.getD s.row []) s.row name found := by
  unfold attachClass classIn
  simp only
  cases firstIn classTextAt (ls.getD s.row []) s.first s.stop with
  | some found => rfl
  | none =>
    cases firstIn classExpressionAt (ls.getD s.row []) s.first s.stop with
    | some found => rfl
    | none => rfl

theorem attachTo_ne_absent (line : List Char) (row : Nat) (name : List Char)
    (found : ClassAttribute) : attachTo line row name found ≠ .absent := by
  cases found with
  | text n offset value => exact fun h => by cases h
  | expression n offset =>
    rw [attachTo]
    split
    · exact fun h => by cases h
    · split <;> exact fun h => by cases h

theorem firstFinding_of_absent {find : Span → Finding} {spans : List Span}
    (h : ∀ s ∈ spans, find s = .absent) : firstFinding find spans = none := by
  induction spans with
  | nil => rfl
  | cons s spans ih =>
    rw [firstFinding, h s List.mem_cons_self]
    exact ih fun s' hs' => h s' (List.mem_cons_of_mem _ hs')

theorem firstFinding_attachClass (p : Place) (name : List Char) :
    firstFinding (attachClass p.lines name) (tagSpans p.lines p.row p.start) =
      p.classAttribute?.map fun (s, found) =>
        (s.row, attachTo (p.lines.getD s.row []) s.row name found) := by
  cases hp : p.classAttribute? with
  | none =>
    apply firstFinding_of_absent
    intro s hs
    rw [attachClass_eq, Place.classAttribute?_eq_none_iff.1 hp s hs]
  | some x =>
    obtain ⟨s, found⟩ := x
    obtain ⟨before, after, hspans, hfound, hbefore⟩ := Place.classAttribute?_eq_some_iff.1 hp
    have hs : attachClass p.lines name s =
        attachTo (p.lines.getD s.row []) s.row name found := by rw [attachClass_eq, hfound]
    have habsent : ∀ s' ∈ before, attachClass p.lines name s' = .absent := by
      intro s' hs'
      rw [attachClass_eq, hbefore s' hs']
    have hne : attachClass p.lines name s ≠ .absent := hs ▸ attachTo_ne_absent _ _ _ _
    rw [hspans, firstFinding_of_found habsent hne, hs]
    rfl

/-- A class attribute with this one class. -/
def classAttribute (name : List Char) : List Char := "className=\"".toList ++ name ++ ['"']

theorem applyClass_eq {content : List Char} {c : Change} {line : Int} {p : Place}
    (hplace : locate content c line = .ok p) (name : List Char) :
    applyClass content c line name = edit p (attachClass p.lines name) (classAttribute name) := by
  simp only [applyClass, hplace]
  rfl

theorem set_getD_self (ls : List (List Char)) (row : Nat) : ls.set row (ls.getD row []) = ls := by
  by_cases hrow : row < ls.length
  · rw [List.getD_eq_getElem?_getD, List.getElem?_eq_getElem hrow]
    exact List.set_getElem_self hrow
  · exact List.set_eq_of_length_le (by omega)

section

variable {content : List Char} {c : Change} {line : Int} {p : Place} {s : Span} {n offset : Nat}

theorem unlines_lines_of_locate (hplace : locate content c line = .ok p) :
    unlines p.lines = content := by
  rw [(locate_isOn hplace).lines, unlines_lines]

theorem applyClass_of_none (hplace : locate content c line = .ok p)
    (hfound : p.classAttribute? = none) (name : List Char) :
    applyClass content c line name = .ok (p.inserted (classAttribute name)) := by
  rw [applyClass_eq hplace, edit, firstFinding_attachClass, hfound]
  rfl

theorem applyClass_of_text (hplace : locate content c line = .ok p) {value : List Char}
    (hfound : p.classAttribute? = some (s, .text n offset value)) (name : List Char) :
    applyClass content c line name =
      .ok (p.replaced s (n + offset) value.length (addClassWord value name)) := by
  rw [applyClass_eq hplace, edit, firstFinding_attachClass, hfound]
  rfl

/-- An expression that does not end on the line is refused. -/
theorem applyClass_of_open (hplace : locate content c line = .ok p)
    (hfound : p.classAttribute? = some (s, .expression n offset))
    (hopen : closingAt '\x7d' (p.lines.getD s.row []) (n + offset) = none) (name : List Char) :
    applyClass content c line name = .error (.classNotChangeable (s.row + 1)) := by
  rw [applyClass_eq hplace, edit, firstFinding_attachClass, hfound]
  simp only [Option.map_some, attachTo, hopen]

theorem Place.replaced_expression {close : Nat}
    (hclose : closingAt '\x7d' (p.lines.getD s.row []) (n + offset) = some close)
    (text : List Char) : p.replaced s n (close + 1 - n) text =
      unlines (p.lines.set s.row (splice (p.lines.getD s.row []) n (close + 1) text)) := by
  have hlong : n + (close + 1 - n) = close + 1 := by
    have := (closingAt_spec hclose).1
    omega
  rw [Place.replaced, hlong]

/-- The class goes behind an expression, unless it is part of that. -/
theorem applyClass_of_expression (hplace : locate content c line = .ok p)
    (hfound : p.classAttribute? = some (s, .expression n offset)) {close : Nat}
    (hclose : closingAt '\x7d' (p.lines.getD s.row []) (n + offset) = some close)
    (name : List Char) :
    applyClass content c line name = .ok
      (if occursIn name (expressionIn (p.lines.getD s.row []) (n + offset) close) then content
        else p.replaced s n (close + 1 - n)
          (addClassToExpression (expressionIn (p.lines.getD s.row []) (n + offset) close)
            name)) := by
  rw [applyClass_eq hplace, edit, firstFinding_attachClass, hfound]
  simp only [Option.map_some, attachTo, hclose]
  by_cases hoccurs : occursIn name (expressionIn (p.lines.getD s.row []) (n + offset) close)
  · rw [if_pos hoccurs, if_pos hoccurs]
    exact congrArg Except.ok
      ((congrArg unlines (set_getD_self _ s.row)).trans (unlines_lines_of_locate hplace))
  · rw [if_neg hoccurs, if_neg hoccurs, p.replaced_expression hclose]

end

end Restyle.Style
