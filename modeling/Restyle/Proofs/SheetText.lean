import Restyle.Edit.Plan
import Restyle.Proofs.GeneratedClass
import Restyle.Proofs.OneLine

/-!
The text of a stylesheet to which rules are added. It only grows; a class that it declares gets no
other rule, so what counts is the first rule for each class.
-/
namespace Restyle

namespace Text

/-- A text is found wherever it stands. -/
theorem occursIn_iff {p s : List Char} : occursIn p s = true ↔ p <:+: s := by
  have hit (prev : Option Char) (n : Nat) :
      (firstHit (fun _ t => after? p t) prev n s).isSome = true ↔ p <:+: s := by
    induction s generalizing prev n with
    | nil =>
      cases p with
      | nil => simp [firstHit, after?, afterBy?]
      | cons c p => simp [firstHit, after?, afterBy?]
    | cons c s ih =>
      rw [firstHit, List.infix_cons_iff]
      cases h : after? p (c :: s) with
      | some r => simp [after?_eq_some.1 h]
      | none =>
        have hno : ¬ p <+: c :: s := by
          rintro ⟨r, hr⟩
          rw [after?_eq_some.2 hr.symm] at h
          cases h
        simp [ih, hno]
  unfold occursIn indexOf?
  rw [Option.isSome_map, hit]

/-- What has no line feed stands before a line feed or behind it. -/
theorem infix_append_newline {p a b : List Char} (hp : '\n' ∉ p) :
    p <:+: a ++ '\n' :: b ↔ p <:+: a ∨ p <:+: b := by
  rw [List.infix_append_iff_ne_nil, List.infix_cons_iff]
  have crosses {x : List Char} (hx : x ≠ []) (hpre : x <+: '\n' :: b) : '\n' ∈ x := by
    cases x with
    | nil => exact absurd rfl hx
    | cons c x =>
      rw [List.cons_prefix_cons] at hpre
      exact hpre.1 ▸ List.mem_cons_self
  constructor
  · rintro (h | (h | h) | ⟨l, r, -, hr, rfl, -, hpre⟩)
    · exact .inl h
    · by_cases hnil : p = []
      · exact .inl (hnil ▸ List.nil_infix)
      · exact absurd (crosses hnil h) hp
    · exact .inr h
    · exact absurd (List.mem_append_right l (crosses hr hpre)) hp
  · rintro (h | h)
    · exact .inl h
    · exact .inr (.inl (.inr h))

end Text

namespace SheetPlan

open Text

theorem prefix_extend (text rule : String) : text.toList <+: (extend text rule).toList := by
  unfold extend
  simp only [String.toList_append, List.append_assoc]
  exact List.prefix_append _ _

/-- A new rule begins at the beginning of a line. -/
theorem toList_extend (text rule : String) :
    ((text.toList = [] ∨ ∃ a, text.toList = a ++ ['\n']) ∧
      (extend text rule).toList = text.toList ++ (rule.toList ++ ['\n'])) ∨
    (extend text rule).toList = text.toList ++ '\n' :: (rule.toList ++ ['\n']) := by
  have hfeed : "\n".toList = ['\n'] := by decide
  unfold extend
  simp only [String.toList_append, hfeed]
  by_cases hs : (text.isEmpty || text.toList.getLast? == some '\n') = true
  · refine .inl ⟨?_, by simp [hs]⟩
    rw [Bool.or_eq_true, beq_iff_eq] at hs
    rcases hs with hempty | hlast
    · exact .inl (by simpa using hempty)
    · exact .inr ⟨_, List.dropLast_append_getLast? _ hlast |>.symm⟩
  · exact .inr (by simp [hs])

/-- What is found in one line is found in the text that was there or in the new rule. -/
theorem infix_extend {text rule : String} {p : List Char} (hp : '\n' ∉ p) :
    p <:+: (extend text rule).toList ↔ p <:+: text.toList ∨ p <:+: rule.toList := by
  have hend (a : List Char) : p <:+: a ++ ['\n'] ↔ p <:+: a := by
    rw [infix_append_newline hp, List.infix_nil]
    exact or_iff_left_of_imp fun h => h ▸ List.nil_infix
  rcases toList_extend text rule with ⟨hnil | ⟨a, ha⟩, h⟩ | h <;> rw [h]
  · rw [hnil, List.nil_append, hend, List.infix_nil]
    exact (or_iff_right_of_imp fun h => h ▸ List.nil_infix).symm
  · rw [ha, List.append_assoc, List.singleton_append, infix_append_newline hp, hend, hend]
  · rw [infix_append_newline hp, hend]

end SheetPlan

namespace Style

/-- What a rule has between its braces. -/
def ruleBody (ds : Declarations) : List Char :=
  [' '].intercalate
    (ds.map fun (k, v) => k.display.toList ++ ':' :: ' ' :: v.display.toList ++ [';'])

theorem toList_ruleStart (name : String) :
    (SheetPlan.ruleStart name).toList = '.' :: name.toList ++ [' ', '\x7b'] := by
  simp [SheetPlan.ruleStart]

theorem toList_rule (name : String) (ds : Declarations) :
    (rule name ds).toList =
      '.' :: name.toList ++ ' ' :: '\x7b' :: ' ' :: (ruleBody ds ++ [' ', '\x7d']) := by
  simp [rule, ruleBody]

/-- Whether names and values are without braces and line feeds. -/
def IsPlain (ds : Declarations) : Prop :=
  ∀ x ∈ ds, ∀ c ∈ x.1.display.toList ++ x.2.display.toList, c ≠ '\x7b' ∧ c ≠ '\x7d' ∧ c ≠ '\n'

theorem IsPlain.perm {ds ds' : Declarations} (h : IsPlain ds) (hp : ds'.Perm ds) : IsPlain ds' :=
  fun x hx => h x (hp.mem_iff.1 hx)

theorem IsPlain.body {ds : Declarations} (h : IsPlain ds) {c : Char} (hc : c ∈ ruleBody ds) :
    c ≠ '\x7b' ∧ c ≠ '\x7d' ∧ c ≠ '\n' := by
  rcases Text.mem_intercalate hc with hc | ⟨l, hl, hc⟩
  · rw [List.mem_singleton.1 hc]
    decide
  · obtain ⟨x, hx, rfl⟩ := List.mem_map.1 hl
    have hsigns : c ∈ x.1.display.toList ++ x.2.display.toList ∨ c ∈ [':', ' ', ';'] := by
      simp only [List.mem_append, List.mem_cons, List.not_mem_nil, or_false] at hc ⊢
      tauto
    rcases hsigns with hc | hc
    · exact h x hx c hc
    · simp only [List.mem_cons, List.not_mem_nil, or_false] at hc
      rcases hc with rfl | rfl | rfl <;> decide

/-- The signs in the name of a class are none of those that set off a rule. -/
theorem isNameSign_ne {c : Char} (h : isNameSign c = true) :
    c ≠ '.' ∧ c ≠ '\x7b' ∧ c ≠ '\x7d' ∧ c ≠ '\n' := by
  refine ⟨?_, ?_, ?_, ?_⟩ <;> rintro rfl <;> exact absurd h (by decide)

variable {n n' : String} {ds ds' : Declarations}

/-- A plain rule begins with its only opening brace, and nowhere else in it stands the beginning of
a rule. -/
theorem ruleStart_unique {a b : List Char} (hn : ∀ c ∈ n'.toList, isNameSign c = true)
    (hds : IsPlain ds)
    (h : a ++ (SheetPlan.ruleStart n).toList ++ b = (rule n' ds).toList) :
    a = [] ∧ n = n' ∧ b = ' ' :: (ruleBody ds ++ [' ', '\x7d']) := by
  rw [toList_ruleStart, toList_rule] at h
  have hbrace : '.' :: n'.toList ++ [' '] ++ '\x7b' :: (' ' :: (ruleBody ds ++ [' ', '\x7d'])) =
      a ++ '.' :: n.toList ++ [' '] ++ '\x7b' :: b := by
    simpa using h.symm
  have hbefore : '\x7b' ∉ '.' :: n'.toList ++ [' '] := by
    intro hc
    have hname : '\x7b' ∈ n'.toList := by simpa using hc
    exact (isNameSign_ne (hn _ hname)).2.1 rfl
  have hbehind : '\x7b' ∉ ' ' :: (ruleBody ds ++ [' ', '\x7d']) := by
    intro hc
    have hbody : '\x7b' ∈ ruleBody ds := by simpa using hc
    exact (hds.body hbody).1 rfl
  obtain ⟨hstart, -, hrest⟩ := (List.append_cons_inj_of_notMem hbefore hbehind).1 hbrace
  have hdot : '.' :: n'.toList = a ++ '.' :: n.toList := List.append_cancel_right hstart
  cases a with
  | nil =>
    refine ⟨rfl, ?_, hrest.symm⟩
    exact (String.toList_inj.1 (List.cons.inj hdot).2).symm
  | cons c a =>
    have hname : '.' ∈ n'.toList := by
      rw [(List.cons.inj hdot).2]
      simp
    exact absurd rfl (isNameSign_ne (hn _ hname)).1

theorem ruleStart_infix_iff (hn : ∀ c ∈ n'.toList, isNameSign c = true) (hds : IsPlain ds) :
    (SheetPlan.ruleStart n).toList <:+: (rule n' ds).toList ↔ n = n' := by
  constructor
  · rintro ⟨a, b, h⟩
    exact (ruleStart_unique hn hds h).2.1
  · rintro rfl
    rw [toList_ruleStart, toList_rule]
    exact ⟨[], ' ' :: (ruleBody ds ++ [' ', '\x7d']), by simp⟩

/-- A plain rule stands in another if and only if it is the same. -/
theorem rule_infix_iff (hn : ∀ c ∈ n'.toList, isNameSign c = true) (hds' : IsPlain ds') :
    (rule n ds).toList <:+: (rule n' ds').toList ↔ rule n ds = rule n' ds' := by
  constructor
  · rintro ⟨a, b, h⟩
    have hwhole : (rule n ds).toList =
        (SheetPlan.ruleStart n).toList ++ ' ' :: (ruleBody ds ++ [' ', '\x7d']) := by
      rw [toList_ruleStart, toList_rule]
      simp
    rw [hwhole, ← List.append_assoc, List.append_assoc] at h
    obtain ⟨-, rfl, hrest⟩ := ruleStart_unique hn hds' h
    have hbrace : ' ' :: ruleBody ds' ++ [' '] ++ '\x7d' :: [] =
        ' ' :: ruleBody ds ++ [' '] ++ '\x7d' :: b := by
      simpa using hrest.symm
    have hbefore : '\x7d' ∉ ' ' :: ruleBody ds' ++ [' '] := by
      intro hc
      have hbody : '\x7d' ∈ ruleBody ds' := by simpa using hc
      exact (hds'.body hbody).2.1 rfl
    obtain ⟨hbody, -, -⟩ := (List.append_cons_inj_of_notMem hbefore List.not_mem_nil).1 hbrace
    have hsame : ruleBody ds' = ruleBody ds := (List.cons.inj (List.append_cancel_right hbody)).2
    apply String.toList_inj.1
    rw [toList_rule, toList_rule, hsame]
  · exact fun h => h ▸ List.infix_refl _

end Style

/-- A change by a class: the class that the element gets, and the declarations asked for. -/
structure ClassChange where
  name : String
  styles : Style.Declarations

namespace SheetPlan

open Text

variable {text : String} {x y : ClassChange} {xs : List ClassChange}

/-- Whether a stylesheet is taken to have a rule for the class. -/
def Declares (text name : String) : Prop := (ruleStart name).toList <:+: text.toList

/-- Whether a stylesheet has a rule for the class with just the declarations, in any order. -/
def Carries (text : String) (x : ClassChange) : Prop :=
  ∃ ds, ds.Perm x.styles ∧ (Style.rule x.name ds).toList <:+: text.toList

/-- Whether the rule that is written for `x` is one for `y`. -/
def Suits (x y : ClassChange) : Prop :=
  ∃ ds, ds.Perm y.styles ∧ Style.rule y.name ds = Style.rule x.name x.styles

/-- The stylesheet after a change. -/
def declare (text : String) (x : ClassChange) : String :=
  if occursIn (ruleStart x.name).toList text.toList then text
  else extend text (Style.rule x.name x.styles)

/-- The stylesheet after several changes. -/
def declareAll (text : String) (xs : List ClassChange) : String := xs.foldl declare text

theorem Declares.mono {text' name : String} (h : Declares text name)
    (ht : text.toList <+: text'.toList) : Declares text' name :=
  List.IsInfix.trans h ht.isInfix

theorem Carries.mono {text' : String} (h : Carries text x) (ht : text.toList <+: text'.toList) :
    Carries text' x := by
  obtain ⟨ds, hp, hinfix⟩ := h
  exact ⟨ds, hp, hinfix.trans ht.isInfix⟩

theorem declare_of_declares (h : Declares text x.name) : declare text x = text :=
  if_pos (occursIn_iff.2 h)

theorem declare_of_not (h : ¬ Declares text x.name) :
    declare text x = extend text (Style.rule x.name x.styles) :=
  if_neg fun ho => h (occursIn_iff.1 ho)

theorem prefix_declare (text : String) (x : ClassChange) :
    text.toList <+: (declare text x).toList := by
  by_cases h : Declares text x.name
  · rw [declare_of_declares h]
  · rw [declare_of_not h]
    exact prefix_extend _ _

/-- What a stylesheet has had stays at its beginning. -/
theorem prefix_declareAll (text : String) (xs : List ClassChange) :
    text.toList <+: (declareAll text xs).toList := by
  induction xs generalizing text with
  | nil => exact List.prefix_refl _
  | cons x xs ih => exact (prefix_declare text x).trans (ih (declare text x))

/-- The rule of a class that was not declared is written as it was asked for. -/
theorem carries_extend (text : String) (x : ClassChange) :
    Carries (extend text (Style.rule x.name x.styles)) x := by
  refine ⟨x.styles, .refl _, ?_⟩
  unfold extend
  simp only [String.toList_append, List.append_assoc]
  exact ⟨_, _, (List.append_assoc ..).trans (List.append_assoc ..)⟩

/-- A change has its rule once it was made, unless its class was declared already with another. -/
theorem carries_declare_iff (text : String) (x : ClassChange) :
    Carries (declare text x) x ↔ (Declares text x.name → Carries text x) := by
  by_cases h : Declares text x.name
  · rw [declare_of_declares h]
    exact ⟨fun hc _ => hc, fun hc => hc h⟩
  · rw [declare_of_not h]
    exact ⟨fun _ hd => absurd hd h, fun _ => carries_extend text x⟩

/-! ### Plain declarations -/

/-- A change by a generated class with plain declarations. -/
structure IsPlain (x : ClassChange) : Prop where
  name : ∀ c ∈ x.name.toList, Style.isNameSign c = true
  styles : Style.IsPlain x.styles

theorem IsPlain.ruleStart (h : IsPlain x) : '\n' ∉ (ruleStart x.name).toList := by
  rw [Style.toList_ruleStart]
  intro hc
  have hname : '\n' ∈ x.name.toList := by simpa using hc
  exact (Style.isNameSign_ne (h.name _ hname)).2.2.2 rfl

theorem IsPlain.rule (h : IsPlain x) {ds : Style.Declarations} (hp : ds.Perm x.styles) :
    '\n' ∉ (Style.rule x.name ds).toList := by
  rw [Style.toList_rule]
  intro hc
  have hparts : '\n' ∈ x.name.toList ∨ '\n' ∈ Style.ruleBody ds := by simpa using hc
  rcases hparts with hname | hbody
  · exact (Style.isNameSign_ne (h.name _ hname)).2.2.2 rfl
  · exact ((h.styles.perm hp).body hbody).2.2 rfl

theorem Suits.name (h : Suits x y) (hx : IsPlain x) (hy : IsPlain y) : x.name = y.name := by
  obtain ⟨ds, hp, hrule⟩ := h
  have hstart : (SheetPlan.ruleStart x.name).toList <:+: (Style.rule y.name ds).toList := by
    rw [hrule]
    exact (Style.ruleStart_infix_iff hx.name hx.styles).2 rfl
  exact (Style.ruleStart_infix_iff hy.name (hy.styles.perm hp)).1 hstart

theorem declares_declare_iff (hx : IsPlain x) (hy : IsPlain y) :
    Declares (declare text x) y.name ↔ Declares text y.name ∨ x.name = y.name := by
  by_cases h : Declares text x.name
  · rw [declare_of_declares h]
    exact (or_iff_left_of_imp fun e => e ▸ h).symm
  · rw [declare_of_not h]
    unfold Declares
    rw [infix_extend hy.ruleStart, Style.ruleStart_infix_iff hx.name hx.styles, eq_comm]

theorem carries_declare_iff_of_isPlain (hx : IsPlain x) (hy : IsPlain y) :
    Carries (declare text x) y ↔ Carries text y ∨ ¬ Declares text x.name ∧ Suits x y := by
  by_cases h : Declares text x.name
  · rw [declare_of_declares h]
    simp [h]
  · rw [declare_of_not h]
    unfold Carries Suits
    constructor
    · rintro ⟨ds, hp, hinfix⟩
      rcases (infix_extend (hy.rule hp)).1 hinfix with hold | hnew
      · exact .inl ⟨ds, hp, hold⟩
      · exact .inr ⟨h, ds, hp, (Style.rule_infix_iff hx.name hx.styles).1 hnew⟩
    · rintro (⟨ds, hp, hold⟩ | ⟨-, ds, hp, hrule⟩)
      · exact ⟨ds, hp, (infix_extend (hy.rule hp)).2 (.inl hold)⟩
      · refine ⟨ds, hp, (infix_extend (hy.rule hp)).2 (.inr ?_)⟩
        exact (Style.rule_infix_iff hx.name hx.styles).2 hrule

/-- After plain changes a stylesheet has a rule for one of them if it had that before, or if its
class was not declared and the first change by the class asked for the same. -/
theorem carries_declareAll_iff (hxs : ∀ x ∈ xs, IsPlain x) (hy : IsPlain y) :
    Carries (declareAll text xs) y ↔ Carries text y ∨ ¬ Declares text y.name ∧
      ∃ first, xs.find? (fun x => x.name = y.name) = some first ∧ Suits first y := by
  induction xs generalizing text with
  | nil => simp [declareAll]
  | cons x xs ih =>
    have hx := hxs x List.mem_cons_self
    have hstep : declareAll text (x :: xs) = declareAll (declare text x) xs := rfl
    rw [hstep, ih fun x hx => hxs x (List.mem_cons_of_mem _ hx),
      carries_declare_iff_of_isPlain hx hy, declares_declare_iff hx hy, List.find?_cons]
    by_cases hname : x.name = y.name
    · simp only [hname, decide_true, or_true, not_true, false_and, or_false, Option.some.injEq,
        exists_eq_left']
    · have hno : ¬ Suits x y := fun h => hname (h.name hx hy)
      simp only [hname, decide_false, or_false, hno, and_false]

end SheetPlan

end Restyle
