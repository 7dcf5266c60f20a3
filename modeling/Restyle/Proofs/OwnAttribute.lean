import Restyle.Proofs.ClassAttribute

/-!
Whose attribute an edit changes. It takes the first text in the tag that looks like the attribute,
wherever that stands: in an element that is handed over between braces, in a template or in the
value of another attribute. So it changes the element's own attribute exactly where nothing inside
of quotes or braces that looks like one comes before it.
-/
namespace Restyle.Style

open Text Markup

/-! ### Whose attribute it is -/

/-- Whether a place lies outside of quotes and braces of the tag that opens at `start`. -/
def IsOutside (line : List Char) (start n : Nat) : Prop :=
  (Scan.start.run ((line.take n).drop (start + 1))).quote = none ∧
    (Scan.start.run ((line.take n).drop (start + 1))).depth = 0

instance (line : List Char) (start n : Nat) : Decidable (IsOutside line start n) :=
  inferInstanceAs (Decidable (_ ∧ _))

/-- Whether all that looks like the attribute inside of quotes and braces comes behind something
that looks like it outside of them. -/
def OwnComesFirst {α : Type} (test : Option Char → List Char → Option α) (line : List Char)
    (start stop : Nat) : Prop :=
  ∀ n, start ≤ n → (hitAt test (line.take stop) n).isSome → ¬ IsOutside line start n →
    ∃ m, start ≤ m ∧ m < n ∧ (hitAt test (line.take stop) m).isSome ∧ IsOutside line start m

theorem ownComesFirst_iff {α : Type} {test : Option Char → List Char → Option α}
    {line : List Char} {start stop : Nat} :
    OwnComesFirst test line start stop ↔
      ∀ n a, IsFirstHit test (line.take stop) start n a → IsOutside line start n := by
  constructor
  · intro hown n a hfirst
    by_contra hinside
    obtain ⟨m, hm, hlt, hhit, -⟩ := hown n hfirst.behind (by rw [hfirst.hit]; rfl) hinside
    rw [hfirst.before m hm hlt] at hhit
    cases hhit
  · intro hfirst n hn hhit hinside
    obtain ⟨m, a, hle, hm⟩ := exists_isFirstHit hn hhit
    have houtside := hfirst m a hm
    have hne : m ≠ n := by
      rintro rfl
      exact hinside houtside
    exact ⟨m, hm.behind, by omega, by rw [hm.hit]; rfl, houtside⟩

/-! ### Edits of a tag on one line -/

theorem edit_oneLine {p : Place} {stop : Nat}
    (hend : tagEnd (p.lines.getD p.row []) p.start = some stop) (find : Span → Finding)
    (text : List Char) :
    edit p find text =
      match find ⟨p.row, p.start, stop⟩ with
      | .absent => .ok (p.inserted text)
      | .changed new => .ok (unlines (p.lines.set p.row new))
      | .refused problem => .error problem := by
  have hspans : tagSpans p.lines p.row p.start = [⟨p.row, p.start, stop⟩] := by
    rw [tagSpans, hend]
  rw [edit, hspans]
  simp only [firstFinding]
  cases find ⟨p.row, p.start, stop⟩ <;> rfl

theorem applyInline_eq {content : List Char} {c : Change} {line : Int} {p : Place} {new : Entries}
    (hplace : locate content c line = .ok p) (hnew : entriesOf c.styles = .ok new) :
    applyInline content c line = edit p (mergeStyle p.lines new) (styleAttribute new) := by
  simp only [applyInline, hplace, hnew, faulty]
  rfl

section

variable {content : List Char} {c : Change} {line : Int} {p : Place} {stop : Nat}

/-- The tag that opens at the place and ends at `stop`, and what stands before it. -/
def Place.upTo (p : Place) (stop : Nat) : List Char := (p.lines.getD p.row []).take stop

theorem firstIn_tag_eq_some_iff {α : Type} {test : Option Char → List Char → Option α} {n : Nat}
    {a : α}
    (htest : NeedsText test) (hplace : locate content c line = .ok p)
    (hend : tagEnd (p.lines.getD p.row []) p.start = some stop) :
    firstIn test (p.lines.getD p.row []) p.start stop = some (n, a) ↔
      IsFirstHit test (p.upTo stop) p.start n a :=
  firstIn_eq_some_iff htest (tagEnd_spec hend).1.le (locate_isOn hplace).start_lt.le

theorem firstIn_tag_eq_none_iff {α : Type} {test : Option Char → List Char → Option α}
    (htest : NeedsText test) (hplace : locate content c line = .ok p)
    (hend : tagEnd (p.lines.getD p.row []) p.start = some stop) :
    firstIn test (p.lines.getD p.row []) p.start stop = none ↔
      HasNoHit test (p.upTo stop) p.start :=
  firstIn_eq_none_iff htest (tagEnd_spec hend).1.le (locate_isOn hplace).start_lt.le

/-- The declarations go into the first thing in the tag that looks like a style attribute. -/
theorem applyInline_of_isFirstHit (hplace : locate content c line = .ok p)
    (hend : tagEnd (p.lines.getD p.row []) p.start = some stop) {new : Entries}
    (hnew : entriesOf c.styles = .ok new) {n length : Nat} {body : List Char}
    (hfirst : IsFirstHit styleObjectAt (p.upTo stop) p.start n (body, length)) :
    applyInline content c line = .ok (p.replaced ⟨p.row, p.start, stop⟩ n length
      (styleAttribute (merge (readEntries body) new))) := by
  rw [applyInline_eq hplace hnew, edit_oneLine hend]
  have hfound := (firstIn_tag_eq_some_iff styleObjectAt_needsText hplace hend).2 hfirst
  simp only [mergeStyle, hfound]
  rfl

theorem applyInline_of_hasNoHit (hplace : locate content c line = .ok p)
    (hend : tagEnd (p.lines.getD p.row []) p.start = some stop) {new : Entries}
    (hnew : entriesOf c.styles = .ok new)
    (hnone : HasNoHit styleObjectAt (p.upTo stop) p.start) :
    applyInline content c line = .ok (p.inserted (styleAttribute new)) ∨
      applyInline content c line = .error (.styleNotChangeable (p.row + 1)) := by
  rw [applyInline_eq hplace hnew, edit_oneLine hend]
  have hfound := (firstIn_tag_eq_none_iff styleObjectAt_needsText hplace hend).2 hnone
  simp only [mergeStyle, hfound]
  cases (firstIn styleNameAt (p.lines.getD p.row []) p.start stop).isSome with
  | true => exact .inr rfl
  | false => exact .inl rfl

theorem classAttribute?_oneLine (hend : tagEnd (p.lines.getD p.row []) p.start = some stop) :
    p.classAttribute? = (classIn (p.lines.getD p.row []) ⟨p.row, p.start, stop⟩).map
      fun found => (⟨p.row, p.start, stop⟩, found) := by
  have hspans : tagSpans p.lines p.row p.start = [⟨p.row, p.start, stop⟩] := by
    rw [tagSpans, hend]
  rw [Place.classAttribute?, hspans, List.findSome?_cons]
  cases classIn (p.lines.getD p.row []) ⟨p.row, p.start, stop⟩ <;> rfl

theorem classAttribute?_of_isFirstHit (hplace : locate content c line = .ok p)
    (hend : tagEnd (p.lines.getD p.row []) p.start = some stop) {n offset : Nat}
    {value : List Char}
    (hfirst : IsFirstHit classTextAt (p.upTo stop) p.start n (value, offset)) :
    p.classAttribute? = some (⟨p.row, p.start, stop⟩, .text n offset value) := by
  have htext := (firstIn_tag_eq_some_iff classTextAt_needsText hplace hend).2 hfirst
  rw [classAttribute?_oneLine hend, classIn]
  simp only [htext]
  rfl

theorem classAttribute?_of_hasNoHit (hplace : locate content c line = .ok p)
    (hend : tagEnd (p.lines.getD p.row []) p.start = some stop)
    (hnone : HasNoHit classTextAt (p.upTo stop) p.start) :
    p.classAttribute? = (firstIn classExpressionAt (p.lines.getD p.row []) p.start stop).map
      fun (n, offset) => (⟨p.row, p.start, stop⟩, .expression n offset) := by
  have htext := (firstIn_tag_eq_none_iff classTextAt_needsText hplace hend).2 hnone
  rw [classAttribute?_oneLine hend, classIn]
  simp only [htext, Option.map_map]
  rfl

/-- What an edit of the tag takes for the attribute, to change it or to refuse it: the first thing
that looks like it, where a class in quotes goes before an expression. -/
inductive Takes (p : Place) (stop : Nat) : Method → Nat → Prop
  | style {n : Nat} {found : List Char × Nat}
      (first : IsFirstHit styleObjectAt (p.upTo stop) p.start n found) : Takes p stop .inline n
  | text {n : Nat} {found : List Char × Nat}
      (first : IsFirstHit classTextAt (p.upTo stop) p.start n found) : Takes p stop .byClass n
  | expression {n offset : Nat} (noText : HasNoHit classTextAt (p.upTo stop) p.start)
      (first : IsFirstHit classExpressionAt (p.upTo stop) p.start n offset) :
      Takes p stop .byClass n

/-- Whether the element's own attribute comes before all that only looks like it. -/
def Method.OwnComesFirst (m : Method) (line : List Char) (start stop : Nat) : Prop :=
  match m with
  | .inline => Style.OwnComesFirst styleObjectAt line start stop
  | .byClass => Style.OwnComesFirst classTextAt line start stop ∧
      (HasNoHit classTextAt (line.take stop) start →
        Style.OwnComesFirst classExpressionAt line start stop)

theorem takes_own_iff (p : Place) (stop : Nat) (m : Method) :
    (∀ n, Takes p stop m n → IsOutside (p.lines.getD p.row []) p.start n) ↔
      m.OwnComesFirst (p.lines.getD p.row []) p.start stop := by
  cases m with
  | inline =>
    rw [Method.OwnComesFirst, ownComesFirst_iff]
    constructor
    · exact fun h n a hfirst => h n (.style hfirst)
    · rintro h n ⟨hfirst⟩
      exact h n _ hfirst
  | byClass =>
    rw [Method.OwnComesFirst, ownComesFirst_iff, ownComesFirst_iff]
    constructor
    · intro h
      exact ⟨fun n a hfirst => h n (.text hfirst),
        fun hnone n a hfirst => h n (.expression hnone hfirst)⟩
    · rintro ⟨htext, hexpression⟩ n htakes
      cases htakes with
      | text hfirst => exact htext n _ hfirst
      | expression hnone hfirst => exact hexpression hnone n _ hfirst

/-- An edit of a tag on one line changes what it takes for the attribute, and adds the attribute
where it takes nothing for it. What it takes lies outside of quotes and braces of the tag exactly if
all that looks like the attribute and lies inside of them comes behind something outside of them. -/
theorem edited_own_iff (hplace : locate content c line = .ok p)
    (hend : tagEnd (p.lines.getD p.row []) p.start = some stop) :
    let s : Span := ⟨p.row, p.start, stop⟩
    (∀ new out, entriesOf c.styles = .ok new → applyInline content c line = .ok out →
      (∃ n body length, Takes p stop .inline n ∧
        hitAt styleObjectAt (p.upTo stop) n = some (body, length) ∧
        out = p.replaced s n length (styleAttribute (merge (readEntries body) new))) ∨
      (∀ n, ¬ Takes p stop .inline n) ∧ out = p.inserted (styleAttribute new)) ∧
    (∀ name out, applyClass content c line name = .ok out →
      (∃ n, Takes p stop .byClass n ∧ (out = content ∨
        ∃ first length text, n ≤ first ∧ out = p.replaced s first length text)) ∨
      (∀ n, ¬ Takes p stop .byClass n) ∧ out = p.inserted (classAttribute name)) ∧
    ∀ m : Method, (∀ n, Takes p stop m n → IsOutside (p.lines.getD p.row []) p.start n) ↔
      m.OwnComesFirst (p.lines.getD p.row []) p.start stop := by
  intro s
  refine ⟨fun new out hnew hout => ?_, fun name out hout => ?_, takes_own_iff p stop⟩
  · rcases exists_isFirstHit_or styleObjectAt (p.upTo stop) p.start with ⟨n, found, hfirst⟩ | hnone
    · obtain ⟨body, length⟩ := found
      rw [applyInline_of_isFirstHit hplace hend hnew hfirst] at hout
      exact .inl ⟨n, body, length, .style hfirst, hfirst.hit, (Except.ok.inj hout).symm⟩
    · refine .inr ⟨?_, ?_⟩
      · rintro n ⟨hfirst⟩
        exact hfirst.not_hasNoHit hnone
      · rcases applyInline_of_hasNoHit hplace hend hnew hnone with h | h
        · rw [h] at hout
          exact (Except.ok.inj hout).symm
        · rw [h] at hout
          cases hout
  · rcases exists_isFirstHit_or classTextAt (p.upTo stop) p.start with ⟨n, found, hfirst⟩ | hnone
    · obtain ⟨value, offset⟩ := found
      rw [applyClass_of_text hplace (classAttribute?_of_isFirstHit hplace hend hfirst)] at hout
      exact .inl ⟨n, .text hfirst, .inr ⟨n + offset, value.length, _, Nat.le_add_right _ _,
        (Except.ok.inj hout).symm⟩⟩
    · have hfound := classAttribute?_of_hasNoHit hplace hend hnone
      rcases exists_isFirstHit_or classExpressionAt (p.upTo stop) p.start with
        ⟨n, offset, hfirst⟩ | hnone'
      · refine .inl ⟨n, .expression hnone hfirst, ?_⟩
        rw [(firstIn_tag_eq_some_iff classExpressionAt_needsText hplace hend).2 hfirst] at hfound
        cases hclose : closingAt '\x7d' (p.lines.getD p.row []) (n + offset) with
        | none =>
          rw [applyClass_of_open hplace hfound hclose] at hout
          cases hout
        | some close =>
          rw [applyClass_of_expression hplace hfound hclose] at hout
          obtain rfl := Except.ok.inj hout
          split
          · exact .inl rfl
          · exact .inr ⟨n, _, _, Nat.le_refl n, rfl⟩
      · refine .inr ⟨?_, ?_⟩
        · intro n htakes
          cases htakes with
          | text hfirst => exact hfirst.not_hasNoHit hnone
          | expression _ hfirst => exact hfirst.not_hasNoHit hnone'
        · rw [(firstIn_tag_eq_none_iff classExpressionAt_needsText hplace hend).2 hnone'] at hfound
          rw [applyClass_of_none hplace hfound] at hout
          exact (Except.ok.inj hout).symm

end

/-- A tag with a style attribute of its own, and behind it one of an element between its braces. -/
def nestedStyles : List Char :=
  "<div style=\x7b\x7b top: 1 \x7d\x7d icon=\x7b<b style=\x7b\x7b top: 2 \x7d\x7d />\x7d>".toList

def nestedPlace : Place := ⟨[nestedStyles], 0, 0, "div".toList⟩

theorem edited_own_iff_nested :
    locate nestedStyles redDiv 1 = .ok nestedPlace ∧ tagEnd nestedStyles 0 = some 55 ∧
    (∃ out, applyInline nestedStyles redDiv 1 = .ok out ∧
      ∃ n length text, Takes nestedPlace 55 .inline n ∧
        out = nestedPlace.replaced ⟨0, 0, 55⟩ n length text) ∧
    ∀ n, Takes nestedPlace 55 .inline n → IsOutside nestedStyles 0 n := by
  have hplace : locate nestedStyles redDiv 1 = .ok nestedPlace := by decide +kernel
  have hend : tagEnd nestedStyles 0 = some 55 := by decide +kernel
  have hfirst : IsFirstHit styleObjectAt (nestedPlace.upTo 55) 0 5 (" top: 1 ".toList, 18) :=
    (firstIn_tag_eq_some_iff styleObjectAt_needsText hplace hend).1 (by decide +kernel)
  obtain ⟨hinline, -, hown⟩ := edited_own_iff hplace hend
  have hnew : entriesOf redDiv.styles = .ok [("color".toList, "'red'".toList)] := by
    decide +kernel
  have hout := applyInline_of_isFirstHit hplace hend hnew hfirst
  refine ⟨hplace, hend, ⟨_, hout, ?_⟩, (hown .inline).2 ?_⟩
  · rcases hinline _ _ hnew hout with ⟨n, body, length, htakes, -, heq⟩ | ⟨hnone, -⟩
    · exact ⟨n, length, _, htakes, heq⟩
    · exact absurd (.style hfirst) (hnone 5)
  · rw [Method.OwnComesFirst, ownComesFirst_iff]
    intro n a hn
    obtain ⟨rfl, -⟩ := hfirst.unique hn
    decide +kernel

/-- Three tags without an attribute of their own to change, or with it further on: what is changed
stands in an element between braces, in a text in quotes between braces and in one in quotes. -/
theorem edits_inside_attributes :
    let icon := "<div icon=\x7b<b style=\x7b\x7b top: 1 \x7d\x7d />\x7d>".toList
    let label := "<div label=\x7b`class=\"x\"`\x7d className=\"y\">".toList
    let title := "<div title='className=\x7bx\x7d'>".toList
    (locate icon redDiv 1 = .ok ⟨[icon], 0, 0, "div".toList⟩ ∧ tagEnd icon 0 = some 36 ∧
      applyInline icon redDiv 1 =
        .ok "<div icon=\x7b<b style=\x7b\x7b top: 1, color: 'red' \x7d\x7d />\x7d>".toList ∧
      ¬ IsOutside icon 0 14) ∧
    (locate label redDiv 1 = .ok ⟨[label], 0, 0, "div".toList⟩ ∧ tagEnd label 0 = some 38 ∧
      applyClass label redDiv 1 "c".toList =
        .ok "<div label=\x7b`class=\"x c\"`\x7d className=\"y\">".toList ∧
      ¬ IsOutside label 0 13) ∧
    (locate title redDiv 1 = .ok ⟨[title], 0, 0, "div".toList⟩ ∧ tagEnd title 0 = some 26 ∧
      applyClass title redDiv 1 "c".toList =
        .ok "<div title='className=\x7b`$\x7bx\x7d c`\x7d'>".toList ∧
      ¬ IsOutside title 0 12) := by
  decide +kernel

end Restyle.Style
