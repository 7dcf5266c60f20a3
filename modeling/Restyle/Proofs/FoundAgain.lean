import Restyle.Proofs.WrittenClass

/-!
Where an element is found again after a class was attached to it. Where nothing but a tag is asked
for, no more of a line counts than what stands up to the character behind the tag's name; and a
class is attached behind that.
-/
namespace Restyle.Text

theorem afterBy?_eq_some_iff {same : Char → Char → Bool} {p s r : List Char} :
    afterBy? same p s = some r ↔
      ∃ t, s = t ++ r ∧ List.Forall₂ (fun a b => same a b = true) p t := by
  induction p generalizing s with
  | nil => simp [afterBy?]
  | cons a p ih =>
    cases s with
    | nil => simp [afterBy?]
    | cons c s =>
      rw [afterBy?]
      constructor
      · intro h
        split at h
        · next hsame =>
          obtain ⟨t, rfl, ht⟩ := ih.1 h
          exact ⟨c :: t, rfl, .cons hsame ht⟩
        · cases h
      · rintro ⟨t, heq, ht⟩
        cases ht with
        | cons hsame ht =>
          obtain ⟨rfl, rfl⟩ := List.cons.inj heq
          rw [if_pos hsame]
          exact ih.2 ⟨_, rfl, ht⟩

end Restyle.Text

namespace Restyle.Markup

open Text

/-! ### The opening of a tag -/

/-- What goes on a tag's name. -/
def isNamePart (c : Char) : Bool := isWord c || c == '.' || c == '-'

theorem isNamePart_of_blank {c : Char} (h : isBlank c = true) : isNamePart c = false := by
  rw [Bool.eq_false_iff]
  intro hpart
  simp only [isNamePart, Bool.or_eq_true, beq_iff_eq] at hpart
  rcases hpart with (hword | rfl) | rfl
  · rw [Style.isBlank_eq_false_of_word hword] at h
    cases h
  · cases h
  · cases h

/-- Whether a character ends the name of an element wherever that is written: a blank, a slash or the
bracket. -/
def endsTagName (c : Char) : Bool := isBlank c || c == '/' || c == '>'

theorem isNamePart_of_endsTagName {c : Char} (h : endsTagName c = true) : isNamePart c = false := by
  simp only [endsTagName, Bool.or_eq_true, beq_iff_eq] at h
  rcases h with (hblank | rfl) | rfl
  · exact isNamePart_of_blank hblank
  · decide
  · decide

theorem plain_of_endsTagName {c : Char} (h : endsTagName c = true) :
    isQuote c = false ∧ c ≠ '\x7b' ∧ c ≠ '\x7d' := by
  simp only [endsTagName, Bool.or_eq_true, beq_iff_eq] at h
  rcases h with (hblank | rfl) | rfl
  · exact plain_of_blank hblank
  · decide
  · decide

theorem isNamePart_of_quote {c : Char} (h : isQuote c = true) : isNamePart c = false := by
  simp only [isQuote, Bool.or_eq_true, beq_iff_eq] at h
  rcases h with (rfl | rfl) | rfl <;> decide

theorem tagEnds_iff {s : List Char} :
    tagEnds s = true ↔ ∀ c, s.head? = some c → isNamePart c = false := by
  cases s with
  | nil => simp [tagEnds]
  | cons c s => simp [tagEnds, isNamePart]

theorem isSome_tagAt_iff {tag s : List Char} :
    (tagAt tag s).isSome = true ↔ ∃ t r, s = '<' :: (t ++ r) ∧
      List.Forall₂ (fun a b => sameLetter a b = true) tag t ∧ tagEnds r = true := by
  constructor
  · intro h
    unfold tagAt at h
    split at h
    · split at h
      · next r hr =>
        obtain ⟨t, rfl, ht⟩ := afterBy?_eq_some_iff.1 hr
        split at h
        · next hends => exact ⟨t, r, rfl, ht, hends⟩
        · cases h
      · cases h
    · cases h
  · rintro ⟨t, r, rfl, ht, hends⟩
    have hafter : afterFold? tag (t ++ r) = some r := afterBy?_eq_some_iff.2 ⟨t, rfl, ht⟩
    simp [tagAt, hafter, hends]

/-- Whether a tag opens is told by as many characters as it has, and the one behind them. -/
theorem isSome_tagAt_of_take {tag s s' : List Char} (h : (tagAt tag s).isSome = true)
    (hsame : s'.take (tag.length + 1) = s.take (tag.length + 1))
    (hends : tagEnds (s'.drop (tag.length + 1)) = true) : (tagAt tag s').isSome = true := by
  obtain ⟨t, r, rfl, ht, -⟩ := isSome_tagAt_iff.1 h
  rw [List.take_succ_cons, ht.length_eq, List.take_left] at hsame
  refine isSome_tagAt_iff.2 ⟨t, s'.drop (tag.length + 1), ?_, ht, hends⟩
  rw [← List.cons_append, ← hsame, ht.length_eq, List.take_append_drop]

theorem tagAt_spec {tag s : List Char} (h : (tagAt tag s).isSome = true) :
    tag.length + 1 ≤ s.length ∧ tagEnds (s.drop (tag.length + 1)) = true := by
  obtain ⟨t, r, rfl, ht, hends⟩ := isSome_tagAt_iff.1 h
  rw [List.drop_succ_cons, ht.length_eq, List.drop_left]
  refine ⟨?_, hends⟩
  simp only [List.length_cons, List.length_append]
  omega

namespace Selector

variable {sel : Selector}

/-- Whether nothing but a tag is asked for. -/
def AsksTag (sel : Selector) : Prop := sel.id = none ∧ sel.classes = []

theorem AsksTag.opensAt_eq (h : sel.AsksTag) (s : List Char) :
    sel.opensAt s = (tagAt sel.tag s).isSome := by
  unfold opensAt
  cases tagAt sel.tag s with
  | none => rfl
  | some rest => simp [h.1, h.2]

theorem find_eq_some_iff {cs : List Char} {n : Nat} :
    sel.find cs = some n ↔ sel.opensAt (cs.drop n) = true ∧
      ∀ m < n, sel.opensAt (cs.drop m) = false := by
  have htest : NeedsText fun _ s => if sel.opensAt s then some () else none := by
    intro prev
    rfl
  have hhit (m : Nat) : hitAt (fun _ s => if sel.opensAt s then some () else none) cs m =
      if sel.opensAt (cs.drop m) then some () else none := rfl
  have hfirst := firstHit_eq_some_iff (n := n) (a := ()) htest [] cs
  rw [List.nil_append, List.getLast?_nil, List.length_nil] at hfirst
  rw [find, Option.map_eq_some_iff]
  constructor
  · rintro ⟨⟨m, u⟩, hm, rfl⟩
    obtain ⟨-, hhere, hbefore⟩ := hfirst.1 hm
    rw [hhit] at hhere
    refine ⟨?_, fun k hk => ?_⟩
    · by_contra hno
      rw [if_neg hno] at hhere
      cases hhere
    · by_contra hyes
      have hnone := hbefore k (Nat.zero_le k) hk
      rw [hhit, if_pos (by simpa using hyes)] at hnone
      cases hnone
  · rintro ⟨hhere, hbefore⟩
    exact ⟨(n, ()), hfirst.2 ⟨Nat.zero_le n, by rw [hhit, if_pos hhere], fun m _ hm => by
      rw [hhit, if_neg (by simp [hbefore m hm])]⟩, rfl⟩

/-- A tag is found again where it was found, if its line is the same up to the end of its name. -/
theorem AsksTag.find_again (h : sel.AsksTag) {cs new : List Char} {n : Nat}
    (hfind : sel.find cs = some n)
    (hsame : new.take (n + 1 + sel.tag.length) = cs.take (n + 1 + sel.tag.length))
    (hends : tagEnds (new.drop (n + 1 + sel.tag.length)) = true) : sel.find new = some n := by
  obtain ⟨hhere, hbefore⟩ := find_eq_some_iff.1 hfind
  rw [h.opensAt_eq] at hhere
  have htake {m : Nat} (hm : m ≤ n) : (new.drop m).take (sel.tag.length + 1) =
      (cs.drop m).take (sel.tag.length + 1) := by
    have hle : m + (sel.tag.length + 1) ≤ n + 1 + sel.tag.length := by omega
    have hshort := congrArg (List.take (m + (sel.tag.length + 1))) hsame
    rw [List.take_take, List.take_take, Nat.min_eq_left hle] at hshort
    rw [List.take_drop, List.take_drop, hshort]
  have hsum (m : Nat) (cs : List Char) :
      (cs.drop m).drop (sel.tag.length + 1) = cs.drop (m + 1 + sel.tag.length) := by
    rw [List.drop_drop]
    congr 1
    omega
  refine find_eq_some_iff.2 ⟨?_, fun m hm => ?_⟩
  · rw [h.opensAt_eq]
    exact isSome_tagAt_of_take hhere (htake (Nat.le_refl n)) (by rwa [hsum])
  · by_contra hopens
    rw [h.opensAt_eq, Bool.not_eq_false] at hopens
    have hold : sel.opensAt (cs.drop m) = true := by
      rw [h.opensAt_eq]
      refine isSome_tagAt_of_take hopens (htake hm.le).symm ?_
      have hbehind := (tagAt_spec hopens).2
      rw [hsum, tagEnds_iff, List.head?_drop] at hbehind ⊢
      have hget := congrArg (fun l => l[m + 1 + sel.tag.length]?) hsame
      rw [List.getElem?_take_of_lt (by omega), List.getElem?_take_of_lt (by omega)] at hget
      rwa [← hget]
    rw [hbefore m hm] at hold
    cases hold

end Selector

end Restyle.Markup

namespace Restyle

/-- Whether a change asks for a tag and nothing else. -/
def Change.AsksTag (c : Change) : Prop := ∃ sel, c.target = .ok sel ∧ sel.AsksTag

end Restyle

namespace Restyle.Style

open Text Markup

/-! ### The name of a tag -/

/-- Where the name of the tag ends. -/
def Place.nameEnd (p : Place) : Nat := p.start + 1 + p.tag.length

/-- Whether what the line has for the tag's name goes on such a name. -/
def Place.IsNamed (p : Place) : Prop :=
  ∀ i c, p.start < i → i < p.nameEnd → (p.lines.getD p.row [])[i]? = some c →
    isNamePart c = true

/-- Whether what the line has for the tag's name is part of an element's name. -/
def Place.NamesElement (p : Place) : Prop :=
  ∀ i c, p.start < i → i < p.nameEnd → (p.lines.getD p.row [])[i]? = some c →
    endsTagName c = false

theorem Place.IsNamed.namesElement {p : Place} (h : p.IsNamed) : p.NamesElement := by
  intro i c hstart hend hc
  rw [Bool.eq_false_iff]
  intro hends
  have hpart := h i c hstart hend hc
  rw [isNamePart_of_endsTagName hends] at hpart
  cases hpart

/-- Whether a line has the tag's name where the line of the tag has it, and it ends there. -/
structure Place.KeepsName (p : Place) (new : List Char) : Prop where
  same : new.take p.nameEnd = (p.lines.getD p.row []).take p.nameEnd
  ends : tagEnds (new.drop p.nameEnd) = true

variable {content : List Char} {c : Change} {line : Int} {p : Place} {s : Span}

theorem find_of_locate (hplace : locate content c line = .ok p) {sel : Selector}
    (hsel : c.target = .ok sel) :
    sel.find (p.lines.getD p.row []) = some p.start ∧ p.tag = sel.tag := by
  have hp := locate_isOn hplace
  have hline : line = (p.row + 1 : Nat) := by
    have := hp.row
    omega
  have hl : (Text.lines content)[p.row]? = some (p.lines.getD p.row []) := by
    rw [← hp.lines, List.getD_eq_getElem?_getD, List.getElem?_eq_getElem hp.there]
    rfl
  rw [hline, locate_eq content hl hsel] at hplace
  split at hplace
  · next start hfind =>
    have heq := Except.ok.inj hplace
    exact ⟨hfind.trans (congrArg (fun q => some (Place.start q)) heq),
      (congrArg Place.tag heq).symm⟩
  · cases hplace

/-- The element is found again if its line stays, or keeps the name of the tag. -/
theorem locate_again (hplace : locate content c line = .ok p) (hasks : c.AsksTag) {row : Nat}
    {new out : List Char} (hrow : row < p.lines.length) (hnew : IsOneLine new)
    (hkeeps : row = p.row → p.KeepsName new) (hout : unlines (p.lines.set row new) = out) :
    locate out c line = .ok { p with lines := Text.lines out } := by
  obtain ⟨sel, hsel, htag⟩ := hasks
  have hp := locate_isOn hplace
  obtain ⟨hfind, hname⟩ := find_of_locate hplace hsel
  have hline : line = (p.row + 1 : Nat) := by
    have := hp.row
    omega
  have hlines : Text.lines out = p.lines.set row new := by
    rw [← hout, hp.lines]
    exact lines_unlines_set content row hnew
  obtain ⟨l, hl, hagain⟩ : ∃ l, (p.lines.set row new)[p.row]? = some l ∧
      sel.find l = some p.start := by
    by_cases hsame : row = p.row
    · obtain rfl := hsame
      obtain ⟨hsame, hends⟩ := hkeeps rfl
      rw [Place.nameEnd, hname] at hsame hends
      exact ⟨new, List.getElem?_set_self hrow, htag.find_again hfind hsame hends⟩
    · refine ⟨p.lines.getD p.row [], ?_, hfind⟩
      rw [List.getElem?_set_ne hsame, List.getD_eq_getElem?_getD,
        List.getElem?_eq_getElem hp.there]
      rfl
  rw [hline, locate_eq _ (hlines ▸ hl) hsel, hagain, ← hname]

theorem nameEnd_spec (hplace : locate content c line = .ok p) (hasks : c.AsksTag) :
    p.nameEnd ≤ (p.lines.getD p.row []).length ∧
      ∀ c, (p.lines.getD p.row [])[p.nameEnd]? = some c → isNamePart c = false := by
  obtain ⟨sel, hsel, htag⟩ := hasks
  obtain ⟨hfind, hname⟩ := find_of_locate hplace hsel
  have hopens := (Selector.find_eq_some_iff.1 hfind).1
  rw [htag.opensAt_eq] at hopens
  obtain ⟨hlength, hends⟩ := tagAt_spec hopens
  have hsum : p.start + (sel.tag.length + 1) = p.nameEnd := by
    rw [Place.nameEnd, hname]
    omega
  rw [List.drop_drop, hsum, tagEnds_iff, List.head?_drop] at hends
  refine ⟨?_, hends⟩
  rw [List.length_drop] at hlength
  omega

/-! ### What an edit keeps -/

theorem keepsName_of_take {m : Nat} {new : List Char}
    (hends : ∀ c, (p.lines.getD p.row [])[p.nameEnd]? = some c → isNamePart c = false)
    (hm : p.nameEnd < m) (h : new.take m = (p.lines.getD p.row []).take m) : p.KeepsName new := by
  have hshort := congrArg (List.take p.nameEnd) h
  have hget := congrArg (fun l => l[p.nameEnd]?) h
  rw [List.take_take, List.take_take, Nat.min_eq_left hm.le] at hshort
  simp only [List.getElem?_take_of_lt hm] at hget
  refine ⟨hshort, ?_⟩
  rw [tagEnds_iff, List.head?_drop, hget]
  exact hends

/-- What is no part of a name stands behind the name, if it stands behind its beginning. -/
theorem Place.IsNamed.le_of_not (h : p.IsNamed) {i : Nat} {x : Char}
    (hi : (p.lines.getD p.row [])[i]? = some x) (hx : isNamePart x = false) (hstart : p.start < i) :
    p.nameEnd ≤ i := by
  by_contra hlt
  rw [h i x hstart (by omega) hi] at hx
  cases hx

theorem keepsName_text (hends : ∀ c, (p.lines.getD p.row [])[p.nameEnd]? = some c →
      isNamePart c = false) (hnamed : p.IsNamed) {first stop n k : Nat} {value : List Char}
    (hfound : firstIn classTextAt (p.lines.getD p.row []) first stop = some (n, value, k))
    (hstart : p.start < n) (new : List Char) :
    p.KeepsName (splice (p.lines.getD p.row []) (n + k) (n + k + value.length) new) := by
  obtain ⟨head, q, more, hhead, rfl, hline⟩ := exists_head_of_text hfound
  obtain ⟨hlast, hq⟩ := hhead.getLast?
  obtain ⟨front, hfront⟩ := List.getLast?_eq_some_iff.1 hlast
  have hquote : (p.lines.getD p.row [])[n + front.length]? = some q := by
    rw [← List.getElem?_drop, hline, hfront]
    simp
  have hle := hnamed.le_of_not hquote (isNamePart_of_quote hq) (by omega)
  have hlength : head.length = front.length + 1 := by
    rw [hfront, List.length_append, List.length_singleton]
  have hin := (List.getElem?_eq_some_iff.1 hquote).1
  refine keepsName_of_take hends (m := n + head.length) (by omega) ?_
  exact take_splice (Nat.le_refl _) (by omega)

theorem exists_addClassToExpression_eq (expr name : List Char) :
    ∃ more, addClassToExpression expr name = "className".toList ++ '=' :: more := by
  refine ⟨"\x7b\x60$\x7b".toList ++ (expr ++ ("\x7d ".toList ++ (name ++ "\x60\x7d".toList))), ?_⟩
  rw [addClassToExpression_eq]
  rfl

theorem keepsName_expression (hends : ∀ c, (p.lines.getD p.row [])[p.nameEnd]? = some c →
      isNamePart c = false) (hnamed : p.IsNamed) {first stop n k close : Nat}
    (hfound : firstIn classExpressionAt (p.lines.getD p.row []) first stop = some (n, k))
    (hclose : closingAt '\x7d' (p.lines.getD p.row []) (n + k) = some close)
    (hstart : p.start < n) (expr name : List Char) :
    p.KeepsName
      (splice (p.lines.getD p.row []) n (close + 1) (addClassToExpression expr name)) := by
  obtain ⟨a, b, d, e, hshape⟩ := exists_isExpression hfound hclose
  obtain ⟨x, rest, hrest, hx⟩ : ∃ x rest,
      (p.lines.getD p.row []).drop n = "className".toList ++ x :: rest ∧ isNamePart x = false := by
    have htext := hshape.text
    cases a with
    | nil => exact ⟨'=', _, htext, by decide⟩
    | cons y a => exact ⟨y, _, htext, isNamePart_of_blank (hshape.blank.1 y List.mem_cons_self)⟩
  have hword : "className".toList.length = 9 := rfl
  have hin := congrArg List.length hrest
  rw [List.length_drop, List.length_append, List.length_cons, hword] at hin
  rcases Nat.lt_or_ge p.nameEnd n with hlt | hge
  · exact keepsName_of_take hends hlt (take_splice (Nat.le_refl n) (by omega))
  -- The name of the attribute is the end of the tag's.
  have hend : p.nameEnd = n + 9 := by
    refine Nat.le_antisymm ?_ ?_
    · have hget : (p.lines.getD p.row [])[n + 9]? = some x := by
        rw [← List.getElem?_drop, hrest, ← hword, List.getElem?_append_right (Nat.le_refl _)]
        simp
      exact hnamed.le_of_not hget hx (by omega)
    · by_contra hshort
      obtain ⟨i, hi, hsum⟩ : ∃ i < 9, p.nameEnd = n + i := ⟨p.nameEnd - n, by omega, by omega⟩
      have hget : (p.lines.getD p.row [])[p.nameEnd]? = some ("className".toList[i]) := by
        rw [hsum, ← List.getElem?_drop, hrest, List.getElem?_append_left hi]
        exact List.getElem?_eq_getElem hi
      have hall : "className".toList.all isNamePart = true := by decide
      have hyes := List.all_eq_true.1 hall _ (List.getElem_mem hi)
      rw [hends _ hget] at hyes
      cases hyes
  have hlength : ((p.lines.getD p.row []).take n).length = n := by
    rw [List.length_take]
    omega
  obtain ⟨more, hnew⟩ : ∃ more, splice (p.lines.getD p.row []) n (close + 1)
      (addClassToExpression expr name) =
        ((p.lines.getD p.row []).take n ++ "className".toList) ++ '=' :: more := by
    obtain ⟨more, hmore⟩ := exists_addClassToExpression_eq expr name
    exact ⟨more ++ (p.lines.getD p.row []).drop (close + 1), by simp [splice, hmore]⟩
  have hfront : ((p.lines.getD p.row []).take n ++ "className".toList).length = p.nameEnd := by
    rw [List.length_append, hlength, hword, hend]
  rw [hnew]
  refine ⟨?_, ?_⟩
  · rw [← hfront, List.take_left, hfront, hend, List.take_add, hrest, ← hword, List.take_left]
  · rw [← hfront, List.drop_left]
    rfl

/-- Whether a slash stands right before the end of a tag. -/
def ClosesItself (line : List Char) (stop : Nat) : Prop := (line.take stop).getLast? = some '/'

instance (line : List Char) (stop : Nat) : Decidable (ClosesItself line stop) :=
  inferInstanceAs (Decidable (_ = _))

/-- What is left of a line with a tag that ends at `stop` without that slash, without the blanks
before and with nothing behind. -/
def tagBody (line : List Char) (stop : Nat) : List Char :=
  trimRight (line.take (if ClosesItself line stop then stop - 1 else stop))

/-- What stands before the end of a tag when an attribute has been inserted. -/
def tagSlash (line : List Char) (stop : Nat) : List Char :=
  if ClosesItself line stop then " /".toList else []

theorem tagSlash_cases (line : List Char) (stop : Nat) :
    tagSlash line stop = [] ∨ tagSlash line stop = " /".toList := by
  unfold tagSlash
  split
  · exact .inr rfl
  · exact .inl rfl

theorem insertAttribute_eq_tagBody {cs : List Char} {start stop : Nat}
    (hend : tagEnd cs start = some stop) (tagLength : Nat) (text : List Char) :
    insertAttribute cs start tagLength text =
      tagBody cs stop ++ ' ' :: (text ++ (tagSlash cs stop ++ cs.drop stop)) := by
  obtain ⟨hin, hget⟩ := List.getElem?_eq_some_iff.1 (tagEnd_spec hend).2
  by_cases hslash : ClosesItself cs stop
  · rw [tagBody, tagSlash, if_pos hslash, if_pos hslash, List.drop_eq_getElem_cons hin, hget,
      insertAttribute, hend]
    simp only [if_pos (show (cs.take stop).getLast? = some '/' from hslash)]
    simp
  · rw [tagBody, tagSlash, if_neg hslash, if_neg hslash, insertAttribute, hend]
    simp only [if_neg (show ¬ (cs.take stop).getLast? = some '/' from hslash)]
    simp

/-- What is left out of the tag before the attribute are blanks and the slash; both are ends of an
element's name. -/
theorem tagBody_spec {cs : List Char} {start stop : Nat} (hopen : cs[start]? = some '<')
    (hend : tagEnd cs start = some stop) :
    start < (tagBody cs stop).length ∧
      ∃ behind, cs.take stop = tagBody cs stop ++ behind ∧ ∀ c ∈ behind, endsTagName c = true := by
  have hkept {m : Nat} (h : start < m) : start < (trimRight (cs.take m)).length :=
    (trimRight_spec _).2 start '<' (by rw [List.getElem?_take_of_lt h, hopen]) (by decide)
  have hblank {c : Char} (h : isBlank c = true) : endsTagName c = true := by
    rw [endsTagName, h]
    rfl
  obtain ⟨hlt, hstop⟩ := tagEnd_spec hend
  by_cases hslash : ClosesItself cs stop
  · have hin := (List.getElem?_eq_some_iff.1 hstop).1
    obtain ⟨hfar, hslashGet⟩ := slash_spec hopen hlt hin hslash
    obtain ⟨b, hb, hsplit⟩ := exists_trimRight (cs.take (stop - 1))
    rw [tagBody, if_pos hslash]
    refine ⟨hkept hfar, b ++ ['/'], ?_, fun c hc => ?_⟩
    · have hlast := List.take_add_one (l := cs) (i := stop - 1)
      rw [hslashGet, Nat.sub_add_cancel (by omega)] at hlast
      rw [hlast, ← List.append_assoc, hsplit]
      rfl
    · rcases List.mem_append.1 hc with hc | hc
      · exact hblank (hb c hc)
      · rw [List.mem_singleton.1 hc]
        decide
  · obtain ⟨b, hb, hsplit⟩ := exists_trimRight (cs.take stop)
    rw [tagBody, if_neg hslash]
    exact ⟨hkept hlt, b, hsplit.symm, fun c hc => hblank (hb c hc)⟩

/-- An attribute is inserted into a tag that ends on its line behind what is left of the tag. -/
theorem insertAttribute_of_tagEnd {cs : List Char} {start stop : Nat}
    (hopen : cs[start]? = some '<') (hend : tagEnd cs start = some stop) :
    ∃ a behind gap, cs.take stop = a ++ behind ∧ start < a.length ∧
      (∀ c ∈ behind, endsTagName c = true) ∧ (gap = [] ∨ gap = " /".toList) ∧
      ∀ tagLength text,
        insertAttribute cs start tagLength text = a ++ ' ' :: (text ++ (gap ++ cs.drop stop)) := by
  obtain ⟨ha, behind, hsplit, hbehind⟩ := tagBody_spec hopen hend
  exact ⟨tagBody cs stop, behind, tagSlash cs stop, hsplit, ha, hbehind, tagSlash_cases cs stop,
    insertAttribute_eq_tagBody hend⟩

/-- A name that ends before the tag does is kept by what is left of the tag. -/
theorem le_length_of_name {cs a behind : List Char} {start stop m : Nat}
    (hstop : cs[stop]? = some '>') (hsplit : cs.take stop = a ++ behind) (ha : start < a.length)
    (hbehind : ∀ c ∈ behind, endsTagName c = true)
    (hname : ∀ i c, start < i → i < m → cs[i]? = some c → endsTagName c = false) :
    m ≤ a.length := by
  have hlength := congrArg List.length hsplit
  rw [List.length_take, List.length_append,
    Nat.min_eq_left (List.getElem?_eq_some_iff.1 hstop).1.le] at hlength
  -- What stands first behind `a` ends the name.
  obtain ⟨c, hc, hends⟩ : ∃ c, cs[a.length]? = some c ∧ endsTagName c = true := by
    cases behind with
    | nil =>
      rw [List.length_nil, Nat.add_zero] at hlength
      exact ⟨'>', hlength ▸ hstop, by decide⟩
    | cons c behind =>
      rw [List.length_cons] at hlength
      refine ⟨c, ?_, hbehind c List.mem_cons_self⟩
      have hget := List.getElem?_take_of_lt (l := cs) (show a.length < stop by omega)
      rw [← hget, hsplit, List.getElem?_append_right (Nat.le_refl _), Nat.sub_self]
      rfl
  by_contra hlt
  rw [hname a.length c ha (by omega) hc] at hends
  cases hends

/-- An attribute is inserted behind the opening of the tag and its name, in its stretch, with a
blank before. -/
theorem insertAttribute_eq {cs : List Char} {start : Nat} (hopen : cs[start]? = some '<')
    (tagLength : Nat) (text : List Char) : ∃ a rest,
      insertAttribute cs start tagLength text = a ++ ' ' :: (text ++ rest) ∧
        a <+: cs.take (stretchStop cs start) ∧ start < a.length ∧
        ∀ m, start < m → m ≤ start + 1 + tagLength → m ≤ cs.length →
          (∀ i c, start < i → i < m → cs[i]? = some c → endsTagName c = false) → m ≤ a.length := by
  have hlength := (List.getElem?_eq_some_iff.1 hopen).1
  cases hend : tagEnd cs start with
  | none =>
    rw [insertAttribute, stretchStop, ← tagEnd_eq_closingAt hopen, hend]
    refine ⟨cs.take (start + 1 + tagLength), cs.drop (start + 1 + tagLength), by simp, ?_, ?_, ?_⟩
    · rw [Option.getD_none, List.take_length]
      exact List.take_prefix _ _
    · rw [List.length_take]
      omega
    · intro m _ hm hin _
      rw [List.length_take]
      omega
  | some stop =>
    obtain ⟨a, behind, gap, hsplit, ha, hbehind, -, hnew⟩ := insertAttribute_of_tagEnd hopen hend
    refine ⟨a, gap ++ cs.drop stop, hnew tagLength text, ?_, ha, fun m _ _ _ hname => ?_⟩
    · rw [stretchStop, ← tagEnd_eq_closingAt hopen, hend, Option.getD_some, hsplit]
      exact List.prefix_append a behind
    · exact le_length_of_name (tagEnd_spec hend).2 hsplit ha hbehind hname

/-- An attribute that is inserted into the tag stands behind its name. -/
theorem keepsName_inserted (hopen : (p.lines.getD p.row [])[p.start]? = some '<')
    (hends : ∀ c, (p.lines.getD p.row [])[p.nameEnd]? = some c → isNamePart c = false)
    (hlength : p.nameEnd ≤ (p.lines.getD p.row []).length) (hnamed : p.NamesElement)
    (text : List Char) :
    p.KeepsName (insertAttribute (p.lines.getD p.row []) p.start p.tag.length text) := by
  obtain ⟨a, rest, hnew, ha, -, hbehind⟩ := insertAttribute_eq hopen p.tag.length text
  have hle : p.nameEnd ≤ a.length :=
    hbehind p.nameEnd (by rw [Place.nameEnd]; omega) (Nat.le_refl _) hlength hnamed
  obtain ⟨b, hb⟩ := ha.trans (List.take_prefix _ _)
  rw [hnew]
  refine ⟨?_, ?_⟩
  · rw [← hb, List.take_append_of_le_length hle, List.take_append_of_le_length hle]
  · rw [tagEnds_iff, List.head?_drop]
    rcases Nat.lt_or_eq_of_le hle with hlt | heq
    · rw [List.getElem?_append_left hlt]
      rwa [← hb, List.getElem?_append_left hlt] at hends
    · rw [heq, List.getElem?_append_right (Nat.le_refl _), Nat.sub_self]
      rintro c ⟨⟩
      decide

/-- The name of an attribute in the first stretch of a tag stands behind the tag's bracket. -/
theorem start_lt_of_name (hp : p.IsOn content line) (hs : s ∈ tagSpans p.lines p.row p.start)
    {n : Nat} (hfirst : s.first ≤ n) (hname : (p.lines.getD s.row [])[n]? = some 'c')
    (hrow : s.row = p.row) : p.start < n := by
  have hstart := (mem_tagSpans hp.there hp.start_lt hs).2.2.2.2 hrow
  refine Nat.lt_of_le_of_ne (hstart ▸ hfirst) ?_
  rintro rfl
  rw [hrow, hp.opens] at hname
  cases hname

/-- An element of which only the tag is asked for is found again with a class attached to it. -/
theorem locate_of_applyClass (hplace : locate content c line = .ok p) (hasks : c.AsksTag)
    (hnamed : p.IsNamed) {name out : List Char} (hname : IsOneLine name)
    (hout : applyClass content c line name = .ok out) :
    locate out c line = .ok { p with lines := Text.lines out } := by
  have hp := locate_isOn hplace
  obtain ⟨hlength, hends⟩ := nameEnd_spec hplace hasks
  cases hfound : p.classAttribute? with
  | none =>
    rw [applyClass_of_none hplace hfound] at hout
    have hopen : IsOneLine "className=\"".toList := by decide
    have hattribute : IsOneLine (classAttribute name) := (hopen.append hname).append (by decide)
    have hnew := (insertAttribute_spec hp.opens (hp.isOneLine p.row) hattribute p.tag.length).1
    exact locate_again hplace hasks hp.there hnew
      (fun _ => keepsName_inserted hp.opens hends hlength hnamed.namesElement _) (Except.ok.inj hout)
  | some x =>
    obtain ⟨s, found⟩ := x
    obtain ⟨before, after, hspans, hclass, -⟩ := Place.classAttribute?_eq_some_iff.1 hfound
    have hs : s ∈ tagSpans p.lines p.row p.start := hspans ▸ List.mem_append_cons_self
    have hrow := (mem_tagSpans hp.there hp.start_lt hs).2.2.1
    have hchanged : attachClass p.lines name s =
        attachTo (p.lines.getD s.row []) s.row name found := by
      rw [attachClass_eq, hclass]
    cases found with
    | text n k value =>
      rw [applyClass_of_text hplace hfound] at hout
      have hnew := (fits_of_attachClass hchanged (hp.isOneLine s.row) hname).oneLine
      refine locate_again hplace hasks hrow hnew (fun hsame => ?_) (Except.ok.inj hout)
      have htext := classIn_eq_text_iff.1 hclass
      obtain ⟨head, q, more, hhead, -, hline⟩ := exists_head_of_text htext
      have hc : (p.lines.getD s.row [])[n]? = some 'c' := by
        obtain ⟨rest, rfl, -⟩ := hhead.exists_cons
        rw [← List.head?_drop, hline]
        rfl
      have hstart := start_lt_of_name hp hs (firstIn_spec htext).1 hc hsame
      rw [hsame] at htext ⊢
      exact keepsName_text hends hnamed htext hstart _
    | expression n k =>
      cases hclose : closingAt '\x7d' (p.lines.getD s.row []) (n + k) with
      | none =>
        rw [applyClass_of_open hplace hfound hclose] at hout
        cases hout
      | some close =>
        rw [applyClass_of_expression hplace hfound hclose] at hout
        split at hout
        · obtain rfl := Except.ok.inj hout
          rw [← hp.lines]
          exact hplace
        · next hoccurs =>
          simp only [attachTo, hclose, if_neg hoccurs] at hchanged
          have hnew := (fits_of_attachClass hchanged (hp.isOneLine s.row) hname).oneLine
          rw [p.replaced_expression hclose] at hout
          refine locate_again hplace hasks hrow hnew (fun hsame => ?_) (Except.ok.inj hout)
          have hexpr := (classIn_eq_expression_iff.1 hclass).2
          obtain ⟨a, b, d, e, hshape⟩ := exists_isExpression hexpr hclose
          have hc : (p.lines.getD s.row [])[n]? = some 'c' := by
            rw [← List.head?_drop, hshape.text]
            rfl
          have hstart := start_lt_of_name hp hs (firstIn_spec hexpr).1 hc hsame
          rw [hsame] at hexpr hclose ⊢
          exact keepsName_expression hends hnamed hexpr hclose hstart _ _

end Restyle.Style
