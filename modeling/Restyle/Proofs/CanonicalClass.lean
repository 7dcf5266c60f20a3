import Restyle.Proofs.GeneratedClass
import Restyle.Proofs.JsonString

/-!
The class of declarations, whatever order they are given in. Its name ends in the numeral of the
hash, without its sign and without zeros in front, and can stand by itself in a class attribute and
in a selector. Halves of pairs have no hash, so that declarations with one of them have no class; a
text that is only taken for one with a half counts among them.
-/
namespace Restyle

namespace Number

/-! ### Numerals -/

def digitValue (c : Char) : Nat := "0123456789abcdefghijklmnopqrstuvwxyz".toList.idxOf c

/-- What the digits so far are worth when one more stands behind them. -/
def shiftIn (n : Nat) (c : Char) : Nat := n * 36 + digitValue c

def numeralValue (cs : List Char) : Nat := cs.foldl shiftIn 0

/-- Whether a text is the numeral of `n`: digits that are worth that, with no zeros in front. -/
structure IsNumeral (n : Nat) (cs : List Char) : Prop where
  digits : ∀ c ∈ cs, c ∈ "0123456789abcdefghijklmnopqrstuvwxyz".toList
  ne_nil : cs ≠ []
  value : numeralValue cs = n
  noZeros : ∀ rest, cs = '0' :: rest → rest = []

theorem digitValue_digit36 : ∀ d < 36, digitValue (digit36 d) = d := by decide

theorem digit36_eq_zero_iff : ∀ d < 36, digit36 d = '0' ↔ d = 0 := by decide

/-- What the loop has taken off `n` is worth as much behind the rest of it. -/
theorem foldl_digits36 (n : Nat) (acc : List Char) :
    (digits36 n acc).foldl shiftIn 0 = acc.foldl shiftIn n := by
  induction n using Nat.strongRecOn generalizing acc with
  | ind n ih =>
    rw [digits36]
    split
    · next h => rw [h]
    · next h =>
      have hdigit : shiftIn (n / 36) (digit36 (n % 36)) = n := by
        rw [shiftIn, digitValue_digit36 _ (Nat.mod_lt n (by decide))]
        omega
      rw [ih (n / 36) (by omega), List.foldl_cons, hdigit]

/-- The loop ends at a digit that is no zero. -/
theorem exists_digits36_eq_cons {n : Nat} (hn : n ≠ 0) (acc : List Char) :
    ∃ d rest, digits36 n acc = digit36 d :: rest ∧ d ≠ 0 ∧ d < 36 := by
  induction n using Nat.strongRecOn generalizing acc with
  | ind n ih =>
    rw [digits36, dif_neg hn]
    by_cases hlast : n / 36 = 0
    · rw [hlast, digits36, dif_pos rfl]
      exact ⟨n % 36, acc, rfl, by omega, Nat.mod_lt n (by decide)⟩
    · exact ih (n / 36) (by omega) hlast _

theorem base36_isNumeral (n : Nat) : IsNumeral n (base36 n) := by
  have hdigits : ∀ c ∈ base36 n, c ∈ "0123456789abcdefghijklmnopqrstuvwxyz".toList :=
    fun c hc => mem_base36 hc
  by_cases hn : n = 0
  · subst hn
    refine ⟨hdigits, by decide, by decide, fun rest h => ?_⟩
    exact (List.cons.inj h).2.symm
  · have heq : base36 n = digits36 n [] := if_neg hn
    obtain ⟨d, rest, hfirst, hd, hlt⟩ := exists_digits36_eq_cons hn []
    refine ⟨hdigits, ?_, ?_, fun rest' h => ?_⟩
    · rw [heq, hfirst]
      exact List.cons_ne_nil _ _
    · rw [numeralValue, heq, foldl_digits36]
      rfl
    · rw [heq, hfirst] at h
      exact absurd ((digit36_eq_zero_iff d hlt).1 (List.cons.inj h).1) hd

end Number

namespace Text

/-! ### Halves in texts that are put together -/

theorem unitsFault?_eq_none_iff (s : List Char) : unitsFault? s = none ↔ hasHalf s = false := by
  simp [unitsFault?, hasHalf, strayHalves_eq_none_iff]

theorem hasHalf_append_cons {c : Char} (hc : isApart c = true) (a b : List Char) :
    hasHalf (a ++ c :: b) = (hasHalf a || hasHalf b) := by
  simp only [hasHalf, codes_eq]
  rw [codesFrom_append_cons hc, List.any_append, List.any_cons, isHalf_toNat, Bool.false_or]

theorem hasHalf_intercalate {c : Char} (hc : isApart c = true) (ls : List (List Char)) :
    hasHalf ([c].intercalate ls) = ls.any hasHalf := by
  induction ls with
  | nil => rfl
  | cons l ls ih =>
    cases ls with
    | nil => simp [List.intercalate]
    | cons l' ls =>
      rw [List.intercalate_cons_cons, List.append_assoc, List.singleton_append,
        hasHalf_append_cons hc, ih]
      rfl

end Text

namespace Style

open Text Number

/-! ### Declarations in any order -/

variable {fields fields' : List (String × Value)}

/-- Whether a field comes before another one, or has its name. -/
def nameLe (a b : String × Value) : Bool := decide (a.1 ≤ b.1)

theorem sortByName_ofTexts (fields : List (String × Value)) :
    sortByName (Key.ofTexts fields) = Key.ofTexts (fields.mergeSort nameLe) := by
  have hle : ∀ a ∈ fields, ∀ b ∈ fields,
      nameLe a b = (nameLe? (Key.text a.1) (Key.text b.1)).getD true := fun _ _ _ _ => rfl
  exact (List.map_mergeSort (f := fun x : String × Value => (Key.text x.1, x.2)) hle).symm

/-- With names that are all different there is one order of them. -/
theorem mergeSort_eq_of_perm (hnames : (fields.map (·.1)).Nodup) (h : fields'.Perm fields) :
    fields'.mergeSort nameLe = fields.mergeSort nameLe := by
  have htrans : ∀ a b c : String × Value, nameLe a b → nameLe b c → nameLe a c := by
    intro a b c hab hbc
    simp only [nameLe, decide_eq_true_eq] at hab hbc ⊢
    exact String.le_trans hab hbc
  have htotal : ∀ a b : String × Value, (nameLe a b || nameLe b a) = true := by
    intro a b
    simpa [nameLe] using String.le_total a.1 b.1
  have hperm : (fields'.mergeSort nameLe).Perm (fields.mergeSort nameLe) :=
    (List.mergeSort_perm fields' nameLe).trans (h.trans (List.mergeSort_perm fields nameLe).symm)
  refine hperm.eq_of_pairwise ?_ (List.pairwise_mergeSort htrans htotal fields')
    (List.pairwise_mergeSort htrans htotal fields)
  intro a b ha hb hab hba
  simp only [nameLe, decide_eq_true_eq] at hab hba
  have hmem : a ∈ fields := h.mem_iff.1 ((List.mergeSort_perm fields' nameLe).mem_iff.1 ha)
  have hmem' : b ∈ fields := (List.mergeSort_perm fields nameLe).mem_iff.1 hb
  exact List.inj_on_of_nodup_map hnames hmem hmem' (String.le_antisymm hab hba)

/-- Names that are texts have an order. -/
theorem orderFault?_ofTexts (fields : List (String × Value)) :
    orderFault? (Key.ofTexts fields) = none := by
  induction fields with
  | nil => rfl
  | cons x fields ih =>
    cases fields with
    | nil => rfl
    | cons y fields => exact ih

theorem signature_eq_of_perm (hnames : (fields.map (·.1)).Nodup) (h : fields'.Perm fields) :
    signature (Key.ofTexts fields') = signature (Key.ofTexts fields) := by
  rw [signature, sortByName_ofTexts, mergeSort_eq_of_perm hnames h, ← sortByName_ofTexts]
  rfl

theorem hasHalf_signature (ds : Declarations) :
    hasHalf (signature ds) =
      ds.any fun d => hasHalf d.1.display.toList || hasHalf d.2.display.toList := by
  have hperm : (sortByName ds).Perm ds := List.mergeSort_perm ds _
  rw [signature, hasHalf_intercalate (by decide), List.any_map, hperm.any_eq]
  congr
  funext d
  exact hasHalf_append_cons (by decide) _ _

/-! ### Names -/

/-- What can stand in the name of a class in a selector. -/
def isSelectorSign (c : Char) : Bool := c.isLower || c.isDigit || c == '-'

/-- Whether a text can be the name of a class in a selector: it begins with a small letter. -/
structure IsSelectorName (name : List Char) : Prop where
  letter : ∃ c rest, name = c :: rest ∧ c.isLower = true
  signs : ∀ c ∈ name, isSelectorSign c = true

theorem selectorSign_of_nameSign {c : Char} (h : isNameSign c = true) :
    isSelectorSign c = true ∧ isBlank c = false := by
  have hall : "sourcelens-dynamic-0123456789abcdefghijklmnopqrstuvwxyz".toList.all
      (fun c => isSelectorSign c && !isBlank c) = true := by decide
  simpa using List.all_eq_true.1 hall c (List.contains_iff_mem.1 h)

variable {ds : Declarations} {name : String}

theorem toList_of_className (h : className ds = .ok name) :
    name.toList = classPrefix.toList ++ base36 (signedHash (signature ds)).natAbs := by
  rw [className_eq_ok h, nameOf, String.toList_append, String.toList_ofList]

theorem isSelectorName_of_className (h : className ds = .ok name) : IsSelectorName name.toList where
  letter := ⟨'s', _, toList_of_className h, rfl⟩
  signs _ hc := (selectorSign_of_nameSign (isNameSign_of_mem h hc)).1

theorem words_of_className (h : className ds = .ok name) : words name.toList = [name.toList] := by
  refine words_eq_self ?_ fun c hc => (selectorSign_of_nameSign (isNameSign_of_mem h hc)).2
  obtain ⟨c, rest, heq, -⟩ := (isSelectorName_of_className h).letter
  rw [heq]
  exact List.cons_ne_nil c rest

/-- Declarations have a class unless there are halves in their names or values. -/
theorem className_ok_iff (fields : List (String × Value)) :
    (∃ name, className (Key.ofTexts fields) = .ok name) ↔
      ∀ x ∈ fields, hasHalf x.1.toList = false ∧ hasHalf x.2.display.toList = false := by
  have hhalf : hasHalf (signature (Key.ofTexts fields)) = false ↔
      ∀ x ∈ fields, hasHalf x.1.toList = false ∧ hasHalf x.2.display.toList = false := by
    rw [hasHalf_signature, Key.ofTexts, List.any_map]
    simp [Key.display, Key.toValue, Value.display]
  rw [← hhalf, ← unitsFault?_eq_none_iff, className, orderFault?_ofTexts]
  simp only [hashOf]
  cases unitsFault? (signature (Key.ofTexts fields)) with
  | none => simp [Except.map]
  | some f => simp [Except.map]

/-- The class of declarations with different names depends on the declarations alone and not on
their order. They have one unless there are halves in them, and then it is the numeral of their
hash behind what all such classes begin with, one word, and a name that a selector can have. -/
theorem className_canonical (hnames : (fields.map (·.1)).Nodup) :
    (∀ fields', fields'.Perm fields →
      className (Key.ofTexts fields') = className (Key.ofTexts fields)) ∧
    ((∃ name, className (Key.ofTexts fields) = .ok name) ↔
      ∀ x ∈ fields, hasHalf x.1.toList = false ∧ hasHalf x.2.display.toList = false) ∧
    ∀ name, className (Key.ofTexts fields) = .ok name →
      (∃ numeral, name.toList = classPrefix.toList ++ numeral ∧
        IsNumeral (signedHash (signature (Key.ofTexts fields))).natAbs numeral) ∧
      words name.toList = [name.toList] ∧ IsSelectorName name.toList := by
  refine ⟨fun fields' h => ?_, className_ok_iff fields, fun name h => ?_⟩
  · rw [className, orderFault?_ofTexts, className, orderFault?_ofTexts,
      signature_eq_of_perm hnames h]
  · exact ⟨⟨_, toList_of_className h, base36_isNumeral _⟩, words_of_className h,
      isSelectorName_of_className h⟩

/-- Two declarations, one of them of a number. -/
def layeredRed : List (String × Value) := [("z-index", .int 10), ("color", .str "red")]

theorem className_canonical_layered :
    (layeredRed.map (·.1)).Nodup ∧
    className (Key.ofTexts [("color", .str "red"), ("z-index", .int 10)]) =
      className (Key.ofTexts layeredRed) ∧
    ∃ name, className (Key.ofTexts layeredRed) = .ok name ∧ words name.toList = [name.toList] := by
  have hnames : (layeredRed.map (·.1)).Nodup := by decide
  obtain ⟨horder, hthere, hname⟩ := className_canonical hnames
  obtain ⟨name, h⟩ := hthere.2 (by decide)
  exact ⟨hnames, horder _ (List.Perm.swap _ _ []), name, h, (hname name h).2.1⟩

/-- A colour of which half a character is the name has no class. -/
theorem className_of_half_fails :
    ([("color", Value.str (String.ofList (ofHalf 0xD800)))].map (·.1)).Nodup ∧
    ¬ ∃ name, className (Key.ofTexts [("color", .str (String.ofList (ofHalf 0xD800)))]) =
      .ok name := by
  refine ⟨by decide, fun h => ?_⟩
  have hno := ((className_ok_iff _).1 h _ (List.mem_singleton_self _)).2
  exact absurd hno (by decide)

end Style

end Restyle
