import Restyle.Element.Capture
import Restyle.Proofs.JsonString

/-!
When the key of a capture tells it apart. Signs are lost in the key, so two captures whose fields
differ in signs alone share it. Fields of words that are joined by one known sign each do not.
-/
namespace Restyle

open Text

/-- Whether a text is of words of letters and digits with one sign between two of them. `open_`
tells whether a word has begun. -/
def isJoined (sign : Char) (open_ : Bool) : List Char → Bool
  | [] => open_
  | c :: rest =>
    if c.isAlphanum then isJoined sign true rest
    else open_ && c == sign && isJoined sign false rest

/-- A sign that stands for itself between quotes and is lost in a key. -/
structure JoinSign where
  sign : Char
  visible : 32 ≤ sign.toNat ∧ sign.toNat < 127
  noQuote : sign ≠ '"'
  noEscape : sign ≠ '\\'
  lost : sign.isAlphanum = false

/-- A field that says nothing or is a text of joined words. -/
def JoinSign.Fits (j : JoinSign) : Value → Prop
  | .null => True
  | .str s => isJoined j.sign false s.toList
  | _ => False

instance (j : JoinSign) : (v : Value) → Decidable (j.Fits v)
  | .null => isTrue trivial
  | .str s => inferInstanceAs (Decidable (isJoined j.sign false s.toList))
  | .bool _ | .int _ | .real _ | .list _ | .tableOf _ _ | .moment _ => isFalse id

namespace Value

theorem isAlphanum_visible {c : Char} (h : c.isAlphanum) :
    (32 ≤ c.toNat ∧ c.toNat < 127) ∧ c ≠ '"' ∧ c ≠ '\\' := by
  refine ⟨?_, ?_, ?_⟩
  · delta Char.isAlphanum Char.isAlpha Char.isUpper Char.isLower Char.isDigit at h
    simp only [Bool.or_eq_true, Bool.and_eq_true, decide_eq_true_eq, ge_iff_le,
      UInt32.le_iff_toNat_le] at h
    have e : c.toNat = c.val.toNat := rfl
    simp at h
    omega
  · rintro rfl
    simp at h
  · rintro rfl
    simp at h

/-- Whether a character stands for itself between quotes. -/
def IsBare (c : Char) : Prop := (32 ≤ c.toNat ∧ c.toNat < 127) ∧ c ≠ '"' ∧ c ≠ '\\'

theorem quote_of_isBare {s : String} (h : ∀ c ∈ s.toList, IsBare c) :
    quote s = '"' :: s.toList ++ ['"'] := by
  have hm : halfMark ∉ s.toList := by
    intro hm
    have := (h _ hm).1.2
    simp [halfMark] at this
  have hf : ∀ l : List Char, (∀ c ∈ l, IsBare c) → (l.map Char.toNat).flatMap escapeCode = l := by
    intro l hl
    induction l with
    | nil => rfl
    | cons c l ih =>
      obtain ⟨hv, hq, hb⟩ := hl c List.mem_cons_self
      have ih := ih fun d hd => hl d (List.mem_cons_of_mem _ hd)
      simp [escapeCode_visible hv hq hb, ih]
  rw [quote, codes_eq, codesFrom_eq_map hm, hf _ h]

end Value

theorem isBare_of_isJoined (j : JoinSign) {s : List Char} {open_ : Bool}
    (h : isJoined j.sign open_ s) : ∀ c ∈ s, Value.IsBare c := by
  induction s generalizing open_ with
  | nil => simp
  | cons c s ih =>
    intro d hd
    rw [isJoined] at h
    split at h
    · next hc =>
      rcases List.mem_cons.1 hd with rfl | hd
      · exact Value.isAlphanum_visible hc
      · exact ih h d hd
    · simp only [Bool.and_eq_true, beq_iff_eq] at h
      rcases List.mem_cons.1 hd with rfl | hd
      · rw [h.1.2]
        exact ⟨j.visible, j.noQuote, j.noEscape⟩
      · exact ih h.2 d hd

namespace Capture

theorem keyChar_of_isAlphanum {c : Char} (h : c.isAlphanum) : keyChar c = c ∧ c ≠ '_' := by
  refine ⟨by simp [keyChar, h], ?_⟩
  rintro rfl
  simp at h

theorem keyChar_of_not_isAlphanum {c : Char} (h : ¬ c.isAlphanum) : keyChar c = '_' := by
  simp [keyChar, h]

/-- A joined text goes on behind a sign with a letter, not with another sign. -/
private theorem not_two_signs {j : JoinSign} {open_ : Bool} {c : Char} {t r r' : List Char}
    (ht : isJoined j.sign open_ (c :: t))
    (h : '_' :: '_' :: r = (c :: t).map keyChar ++ '_' :: '_' :: r') : False := by
  rw [isJoined] at ht
  simp only [List.map_cons, List.cons_append, List.cons.injEq] at h
  split at ht
  · next hc =>
    obtain ⟨e, hne⟩ := keyChar_of_isAlphanum hc
    exact hne (e ▸ h.1.symm)
  · simp only [Bool.and_eq_true] at ht
    cases t with
    | nil => simp [isJoined] at ht
    | cons d t =>
      have hd := ht.2
      rw [isJoined] at hd
      split at hd
      · next hd' =>
        obtain ⟨e, hne⟩ := keyChar_of_isAlphanum hd'
        simp only [List.map_cons, List.cons_append, List.cons.injEq] at h
        exact hne (e ▸ h.2.1.symm)
      · simp at hd

/-- Two signs in a row end a text of joined words in a key. -/
theorem eq_of_map_keyChar {j : JoinSign} {s s' : List Char} {open_ : Bool} {r r' : List Char}
    (hs : isJoined j.sign open_ s) (hs' : isJoined j.sign open_ s')
    (h : s.map keyChar ++ '_' :: '_' :: r = s'.map keyChar ++ '_' :: '_' :: r') :
    s = s' ∧ r = r' := by
  induction s generalizing s' open_ with
  | nil =>
    cases s' with
    | nil => simpa using h
    | cons c t => exact (not_two_signs hs' h).elim
  | cons c s ih =>
    cases s' with
    | nil => exact (not_two_signs hs h.symm).elim
    | cons d t =>
      simp only [List.map_cons, List.cons_append, List.cons.injEq] at h
      rw [isJoined] at hs hs'
      by_cases hc : c.isAlphanum
      · obtain ⟨e, hne⟩ := keyChar_of_isAlphanum hc
        have hd : d.isAlphanum := by
          apply Classical.byContradiction
          intro hd
          rw [keyChar_of_not_isAlphanum hd, e] at h
          exact hne h.1
        rw [if_pos hc] at hs
        rw [if_pos hd] at hs'
        rw [e, (keyChar_of_isAlphanum hd).1] at h
        obtain ⟨rfl, hr⟩ := ih hs hs' h.2
        exact ⟨by rw [h.1], hr⟩
      · have hd : ¬ d.isAlphanum := by
          intro hd
          obtain ⟨e, hne⟩ := keyChar_of_isAlphanum hd
          rw [keyChar_of_not_isAlphanum hc, e] at h
          exact hne h.1.symm
        rw [if_neg hc] at hs
        rw [if_neg hd] at hs'
        simp only [Bool.and_eq_true, beq_iff_eq] at hs hs'
        obtain ⟨rfl, hr⟩ := ih hs.2 hs'.2 h.2
        exact ⟨by rw [hs.1.2, hs'.1.2], hr⟩

/-- What a field becomes in a key. -/
def fieldKey (v : Value) : List Char := (Value.write .flat 1 v).map keyChar

@[simp] theorem fieldKey_null : fieldKey .null = "null".toList := rfl

theorem fieldKey_str {j : JoinSign} {s : String} (h : isJoined j.sign false s.toList) :
    fieldKey (.str s) = '_' :: s.toList.map keyChar ++ ['_'] := by
  have hq : keyChar '"' = '_' := rfl
  rw [fieldKey, Value.write, Value.quote_of_isBare (isBare_of_isJoined j h)]
  simp [hq]

/-- A field of joined words can be told from the front of a key. -/
theorem eq_of_fieldKey {j : JoinSign} {v v' : Value} (hv : j.Fits v) (hv' : j.Fits v')
    {r r' : List Char} (h : fieldKey v ++ '_' :: r = fieldKey v' ++ '_' :: r') :
    v = v' ∧ r = r' := by
  cases v <;> try exact hv.elim
  case null =>
    cases v' <;> try exact hv'.elim
    case null => simpa using h
    case str s' =>
      rw [fieldKey_str hv'] at h
      simp at h
  case str s =>
    cases v' <;> try exact hv'.elim
    case null =>
      rw [fieldKey_str hv] at h
      simp at h
    case str s' =>
      rw [fieldKey_str hv, fieldKey_str hv'] at h
      simp only [List.cons_append, List.append_assoc, List.nil_append, List.cons.injEq,
        true_and] at h
      obtain ⟨hs, hr⟩ := eq_of_map_keyChar hv hv' h
      rw [String.toList_inj] at hs
      exact ⟨by rw [hs], hr⟩

/-- The signs that join the words of each field. -/
structure Joints where
  tag : JoinSign
  id : JoinSign
  classes : JoinSign
  text : JoinSign

/-- A capture of joined words whose text counts in full. -/
structure IsJoined (j : Joints) (c : Capture) : Prop where
  tag : j.tag.Fits c.tag
  id : j.id.Fits c.id
  classes : j.classes.Fits c.classes
  text : j.text.Fits c.text
  short : ∀ s, c.text = .str s → s.toList.length ≤ keyTextLength

theorem keyText_of_fits {j : JoinSign} {v : Value} (hv : j.Fits v)
    (hs : ∀ s, v = .str s → s.toList.length ≤ keyTextLength) : keyText v = .ok v := by
  cases v <;> try exact hv.elim
  case null => rfl
  case str s =>
    have hne : s.isEmpty = false := by
      cases e : s.isEmpty with
      | false => rfl
      | true =>
        have : s = "" := by simpa using e
        subst this
        exact absurd hv (by simp [JoinSign.Fits, isJoined])
    have hm : halfMark ∉ s.toList := by
      intro hm
      have hlt := (isBare_of_isJoined j hv _ hm).1.2
      simp [halfMark] at hlt
    have ht : takePoints keyTextLength s.toList = s.toList := by
      rw [takePoints_eq_take hm, List.take_of_length_le (hs s rfl)]
    simp [keyText, hne, ht]

private theorem sorted_of_fits {j : JoinSign} {v : Value} (hv : j.Fits v) : v.sorted = v := by
  cases v <;> first | exact hv.elim | rfl

private theorem keyFields_sorted (a b c d : Value) :
    [("className", a), ("id", b), ("tagName", c), ("textContent", d)].mergeSort
      (fun x y => Value.nameLe x.1 y.1) =
    [("className", a), ("id", b), ("tagName", c), ("textContent", d)] := by
  apply List.mergeSort_of_pairwise
  have h1 : Value.nameLe "className" "id" = true := by decide
  have h2 : Value.nameLe "className" "tagName" = true := by decide
  have h3 : Value.nameLe "className" "textContent" = true := by decide
  have h4 : Value.nameLe "id" "tagName" = true := by decide
  have h5 : Value.nameLe "id" "textContent" = true := by decide
  have h6 : Value.nameLe "tagName" "textContent" = true := by decide
  simp [h1, h2, h3, h4, h5, h6]

theorem key_of_isJoined {j : Joints} {c : Capture} (h : c.IsJoined j) :
    c.key = .ok ("element_" ++ String.ofList ("__className___".toList ++ (fieldKey c.classes ++
      '_' :: ("__id___".toList ++ (fieldKey c.id ++ '_' :: ("__tagName___".toList ++
      (fieldKey c.tag ++ '_' :: ("__textContent___".toList ++ (fieldKey c.text ++ '_' :: []))))))))) := by
  have e1 : (Value.quote "className").map keyChar = "_className_".toList := by decide
  have e2 : (Value.quote "id").map keyChar = "_id_".toList := by decide
  have e3 : (Value.quote "tagName").map keyChar = "_tagName_".toList := by decide
  have e4 : (Value.quote "textContent").map keyChar = "_textContent_".toList := by decide
  have k1 : keyChar ':' = '_' := rfl
  have k2 : keyChar ' ' = '_' := rfl
  have k3 : keyChar ',' = '_' := rfl
  have k4 : keyChar '\x7b' = '_' := rfl
  have k5 : keyChar '\x7d' = '_' := rfl
  have hl : Value.Layout.flat.between 0 = ", ".toList := rfl
  unfold key
  rw [keyText_of_fits h.text h.short]
  simp only [bind, Except.bind, pure, Except.pure, Value.sorted, Value.sortedFields,
    sorted_of_fits h.classes, sorted_of_fits h.id, sorted_of_fits h.tag, sorted_of_fits h.text,
    keyFields_sorted, Value.write, Value.writeFields, hl]
  simp [e1, e2, e3, e4, k1, k2, k3, k4, k5, fieldKey, Value.Layout.flat]

/-- Which signs join the words is lost in a key. -/
theorem key_eq_of_fieldKey_eq {j j' : Joints} {c c' : Capture} (h : c.IsJoined j)
    (h' : c'.IsJoined j') (htag : fieldKey c.tag = fieldKey c'.tag)
    (hid : fieldKey c.id = fieldKey c'.id) (hclasses : fieldKey c.classes = fieldKey c'.classes)
    (htext : fieldKey c.text = fieldKey c'.text) : c.key = c'.key := by
  rw [key_of_isJoined h, key_of_isJoined h', htag, hid, hclasses, htext]

/-- Captures of words that are joined the same way are told apart by their keys. -/
theorem eq_of_key_eq {j : Joints} {c c' : Capture} (h : c.IsJoined j) (h' : c'.IsJoined j)
    (e : c.key = c'.key) :
    c.tag = c'.tag ∧ c.id = c'.id ∧ c.classes = c'.classes ∧ c.text = c'.text := by
  rw [key_of_isJoined h, key_of_isJoined h', Except.ok.injEq, String.append_right_inj,
    String.ofList_inj] at e
  obtain ⟨hc, e⟩ := eq_of_fieldKey h.classes h'.classes (List.append_cancel_left e)
  obtain ⟨hi, e⟩ := eq_of_fieldKey h.id h'.id (List.append_cancel_left e)
  obtain ⟨ht, e⟩ := eq_of_fieldKey h.tag h'.tag (List.append_cancel_left e)
  obtain ⟨hx, -⟩ := eq_of_fieldKey h.text h'.text (List.append_cancel_left e)
  exact ⟨ht, hi, hc, hx⟩

end Capture

end Restyle
