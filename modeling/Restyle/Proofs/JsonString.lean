import Mathlib.Data.List.Chain
import Restyle.Value.Json

/-!
A text between quotes is read back as it was written, but for the two halves of a pair that follow
one another in it: these are read as one character.
-/
namespace Restyle

open Text

namespace Text

theorem codesFrom_cons (a : Char) (s : List Char) :
    codesFrom (a :: s) = a.toNat :: codesFrom s ∨
      ∃ b rest n, s = b :: rest ∧ halfOf? a b = some n ∧
        codesFrom (a :: s) = n :: codesFrom rest := by
  cases s with
  | nil => exact .inl rfl
  | cons b rest =>
    cases h : halfOf? a b with
    | none => exact .inl (by simp [codesFrom, h])
    | some n => exact .inr ⟨b, rest, n, rfl, h, by simp [codesFrom, h]⟩

/-- Whether a character is neither the mark of a half nor one that tells which half is meant. -/
def isApart (c : Char) : Bool := c != halfMark && !isHalf (c.toNat - halfShift)

/-- No half has part of it before such a character and part of it behind. -/
theorem codesFrom_append_cons {c : Char} (hc : isApart c = true) (a b : List Char) :
    codesFrom (a ++ c :: b) = codesFrom a ++ c.toNat :: codesFrom b := by
  simp only [isApart, Bool.and_eq_true, bne_iff_ne, Bool.not_eq_true'] at hc
  have hfirst : codesFrom (c :: b) = c.toNat :: codesFrom b := by
    rcases codesFrom_cons c b with h | ⟨d, rest, n, -, h, -⟩
    · exact h
    · simp [halfOf?, hc.1] at h
  fun_induction codesFrom a with
  | case1 x y rest n h ih =>
    simp only [List.cons_append, codesFrom, h, ih]
  | case2 x y rest h ih =>
    simp only [List.cons_append, codesFrom, h]
    rw [← List.cons_append, ih]
  | case3 x =>
    have h : halfOf? x c = none := by simp [halfOf?, hc.2]
    simp only [List.cons_append, List.nil_append, codesFrom, h, hfirst]
  | case4 => exact hfirst

theorem ofHalf_of_halfOf? {a b : Char} {n : Nat} (h : halfOf? a b = some n) :
    isHalf n ∧ ofHalf n = [a, b] := by
  simp only [halfOf?, Bool.and_eq_true, decide_eq_true_eq, Option.ite_none_right_eq_some,
    Option.some.injEq] at h
  obtain ⟨⟨ha, hn⟩, rfl⟩ := h
  refine ⟨hn, ?_⟩
  have hb : b.toNat - halfShift + halfShift = b.toNat := by
    simp only [isHalf, Bool.and_eq_true, decide_eq_true_eq] at hn
    omega
  rw [ofHalf, hb, Char.ofNat_toNat, ha]

theorem isHalf_toNat (c : Char) : isHalf c.toNat = false := by
  have h := c.valid
  simp only [UInt32.isValidChar, Nat.isValidChar] at h
  have e : c.toNat = c.val.toNat := rfl
  simp only [isHalf, Bool.and_eq_false_iff, decide_eq_false_iff_not]
  omega

theorem ofCode_toNat (c : Char) : ofCode c.toNat = [c] := by
  simp [ofCode, isHalf_toNat, Char.ofNat_toNat]

/-- The characters that hold the code points of a text are the text. -/
theorem flatMap_ofCode_codesFrom (s : List Char) : (codesFrom s).flatMap ofCode = s := by
  fun_induction codesFrom s with
  | case1 a b rest n h ih =>
    obtain ⟨hn, e⟩ := ofHalf_of_halfOf? h
    simp [ofCode, hn, e, ih]
  | case2 a b rest h ih => simp [ofCode_toNat, ih]
  | case3 c => simp [ofCode_toNat]
  | case4 => rfl

theorem flatMap_ofCode_codes (s : List Char) : (codes s).flatMap ofCode = s := by
  rw [codes_eq, flatMap_ofCode_codesFrom]

theorem toNat_lt (c : Char) : c.toNat < 0x110000 := by
  have h := c.valid
  simp only [UInt32.isValidChar, Nat.isValidChar] at h
  have e : c.toNat = c.val.toNat := rfl
  omega

theorem lt_of_mem_codes {s : List Char} {n : Nat} (h : n ∈ codes s) : n < 0x110000 := by
  rw [codes_eq] at h
  fun_induction codesFrom s with
  | case1 a b rest m hm ih =>
    rcases List.mem_cons.1 h with rfl | h
    · have hn := (ofHalf_of_halfOf? hm).1
      simp only [isHalf, Bool.and_eq_true, decide_eq_true_eq] at hn
      omega
    · exact ih h
  | case2 a b rest hm ih =>
    rcases List.mem_cons.1 h with rfl | h
    · exact toNat_lt a
    · exact ih h
  | case3 c => exact (List.mem_singleton.1 h) ▸ toNat_lt c
  | case4 => simp at h

/-- Whether a code point is the first half of a pair. -/
def isLeading (n : Nat) : Bool := 0xD800 ≤ n && n < 0xDC00

/-- Whether a code point is the second half of a pair. -/
def isTrailing (n : Nat) : Bool := 0xDC00 ≤ n && n < 0xE000

/-- Whether no first half of a pair is directly followed by a second one. -/
def IsPaired (s : List Char) : Prop :=
  (codes s).IsChain fun m n => ¬(isLeading m = true ∧ isTrailing n = true)

theorem isPaired_of_leading {s : List Char} (h : ∀ n ∈ codes s, isLeading n = false) :
    IsPaired s := by
  refine (List.pairwise_iff_forall_sublist.2 fun {m n} hmn => ?_).isChain
  rintro ⟨hm, -⟩
  rw [h m (hmn.mem List.mem_cons_self)] at hm
  cases hm

theorem isPaired_of_notMem {s : List Char} (h : halfMark ∉ s) : IsPaired s := by
  refine isPaired_of_leading fun n hn => ?_
  rw [codes_eq, codesFrom_eq_map h] at hn
  obtain ⟨c, -, rfl⟩ := List.mem_map.1 hn
  have hc := isHalf_toNat c
  simp only [isHalf, isLeading, Bool.and_eq_false_iff, decide_eq_false_iff_not] at hc ⊢
  omega

/-- The code points of a text in which halves that follow one another are joined. -/
def joinHalves : List Nat → List Nat
  | m :: n :: ns =>
    if isLeading m && isTrailing n then
      (0x10000 + (m - 0xD800) * 1024 + (n - 0xDC00)) :: joinHalves ns
    else m :: joinHalves (n :: ns)
  | [n] => [n]
  | [] => []

/-- The text in which halves that follow one another are joined. -/
def joined (s : String) : String := String.ofList ((joinHalves (codes s.toList)).flatMap ofCode)

theorem joined_of_isPaired {s : String} (h : IsPaired s.toList) : joined s = s := by
  have same (ns : List Nat)
      (h : ns.IsChain fun m n => ¬(isLeading m = true ∧ isTrailing n = true)) :
      joinHalves ns = ns := by
    fun_induction joinHalves ns with
    | case1 m n ns hmn ih =>
      exact absurd (Bool.and_eq_true_iff.1 hmn) (List.isChain_cons_cons.1 h).1
    | case2 m n ns hmn ih => rw [ih (List.isChain_cons_cons.1 h).2]
    | case3 n => rfl
    | case4 => rfl
  rw [joined, same _ h, flatMap_ofCode_codes, String.ofList_toList]

end Text

namespace Value

open Number

theorem hexValue?_hexDigit (n : Nat) (h : n < 16) : hexValue? (hexDigit n) = some n := by
  have all : ∀ m : Fin 16, hexValue? (hexDigit m) = some m.val := by decide
  exact all ⟨n, h⟩

theorem readHex4_hex4 {n : Nat} (h : n < 0x10000) (rest : List Char) :
    readHex4 (hex4 n ++ rest) = some (n, rest) := by
  have e : ((n / 4096 % 16 * 16 + n / 256 % 16) * 16 + n / 16 % 16) * 16 + n % 16 = n := by omega
  simp [hex4, readHex4, hexValue?_hexDigit _ (Nat.mod_lt _ (by decide : 0 < 16)), e]

theorem readUnicode_hex4 {n : Nat} (h : n < 0x10000) (hl : isLeading n = false)
    (rest : List Char) : readUnicode (hex4 n ++ rest) = some (n, rest) := by
  have hn : ¬(0xD800 ≤ n ∧ n < 0xDC00) := by
    simpa [isLeading] using hl
  simp only [readUnicode, readHex4_hex4 h, if_neg hn]

/-- Whether what follows an escaped first half is no escaped second half. -/
def IsApart (s : List Char) : Prop :=
  ∀ more m rest, s = '\\' :: 'u' :: more → readHex4 more = some (m, rest) → isTrailing m = false

theorem isApart_of_ne {c : Char} (h : c ≠ '\\') (s : List Char) : IsApart (c :: s) :=
  fun _ _ _ e _ => absurd (List.cons.inj e).1 h

theorem isApart_of_not_unicode {c : Char} (h : c ≠ 'u') (s : List Char) :
    IsApart ('\\' :: c :: s) :=
  fun _ _ _ e _ => absurd (List.cons.inj (List.cons.inj e).2).1 h

theorem isApart_hex4 {n : Nat} (hn : n < 0x10000) (h : isTrailing n = false) (s : List Char) :
    IsApart ('\\' :: 'u' :: (hex4 n ++ s)) := by
  intro more m rest e hm
  rw [← (List.cons.inj (List.cons.inj e).2).2, readHex4_hex4 hn] at hm
  obtain ⟨rfl, -⟩ := Prod.mk.inj (Option.some.inj hm)
  exact h

/-- A first half that no second half follows is read alone. -/
theorem readUnicode_apart {n : Nat} (h : n < 0x10000) {rest : List Char} (hr : IsApart rest) :
    readUnicode (hex4 n ++ rest) = some (n, rest) := by
  simp only [readUnicode, readHex4_hex4 h]
  split
  · split
    · next more =>
      split
      · next m rest' hm =>
        have ht := hr more m rest' rfl hm
        simp only [isTrailing, Bool.and_eq_false_iff, decide_eq_false_iff_not] at ht
        rw [if_neg (by omega)]
      · rfl
    · rfl
  · rfl

theorem readUnicode_pair {hi lo : Nat} (hhi : 0xD800 ≤ hi ∧ hi < 0xDC00)
    (hlo : 0xDC00 ≤ lo ∧ lo < 0xE000) (rest : List Char) :
    readUnicode (hex4 hi ++ '\\' :: 'u' :: (hex4 lo ++ rest)) =
      some (0x10000 + (hi - 0xD800) * 1024 + (lo - 0xDC00), rest) := by
  have h1 : hi < 0x10000 := by omega
  have h2 : lo < 0x10000 := by omega
  simp only [readUnicode, readHex4_hex4 h1, if_pos hhi, readHex4_hex4 h2, if_pos hlo]

theorem ofNat_toNat_of_not_isHalf {n : Nat} (hn : n < 0x110000) (h : isHalf n = false) :
    (Char.ofNat n).toNat = n := by
  have hv : n.isValidChar := by
    simp only [isHalf, Bool.and_eq_false_iff, decide_eq_false_iff_not] at h
    simp only [Nat.isValidChar]
    omega
  rw [Char.ofNat, dif_pos hv]
  rfl

theorem escapeCode_visible {c : Char} (h : 32 ≤ c.toNat ∧ c.toNat < 127) (hq : c ≠ '"')
    (hb : c ≠ '\\') : escapeCode c.toNat = [c] := by
  unfold escapeCode
  rw [Char.ofNat_toNat]
  have low (d : Char) (hd : d.toNat < 32) : c ≠ d := by
    intro e
    subst e
    omega
  split
  · exact absurd rfl hq
  · exact absurd rfl hb
  · exact absurd rfl (low '\n' (by decide))
  · exact absurd rfl (low '\r' (by decide))
  · exact absurd rfl (low '\t' (by decide))
  · exact absurd rfl (low '\x0c' (by decide))
  · exact absurd rfl (low '\x08' (by decide))
  · rw [if_pos h]

private theorem unitsOf_pair {n : Nat} (h : 0x10000 ≤ n) :
    unitsOf n = [0xD800 + (n - 0x10000) / 1024, 0xDC00 + (n - 0x10000) % 1024] := by
  rw [unitsOf, if_neg (by omega)]

private theorem escapeCode_half {n : Nat} (h : isHalf n) :
    escapeCode n = '\\' :: 'u' :: hex4 n := by
  simp only [isHalf, Bool.and_eq_true, decide_eq_true_eq] at h
  have hz : Char.ofNat n = Char.ofNat 0 := by
    have hv : ¬ n.isValidChar := by
      simp only [Nat.isValidChar]
      omega
    rw [Char.ofNat, dif_neg hv]
    rfl
  have hb : ¬(32 ≤ n ∧ n < 127) := by omega
  have hs : n < 0x10000 := by omega
  unfold escapeCode
  rw [hz]
  simp [hb, unitsOf, hs]

private theorem readString_visible {c : Char} (hq : c ≠ '"') (hb : c ≠ '\\')
    (hv : ¬(c.toNat < 32 ∨ c = '\\')) (fuel : Nat) (acc rest : List Char) :
    readString (fuel + 1) acc (c :: rest) = readString fuel (c :: acc) rest := by
  rw [readString, if_neg hv]
  · exact hq
  · intro r e
    exact absurd e hb
  · intro e r h
    exact absurd h hb

private theorem readString_escapeChar (c : Char) (fuel : Nat) (acc rest : List Char) :
    readString (fuel + 1) acc (escapeCode c.toNat ++ rest) = readString fuel (c :: acc) rest := by
  have hh := isHalf_toNat c
  have hn := toNat_lt c
  have hl : isLeading c.toNat = false := by
    simp only [isHalf, isLeading, Bool.and_eq_false_iff, decide_eq_false_iff_not] at hh ⊢
    omega
  unfold escapeCode
  rw [Char.ofNat_toNat]
  split
  · simp [readString, unescape?]
  · simp [readString, unescape?]
  · simp [readString, unescape?]
  · simp [readString, unescape?]
  · simp [readString, unescape?]
  · simp [readString, unescape?]
  · simp [readString, unescape?]
  · next hq hb _ _ _ _ _ =>
    split
    · next hv =>
      have hv' : ¬(c.toNat < 32 ∨ c = '\\') := by
        rintro (h | h)
        · omega
        · exact hb h
      exact readString_visible hq hb hv' fuel acc rest
    · by_cases hs : c.toNat < 0x10000
      · have hu : unitsOf c.toNat = [c.toNat] := by rw [unitsOf, if_pos hs]
        simp only [hu, List.flatMap_cons, List.flatMap_nil, List.append_nil, List.cons_append,
          readString, readUnicode_hex4 hs hl, ofCode_toNat, List.reverse_singleton,
          List.nil_append]
      · have h1 : 0x10000 ≤ c.toNat := by omega
        have hhi : 0xD800 ≤ 0xD800 + (c.toNat - 0x10000) / 1024 ∧
            0xD800 + (c.toNat - 0x10000) / 1024 < 0xDC00 := by omega
        have hlo : 0xDC00 ≤ 0xDC00 + (c.toNat - 0x10000) % 1024 ∧
            0xDC00 + (c.toNat - 0x10000) % 1024 < 0xE000 := by omega
        have hc : 0x10000 + (0xD800 + (c.toNat - 0x10000) / 1024 - 0xD800) * 1024 +
            (0xDC00 + (c.toNat - 0x10000) % 1024 - 0xDC00) = c.toNat := by omega
        simp only [unitsOf_pair h1, List.flatMap_cons, List.flatMap_nil, List.append_nil,
          List.cons_append, List.append_assoc, readString, readUnicode_pair hhi hlo, hc,
          ofCode_toNat, List.reverse_singleton, List.nil_append]

/-- The quoted form of a code point is no escaped second half, unless the code point is. -/
theorem isApart_escapeCode {n : Nat} (hn : n < 0x110000) (h : isTrailing n = false)
    (rest : List Char) : IsApart (escapeCode n ++ rest) := by
  unfold escapeCode
  split
  · exact isApart_of_not_unicode (by decide) rest
  · exact isApart_of_not_unicode (by decide) rest
  · exact isApart_of_not_unicode (by decide) rest
  · exact isApart_of_not_unicode (by decide) rest
  · exact isApart_of_not_unicode (by decide) rest
  · exact isApart_of_not_unicode (by decide) rest
  · exact isApart_of_not_unicode (by decide) rest
  · next hb _ _ _ _ _ =>
    split
    · exact isApart_of_ne hb rest
    · by_cases hs : n < 0x10000
      · have hu : unitsOf n = [n] := by rw [unitsOf, if_pos hs]
        simp only [hu, List.flatMap_cons, List.flatMap_nil, List.append_nil, List.cons_append]
        exact isApart_hex4 hs h rest
      · have h1 : 0x10000 ≤ n := by omega
        simp only [unitsOf_pair h1, List.flatMap_cons, List.cons_append, List.append_assoc]
        refine isApart_hex4 (by omega) ?_ _
        simp only [isTrailing, Bool.and_eq_false_iff, decide_eq_false_iff_not]
        omega

/-- The quoted form of a code point is read as the characters that hold it. -/
theorem readString_escapeCode {n : Nat} (hn : n < 0x110000) (fuel : Nat)
    (acc : List Char) {rest : List Char} (hr : isLeading n = true → IsApart rest) :
    readString (fuel + 1) acc (escapeCode n ++ rest) =
      readString fuel ((ofCode n).reverse ++ acc) rest := by
  cases hh : isHalf n with
  | true =>
    have hs : n < 0x10000 := by
      simp only [isHalf, Bool.and_eq_true, decide_eq_true_eq] at hh
      omega
    have hread : readUnicode (hex4 n ++ rest) = some (n, rest) := by
      cases hl : isLeading n with
      | true => exact readUnicode_apart hs (hr hl)
      | false => exact readUnicode_hex4 hs hl rest
    rw [escapeCode_half hh]
    simp only [List.cons_append, readString, hread]
  | false =>
    have ho : ofCode n = [Char.ofNat n] := by simp [ofCode, hh]
    have h := readString_escapeChar (Char.ofNat n) fuel acc rest
    rw [ofNat_toNat_of_not_isHalf hn hh] at h
    rw [ho]
    exact h

private theorem escapeCode_ne_nil (n : Nat) : escapeCode n ≠ [] := by
  unfold escapeCode
  split <;> try simp
  split
  · simp
  · unfold unitsOf
    split <;> simp

/-- Two escaped halves are read as the character that they are the halves of. -/
theorem readString_pair {m n : Nat} (hm : isLeading m = true) (hn : isTrailing n = true)
    (fuel : Nat) (acc rest : List Char) :
    readString (fuel + 1) acc (escapeCode m ++ (escapeCode n ++ rest)) =
      readString fuel ((ofCode (0x10000 + (m - 0xD800) * 1024 + (n - 0xDC00))).reverse ++ acc)
        rest := by
  simp only [isLeading, isTrailing, Bool.and_eq_true, decide_eq_true_eq] at hm hn
  have hhalf : isHalf m ∧ isHalf n := by
    simp only [isHalf, Bool.and_eq_true, decide_eq_true_eq]
    omega
  rw [escapeCode_half hhalf.1, escapeCode_half hhalf.2]
  simp only [List.cons_append, readString, readUnicode_pair hm hn]

theorem readString_codes {ns : List Nat} (h : ∀ n ∈ ns, n < 0x110000) (rest : List Char) :
    ∀ (fuel : Nat) (acc : List Char), (ns.flatMap escapeCode).length < fuel →
      readString fuel acc (ns.flatMap escapeCode ++ '"' :: rest) =
        some (String.ofList (acc.reverse ++ (joinHalves ns).flatMap ofCode), rest) := by
  have fewer {n fuel : Nat} {s : List Char} (hf : (escapeCode n ++ s).length < fuel + 1) :
      s.length < fuel := by
    have hpos := List.length_pos_iff.2 (escapeCode_ne_nil n)
    rw [List.length_append] at hf
    omega
  fun_induction joinHalves ns with
  | case1 m n ns hmn ih =>
    intro fuel acc hf
    obtain ⟨k, rfl⟩ : ∃ k, fuel = k + 1 := ⟨fuel - 1, by omega⟩
    obtain ⟨hm, hn⟩ := Bool.and_eq_true_iff.1 hmn
    simp only [List.flatMap_cons] at hf ⊢
    have hk := fewer (Nat.lt_succ_of_lt (fewer hf))
    rw [List.append_assoc, List.append_assoc, readString_pair hm hn,
      ih (fun n hn => h n (List.mem_cons_of_mem _ (List.mem_cons_of_mem _ hn))) k _ hk]
    simp
  | case2 m n ns hmn ih =>
    intro fuel acc hf
    obtain ⟨k, rfl⟩ : ∃ k, fuel = k + 1 := ⟨fuel - 1, by omega⟩
    have hapart : isLeading m = true →
        IsApart ((n :: ns).flatMap escapeCode ++ '"' :: rest) := by
      intro hm
      have hn : isTrailing n = false := by simpa [hm] using hmn
      rw [List.flatMap_cons, List.append_assoc]
      exact isApart_escapeCode (h n (by simp)) hn _
    rw [List.flatMap_cons] at hf ⊢
    rw [List.append_assoc, readString_escapeCode (h m List.mem_cons_self) k acc hapart,
      ih (fun n hn => h n (List.mem_cons_of_mem _ hn)) k _ (fewer hf)]
    simp
  | case3 n =>
    intro fuel acc hf
    have hpos := List.length_pos_iff.2 (escapeCode_ne_nil n)
    rw [List.flatMap_singleton] at hf ⊢
    obtain ⟨k, rfl⟩ : ∃ k, fuel = k + 2 := ⟨fuel - 2, by omega⟩
    have hapart (_ : isLeading n = true) : IsApart ('"' :: rest) := isApart_of_ne (by decide) rest
    rw [readString_escapeCode (h n List.mem_cons_self) _ acc hapart]
    simp [readString]
  | case4 =>
    intro fuel acc hf
    obtain ⟨k, rfl⟩ : ∃ k, fuel = k + 1 := ⟨fuel - 1, by omega⟩
    simp [readString]

/-- A quoted text is read back with its halves joined. -/
theorem readString_quote (s : String) (rest : List Char) (fuel : Nat)
    (hf : (quote s).length ≤ fuel + 1) :
    ∃ body, quote s = '"' :: body ∧ readString fuel [] (body ++ rest) = some (joined s, rest) := by
  refine ⟨(codes s.toList).flatMap escapeCode ++ ['"'], rfl, ?_⟩
  have hl : ((codes s.toList).flatMap escapeCode).length < fuel := by
    simp only [quote, List.cons_append, List.length_cons, List.length_append, List.length_nil] at hf
    omega
  rw [List.append_assoc, List.singleton_append,
    readString_codes (fun _ => lt_of_mem_codes) rest fuel [] hl]
  rfl

end Value

end Restyle
