import Mathlib.Data.List.Forall2
import Restyle.Text.Case

/-!
A text in small letters and the text that it was made from. Every character has one small form but
the capital I with a dot, which has two; so a place in small letters lies as far behind as there are
dotted capitals before it. Characters with a small form in common are the same up to case.
-/
namespace Restyle.Text

/-! ### Runs of a table -/

abbrev Run := Nat × Nat × Nat × Int

/-- Whether a code point is one of those that a run moves. -/
def isOnRun (n : Nat) (r : Run) : Bool := r.1 ≤ n && n ≤ r.2.1 && (n - r.1) % r.2.2.1 == 0

theorem isOnRun_iff {n : Nat} {r : Run} :
    isOnRun n r = true ↔ r.1 ≤ n ∧ n ≤ r.2.1 ∧ (n - r.1) % r.2.2.1 = 0 := by
  simp [isOnRun, and_assoc]

/-- A code point that is on no run stays, any other one is moved by a run that it is on. -/
theorem shifted_cases (table : Array Run) (n : Nat) :
    (shifted table n = n ∧ ∀ r ∈ table.toList, isOnRun n r = false) ∨
      ∃ r ∈ table.toList, isOnRun n r = true ∧ shifted table n = (n + r.2.2.2).toNat := by
  have hfind : table.find? (fun (first, last, step, _) =>
      first ≤ n && n ≤ last && (n - first) % step == 0) = table.toList.find? (isOnRun n) := by
    rw [← Array.find?_toList]
    rfl
  unfold shifted
  rw [hfind]
  cases h : table.toList.find? (isOnRun n) with
  | none =>
    refine .inl ⟨rfl, fun r hr => ?_⟩
    exact Bool.eq_false_iff.2 (List.find?_eq_none.1 h r hr)
  | some r => exact .inr ⟨r, List.mem_of_find?_eq_some h, List.find?_some h, rfl⟩

theorem eq_toNat_of_ofNat {n : Nat} {c : Char} (h : Char.ofNat n = c) (hc : c ≠ '\x00') :
    n = c.toNat := by
  by_cases hvalid : n.isValidChar
  · rw [← h, Char.ofNat, dif_pos hvalid]
    rfl
  · rw [Char.ofNat, dif_neg hvalid] at h
    exact absurd h.symm hc

/-! ### What the tables hold -/

/-- The dot above a small letter, when it stands alone. -/
def dotAbove : Char := '\u0307'

/-- The capital I with a dot, which has a small form of two characters. -/
def dottedCapital : Char := 'İ'

/-- Whether a run takes nothing to a character. -/
def misses (x : Char) (r : Run) : Bool :=
  (x.toNat : Int) < r.1 + r.2.2.2 || r.2.1 + r.2.2.2 < (x.toNat : Int)

/-- Whether a code point has a capital form of its own, where `near` are the runs that may move
it. -/
def isCapitalized (near : List Run) (n : Nat) : Bool :=
  if n < 0x80 then hasCase (Char.ofNat n)
  else (n < 0xD800 || (0xDFFF < n && n < 0x110000)) &&
    (near.any (isOnRun n) || upperSpecial.toList.any fun x => x.1 == n)

/-- Whether every code point that a run takes somewhere has a capital form there. -/
def leadsToCapitalized (r : Run) : Bool :=
  let first := (r.1 + r.2.2.2).toNat
  let last := (r.2.1 + r.2.2.2).toNat
  let near := upperRuns.toList.filter fun u => u.1.ble last && first.ble u.2.1
  (List.range ((r.2.1 - r.1) / r.2.2.1 + 1)).all fun k => isCapitalized near (first + r.2.2.1 * k)

/-- Whether small letters are taken for the same, although they differ. -/
def areSiblings (l m : Char) : Bool :=
  caseSiblings.any fun (a, bs) => a == l.toNat && bs.contains m.toNat

theorem lowerRuns_sound : ∀ r ∈ lowerRuns.toList, 0 ≤ (r.1 : Int) + r.2.2.2 ∧
    misses '<' r = true ∧ misses dotAbove r = true ∧ leadsToCapitalized r = true := by
  decide +kernel

theorem upperForms_move : (∀ r ∈ upperRuns.toList, r.2.2.2 ≠ 0) ∧
    ∀ x ∈ upperSpecial.toList, (x.2.map Char.ofNat).head? ≠ some (Char.ofNat x.1) := by
  decide +kernel

theorem ascii_toLower : ∀ n < 0x80, (Char.ofNat n).toLower = Char.ofNat n ∨
    (65 ≤ n ∧ n ≤ 90 ∧ (Char.ofNat n).toLower = Char.ofNat (n + 32) ∧
      hasCase (Char.ofNat (n + 32)) = true) := by
  decide +kernel

theorem special_letters : lowerChar dottedCapital = 'i' ∧ lowerChar 'Σ' = 'σ' ∧
    hasCase 'Σ' = true ∧ hasCase 'ς' = true ∧ areSiblings 'ς' 'σ' = true ∧
    areSiblings 'σ' 'ς' = true := by
  decide +kernel

/-! ### The small form of a character -/

/-- A character is its own small form, or it is a capital of ASCII, or a run takes it to its small
form. -/
theorem lowerChar_cases (c : Char) :
    lowerChar c = c ∨
      (65 ≤ c.toNat ∧ c.toNat ≤ 90 ∧ lowerChar c = Char.ofNat (c.toNat + 32) ∧
        hasCase (Char.ofNat (c.toNat + 32)) = true) ∨
      ∃ r ∈ lowerRuns.toList, isOnRun c.toNat r = true ∧
        lowerChar c = Char.ofNat (c.toNat + r.2.2.2).toNat := by
  unfold lowerChar
  split
  · next hascii =>
    have hletter := ascii_toLower c.toNat hascii
    rw [Char.ofNat_toNat] at hletter
    exact hletter.imp_right .inl
  · rcases shifted_cases lowerRuns c.toNat with ⟨hsame, -⟩ | ⟨r, hr, hon, hmoved⟩
    · exact .inl (by rw [hsame, Char.ofNat_toNat])
    · exact .inr (.inr ⟨r, hr, hon, by rw [hmoved]⟩)

/-- A character that no other one is taken to is the small form of itself only. -/
theorem eq_of_lowerChar {c x : Char} (hascii : x.toNat < 97 ∨ 122 < x.toNat) (hzero : x ≠ '\x00')
    (hruns : ∀ r ∈ lowerRuns.toList, misses x r = true) (h : lowerChar c = x) : c = x := by
  rcases lowerChar_cases c with hsame | ⟨hfirst, hlast, hmoved, -⟩ | ⟨r, hr, hon, hmoved⟩
  · exact hsame.symm.trans h
  · have hplace := eq_toNat_of_ofNat (hmoved.symm.trans h) hzero
    omega
  · obtain ⟨hfirst, hlast, -⟩ := isOnRun_iff.1 hon
    have hplace := eq_toNat_of_ofNat (hmoved.symm.trans h) hzero
    have hpos : x.toNat ≠ 0 := fun e => hzero (Char.toNat_inj.1 e)
    have hout : (x.toNat : Int) < r.1 + r.2.2.2 ∨ r.2.1 + r.2.2.2 < (x.toNat : Int) := by
      simpa [misses] using hruns r hr
    omega

theorem eq_bracket_of_lowerChar {c : Char} (h : lowerChar c = '<') : c = '<' :=
  eq_of_lowerChar (by decide) (by decide) (fun r hr => (lowerRuns_sound r hr).2.1) h

theorem eq_dotAbove_of_lowerChar {c : Char} (h : lowerChar c = dotAbove) : c = dotAbove :=
  eq_of_lowerChar (by decide) (by decide) (fun r hr => (lowerRuns_sound r hr).2.2.1) h

/-! ### Small forms have case -/

theorem hasCase_of_isCapitalized {near : List Run} (hnear : ∀ r ∈ near, r ∈ upperRuns.toList)
    {n : Nat} (h : isCapitalized near n = true) : hasCase (Char.ofNat n) = true := by
  unfold isCapitalized at h
  split at h
  · exact h
  · next hbig =>
    obtain ⟨hvalid, hmoves⟩ := Bool.and_eq_true_iff.1 h
    have hchar : n.isValidChar := by
      simp only [Bool.or_eq_true, Bool.and_eq_true, decide_eq_true_eq] at hvalid
      exact hvalid.imp_right fun h => ⟨h.1, h.2⟩
    have hplace : (Char.ofNat n).toNat = n := by
      rw [Char.ofNat, dif_pos hchar]
      rfl
    suffices hupper : (upperChar (Char.ofNat n)).head? ≠ some (Char.ofNat n) by
      simp [hasCase, hupper]
    unfold upperChar
    rw [hplace, if_neg hbig, ← Array.find?_toList]
    cases hspecial : upperSpecial.toList.find? fun x => x.1 == n with
    | some x =>
      obtain rfl : x.1 = n := by simpa using List.find?_some hspecial
      exact upperForms_move.2 x (List.mem_of_find?_eq_some hspecial)
    | none =>
      have hnone : (upperSpecial.toList.any fun x => x.1 == n) = false := by
        rw [List.any_eq_false]
        exact List.find?_eq_none.1 hspecial
      rw [hnone, Bool.or_false] at hmoves
      obtain ⟨r, hr, hon⟩ := List.any_eq_true.1 hmoves
      rcases shifted_cases upperRuns n with ⟨-, hoff⟩ | ⟨r', hr', -, hmoved⟩
      · rw [hoff r (hnear r hr)] at hon
        cases hon
      · have hne := upperForms_move.1 r' hr'
        have hzero : Char.ofNat n ≠ '\x00' := by
          intro e
          rw [e] at hplace
          exact hbig (hplace ▸ by decide)
        intro heq
        have hsame := eq_toNat_of_ofNat (Option.some.inj heq) hzero
        rw [hplace, hmoved] at hsame
        omega

/-- What is not its own small form has a small form with case. -/
theorem hasCase_lowerChar {c : Char} (h : lowerChar c ≠ c) : hasCase (lowerChar c) = true := by
  rcases lowerChar_cases c with hsame | ⟨-, -, hmoved, hcase⟩ | ⟨r, hr, hon, hmoved⟩
  · exact absurd hsame h
  · rw [hmoved]
    exact hcase
  · obtain ⟨hfirst, hlast, hstep⟩ := isOnRun_iff.1 hon
    obtain ⟨hge, -, -, hlead⟩ := lowerRuns_sound r hr
    unfold leadsToCapitalized at hlead
    have hat := List.all_eq_true.1 hlead ((c.toNat - r.1) / r.2.2.1)
      (List.mem_range.2 (Nat.lt_succ_of_le (Nat.div_le_div_right (by omega))))
    have hplace : (r.1 + r.2.2.2).toNat + r.2.2.1 * ((c.toNat - r.1) / r.2.2.1) =
        (c.toNat + r.2.2.2).toNat := by
      have hdiv := Nat.div_add_mod (c.toNat - r.1) r.2.2.1
      omega
    rw [hplace] at hat
    rw [hmoved]
    exact hasCase_of_isCapitalized (fun u hu => (List.mem_filter.1 hu).1) hat

theorem sameLetter_of_lowerChar {p c : Char} (h : lowerChar p = lowerChar c) :
    sameLetter p c = true := by
  unfold sameLetter
  split
  · simp [h]
  · next hcase =>
    have hp : lowerChar p = p := by
      have hboth : lowerChar p = p ∧ (upperChar p).head? = some p := by simpa [hasCase] using hcase
      exact hboth.1
    rw [beq_iff_eq]
    by_contra hne
    have hsmall : lowerChar c = p := h.symm.trans hp
    have hc : lowerChar c ≠ c := fun hc => hne (hsmall.symm.trans hc)
    exact hcase (hsmall ▸ hasCase_lowerChar hc)

/-! ### Texts in small letters -/

/-- Whether a character in small letters comes from a character that has one small form. A sigma has
another form at the end of a word. -/
def IsSmallForm (c x : Char) : Prop := x = lowerChar c ∨ c = 'Σ' ∧ x = 'ς'

theorem lowerFrom_cons {c : Char} (h : c ≠ dottedCapital) (before rest : List Char) :
    ∃ x, IsSmallForm c x ∧ lowerFrom before (c :: rest) = x :: lowerFrom (c :: before) rest := by
  rw [lowerFrom]
  by_cases hsigma : c = 'Σ'
  · subst hsigma
    rw [if_pos (by decide)]
    split
    · exact ⟨'ς', .inr ⟨rfl, rfl⟩, rfl⟩
    · exact ⟨'σ', .inl special_letters.2.1.symm, rfl⟩
  · rw [if_neg (by simpa using hsigma), if_neg (by simpa [dottedCapital] using h)]
    exact ⟨lowerChar c, .inl rfl, rfl⟩

theorem lowerFrom_dotted (before rest : List Char) :
    lowerFrom before (dottedCapital :: rest) =
      'i' :: dotAbove :: lowerFrom (dottedCapital :: before) rest := rfl

theorem sameLetter_of_areSiblings {p c : Char} (hcase : hasCase p = true)
    (h : areSiblings (lowerChar p) (lowerChar c) = true) : sameLetter p c = true := by
  simp only [sameLetter, if_pos hcase, Bool.or_eq_true]
  exact .inr h

/-- Characters with a small form in common are the same up to case. -/
theorem sameLetter_of_isSmallForm {p c x : Char} (hp : IsSmallForm p x) (hc : IsSmallForm c x) :
    sameLetter p c = true := by
  obtain ⟨-, hsigma, hcapital, hfinal, hback, hforth⟩ := special_letters
  rcases hp with hp | ⟨rfl, rfl⟩
  · rcases hc with hc | ⟨rfl, rfl⟩
    · exact sameLetter_of_lowerChar (hp.symm.trans hc)
    · have hcase : hasCase p = true := by
        by_cases hsame : lowerChar p = p
        · rw [hp.trans hsame] at hfinal
          exact hfinal
        · simp [hasCase, hsame]
      exact sameLetter_of_areSiblings hcase (by simp only [← hp, hsigma, hback])
  · rcases hc with hc | ⟨rfl, -⟩
    · exact sameLetter_of_areSiblings hcapital (by simp only [← hc, hsigma, hforth])
    · exact sameLetter_self _

theorem IsSmallForm.eq_bracket {c : Char} (h : IsSmallForm c '<') : c = '<' := by
  rcases h with h | ⟨-, h⟩
  · exact eq_bracket_of_lowerChar h.symm
  · exact absurd h (by decide)

theorem IsSmallForm.eq_dotAbove {c : Char} (h : IsSmallForm c dotAbove) : c = dotAbove := by
  rcases h with h | ⟨-, h⟩
  · exact eq_dotAbove_of_lowerChar h.symm
  · exact absurd h (by decide)

/-- A bracket in small letters is one of the text, as many places behind it as there are dotted
capitals before it. -/
theorem exists_bracket {before s a b : List Char} (h : lowerFrom before s = a ++ '<' :: b) :
    ∃ pre post, s = pre ++ '<' :: post ∧ a.length = pre.length + pre.count dottedCapital ∧
      b = lowerFrom ('<' :: (pre.reverse ++ before)) post := by
  induction s generalizing before a with
  | nil => simp [lowerFrom] at h
  | cons c s ih =>
    by_cases hdotted : c = dottedCapital
    · subst hdotted
      rw [lowerFrom_dotted] at h
      -- the bracket is neither of the two characters that the capital becomes
      match a with
      | [] => cases h
      | [x] => cases h
      | x :: y :: a =>
        obtain ⟨pre, post, rfl, hlength, hb⟩ := ih (List.cons.inj (List.cons.inj h).2).2
        refine ⟨dottedCapital :: pre, post, rfl, ?_, ?_⟩
        · rw [List.count_cons_self, List.length_cons, List.length_cons, List.length_cons]
          omega
        · rw [hb, List.reverse_cons, List.append_assoc, List.singleton_append]
    · obtain ⟨x, hx, hcons⟩ := lowerFrom_cons hdotted before s
      rw [hcons] at h
      match a with
      | [] =>
        obtain ⟨rfl, rfl⟩ := List.cons.inj h
        obtain rfl := hx.eq_bracket
        exact ⟨[], s, rfl, rfl, rfl⟩
      | y :: a =>
        obtain ⟨pre, post, rfl, hlength, hb⟩ := ih (List.cons.inj h).2
        refine ⟨c :: pre, post, rfl, ?_, ?_⟩
        · rw [List.count_cons_of_ne hdotted, List.length_cons, List.length_cons]
          omega
        · rw [hb, List.reverse_cons, List.append_assoc, List.singleton_append]

/-- A word without dotted capitals and without dots of its own that is found in small letters is in
the text up to case. -/
theorem exists_word {word before before' s : List Char} (hdotted : dottedCapital ∉ word)
    (hdot : dotAbove ∉ word) (h : lowerFrom before word <+: lowerFrom before' s) :
    ∃ spelled rest, s = spelled ++ rest ∧
      List.Forall₂ (fun p c => sameLetter p c = true) word spelled := by
  induction word generalizing before before' s with
  | nil => exact ⟨[], s, rfl, .nil⟩
  | cons p word ih =>
    obtain ⟨hp, hdotted⟩ := not_or.1 (mt List.mem_cons.2 hdotted)
    obtain ⟨hpdot, hdot⟩ := not_or.1 (mt List.mem_cons.2 hdot)
    obtain ⟨x, hx, hcons⟩ := lowerFrom_cons (Ne.symm hp) before word
    rw [hcons] at h
    cases s with
    | nil => simp [lowerFrom] at h
    | cons c s =>
      by_cases hc : c = dottedCapital
      · subst hc
        rw [lowerFrom_dotted, List.cons_prefix_cons] at h
        obtain ⟨rfl, h⟩ := h
        have hsame : sameLetter p dottedCapital = true :=
          sameLetter_of_isSmallForm hx (.inl special_letters.1.symm)
        -- the dot would have to be one of the word
        cases word with
        | nil => exact ⟨[dottedCapital], s, rfl, .cons hsame .nil⟩
        | cons q word =>
          obtain ⟨y, hy, hcons'⟩ := lowerFrom_cons
            (fun e => hdotted (e ▸ List.mem_cons_self)) (p :: before) word
          rw [hcons', List.cons_prefix_cons] at h
          obtain ⟨rfl, -⟩ := h
          exact absurd (hy.eq_dotAbove ▸ List.mem_cons_self) hdot
      · obtain ⟨y, hy, hcons'⟩ := lowerFrom_cons hc before' s
        rw [hcons', List.cons_prefix_cons] at h
        obtain ⟨rfl, h⟩ := h
        obtain ⟨spelled, rest, rfl, hspelled⟩ := ih hdotted hdot h
        exact ⟨c :: spelled, rest, rfl, .cons (sameLetter_of_isSmallForm hx hy) hspelled⟩

end Restyle.Text
