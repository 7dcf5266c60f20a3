import Restyle.Edit.Outcome
import Restyle.Proofs.BackupStore

/-!
How the files of a plan are written, and what is left where that fails. A text that has no bytes
leaves its file empty; all else that fails leaves the files as they were.
-/
namespace Restyle

open Restyle.Tree

namespace Tree

variable {t t' : Tree} {W R : Path → Prop}

theorem walk_not_isOfText {here p : Path} {r : Refusal} (h : t.walk here p = .error r) :
    r.isOfText = false := by
  induction p generalizing here with
  | nil => cases h
  | cons n p ih =>
    rw [walk] at h
    split at h
    · cases h; rfl
    · cases h; rfl
    · split at h
      · exact ih h
      · split at h
        · exact ih h
        · split at h
          · cases h; rfl
          · exact ih h

/-- Only a path with such a character is refused for its text. -/
theorem refusal?_of_find {p : Path} {e : TreeError} (h : t.find p = .error e)
    (he : e.refusal.isOfText = true) : p.refusal? ≠ none := by
  unfold find follow at h
  split at h
  · cases h
  · next r hr =>
    cases h
    split at hr
    · next r' hr' => simp [hr']
    · split at hr
      · cases hr
        cases he
      · rw [walk_not_isOfText hr] at he
        cases he

theorem refusal?_of_makeDirectory {p : Path} {e : TreeError} (h : t.makeDirectory p = .error e)
    (he : e.refusal.isOfText = true) : p.refusal? ≠ none := by
  unfold makeDirectory at h
  split at h
  · next e' hf =>
    cases h
    exact refusal?_of_find hf he
  · cases h
    cases he
  · cases h

theorem refusal?_of_write {p : Path} {bytes : ByteArray} {e : TreeError}
    (h : t.write p bytes = .error e) (he : e.refusal.isOfText = true) : p.refusal? ≠ none := by
  unfold write at h
  split at h
  · next e' hf =>
    cases h
    exact refusal?_of_find hf he
  · cases h
    cases he
  · cases h

theorem refusal?_dropLast {p : Path} (h : Path.refusal? p.dropLast ≠ none) :
    p.refusal? ≠ none := by
  have up {f : String → Bool} (h : p.dropLast.any f = true) : p.any f = true := by
    obtain ⟨n, hn, hf⟩ := List.any_eq_true.1 h
    exact List.any_eq_true.2 ⟨n, (List.dropLast_sublist p).mem hn, hf⟩
  unfold Path.refusal? at h ⊢
  cases hh : Path.hasHalf p with
  | true => simp
  | false =>
    cases hn : Path.hasNul p with
    | true => simp
    | false =>
      have h1 : Path.hasHalf p.dropLast = false := by
        cases hd : Path.hasHalf p.dropLast with
        | false => rfl
        | true => rw [Path.hasHalf, up hd] at hh; cases hh
      have h2 : Path.hasNul p.dropLast = false := by
        cases hd : Path.hasNul p.dropLast with
        | false => rfl
        | true => rw [Path.hasNul, up hd] at hn; cases hn
      simp [h1, h2] at h

theorem refusal?_of_ensureDirectoryFrom (fuel : Nat) {p : Path} {e : TreeError}
    (h : t.ensureDirectoryFrom fuel p = (.error e, t')) (he : e.refusal.isOfText = true) :
    p.refusal? ≠ none := by
  induction fuel generalizing p t' with
  | zero =>
    unfold ensureDirectoryFrom at h
    split at h
    · cases h
    · next hm =>
      split at h
      · cases h
        exact refusal?_of_makeDirectory hm he
      · split at h
        · cases h
        · cases h
          exact refusal?_of_makeDirectory hm he
  | succ fuel ih =>
    unfold ensureDirectoryFrom at h
    split at h
    · cases h
    · next hm =>
      split at h
      · simp only at h
        split at h
        · cases h
          exact refusal?_of_makeDirectory hm he
        · split at h
          · next hup =>
            cases h
            exact refusal?_dropLast (ih hup)
          · split at h
            · cases h
            · next hm' =>
              split at h
              · cases h
                exact refusal?_of_makeDirectory hm' he
              · cases h
      · split at h
        · cases h
        · cases h
          exact refusal?_of_makeDirectory hm he

end Tree

theorem Text.encode_eq_ok {s : String} {bytes : ByteArray} (h : Text.encode s = .ok bytes) :
    bytes = s.toUTF8 := by
  unfold Text.encode at h
  split at h
  · cases h
  · exact (Except.ok.inj h).symm

namespace Plan

variable {t t' : Tree} {W R : Path → Prop}

/-- What writing a text to a file can come to. -/
inductive TextWritten (t : Tree) (p : Path) (s : String) : Except Fault Unit × Tree → Prop
  | refused {e : TreeError} (write : t.write p ByteArray.empty = .error e) :
      TextWritten t p s (.error (.tree e), t)
  | emptied {f : Text.EncodingFault} {t' : Tree} (encode : Text.encode s = .error f)
      (changes : Changes (· = p.resolve) nowhere t t')
      (file : t'.file? p.resolve = some ByteArray.empty) :
      TextWritten t p s (.error (.unencodable f), t')
  | done {bytes : ByteArray} {t' : Tree} (encode : Text.encode s = .ok bytes)
      (changes : Changes (· = p.resolve) nowhere t t')
      (find : t'.find p = .ok (p.resolve, some (.file bytes))) :
      TextWritten t p s (.ok (), t')

theorem writeText_cases (t : Tree) {p : Path} (hp : p.IsLegible) (s : String) :
    TextWritten t p s (writeText t p s) := by
  unfold writeText
  split
  · next h => exact .refused h
  · next opened h =>
    have hfind := find_of_write hp h
    have hc := write_changes (R := nowhere) hp h
    split
    · next f hf =>
      refine .emptied hf hc ?_
      exact file?_of_find hfind
    · next bytes hb =>
      have hw := write_of_find hfind (by simp) bytes
      rw [hw]
      exact .done hb (hc.trans (write_changes hp hw)) (find_of_write hp hw)

/-- A text is written to a file that is there, unless it has halves. -/
theorem writeText_there {t : Tree} {p : Path} (hp : p.IsLegible) {bytes : ByteArray}
    (hfind : t.find p = .ok (p.resolve, some (.file bytes))) (s : String) :
    (∀ q, q ≠ p.resolve → (writeText t p s).2.file? q = t.file? q) ∧
      ((writeText t p s).2.file? p.resolve = some s.toUTF8 ∨
        (∃ f, Text.encode s = .error f) ∧
          (writeText t p s).2.file? p.resolve = some ByteArray.empty) := by
  have hw := writeText_cases t hp s
  revert hw
  generalize writeText t p s = r
  intro hw
  cases hw with
  | refused write =>
    rw [write_of_find hfind (by simp)] at write
    cases write
  | emptied encode changes file =>
    exact ⟨fun q hq => changes.file? hq fun h => h, .inr ⟨⟨_, encode⟩, file⟩⟩
  | @done bytes' t' encode changes find =>
    refine ⟨fun q hq => changes.file? hq fun h => h, .inl ?_⟩
    rw [← Text.encode_eq_ok encode]
    exact file?_of_find find

/-- What writing a stylesheet can come to. -/
inductive SheetWritten (t : Tree) (s : SheetPlan) : Except Fault Unit × Tree → Prop
  | refused {e : TreeError} {t' : Tree} (changes : Changes nowhere nowhere t t')
      (ofText : e.refusal.isOfText = true → s.path.refusal? ≠ none) :
      SheetWritten t s (.error (.tree e), t')
  | emptied {f : Text.EncodingFault} {t' : Tree} (encode : Text.encode s.content = .error f)
      (changes : Changes (· = s.path.resolve) nowhere t t')
      (file : t'.file? s.path.resolve = some ByteArray.empty) :
      SheetWritten t s (.error (.unencodable f), t')
  | done {bytes : ByteArray} {t' : Tree} (encode : Text.encode s.content = .ok bytes)
      (changes : Changes (· = s.path.resolve) nowhere t t')
      (find : t'.find s.path = .ok (s.path.resolve, some (.file bytes))) :
      SheetWritten t s (.ok (), t')

theorem writeSheet_cases (t : Tree) {s : SheetPlan} (hs : s.path.IsLegible) :
    SheetWritten t s (writeSheet t s) := by
  unfold writeSheet
  have hdir (W : Path → Prop) := ensureDirectory_changes (W := W) (R := nowhere) t hs.dropLast
  split
  · next e t' h =>
    have h1 := hdir nowhere
    rw [h] at h1
    exact .refused h1 fun he =>
      refusal?_dropLast (refusal?_of_ensureDirectoryFrom _ h he)
  · next t1 h =>
    have h1 := hdir nowhere
    have h2 := hdir (· = s.path.resolve)
    rw [h] at h1 h2
    have hw := writeText_cases t1 hs s.content
    revert hw
    generalize writeText t1 s.path s.content = r
    intro hw
    cases hw with
    | refused write => exact .refused h1 fun he => refusal?_of_write write he
    | emptied encode changes file => exact .emptied encode (h2.trans changes) file
    | done encode changes find => exact .done encode (h2.trans changes) find

/-- How a plan can be left half done, as far as the files of `L` go: a text that has no bytes has
emptied its file, or the path of the stylesheet cannot be asked for, and the source keeps its new
text. -/
inductive Spoils (p : Plan) (L : Path → Prop) (t t' : Tree) : Prop
  | source {f : Text.EncodingFault} (encode : Text.encode p.after = .error f)
      (emptied : t'.file? p.source.resolve = some ByteArray.empty)
      (others : ∀ q, L q → q ≠ p.source.resolve → t'.file? q = t.file? q)
  | sheetPath {s : SheetPlan} {bytes : ByteArray} (sheet : p.sheet = some s)
      (unaskable : s.path.refusal? ≠ none) (encode : Text.encode p.after = .ok bytes)
      (left : t'.file? p.source.resolve = some bytes)
      (others : ∀ q, L q → q ≠ p.source.resolve → t'.file? q = t.file? q)
  | sheetText {s : SheetPlan} {bytes : ByteArray} {f : Text.EncodingFault}
      (sheet : p.sheet = some s) (content : Text.encode s.content = .error f)
      (encode : Text.encode p.after = .ok bytes)
      (emptied : t'.file? s.path.resolve = some ByteArray.empty)
      (left : p.source.resolve ≠ s.path.resolve → t'.file? p.source.resolve = some bytes)
      (others : ∀ q, L q → q ≠ p.source.resolve → q ≠ s.path.resolve →
        t'.file? q = t.file? q)
  /-- Halves were read from the file itself: it holds the code point that is never assigned. -/
  | oldText {f : Text.EncodingFault} (encode : Text.encode p.before = .error f)
      (emptied : t'.file? p.source.resolve = some ByteArray.empty)
      (others : ∀ q, L q → q ≠ p.source.resolve → t'.file? q = t.file? q)

theorem Spoils.trans {p : Plan} {L L' : Path → Prop} {t1 t2 t' : Tree} (h : p.Spoils L t2 t')
    (hf : ∀ q, L' q → L q ∧ t2.file? q = t1.file? q) : p.Spoils L' t1 t' := by
  cases h with
  | source encode emptied others =>
    exact .source encode emptied fun q hL hq =>
      (others q (hf q hL).1 hq).trans (hf q hL).2
  | sheetPath sheet unaskable encode left others =>
    exact .sheetPath sheet unaskable encode left fun q hL hq =>
      (others q (hf q hL).1 hq).trans (hf q hL).2
  | sheetText sheet content encode emptied left others =>
    exact .sheetText sheet content encode emptied left fun q hL hq hs =>
      (others q (hf q hL).1 hq hs).trans (hf q hL).2
  | oldText encode emptied others =>
    exact .oldText encode emptied fun q hL hq =>
      (others q (hf q hL).1 hq).trans (hf q hL).2

/-- Where writing a plan fails, the source has its old text and no other file has changed, or the
plan is left half done. -/
theorem write_failed {p : Plan} {L : Path → Prop} (hp : p.source.IsLegible)
    (hs : ∀ s, p.sheet = some s → s.path.IsLegible) {f : Fault} (h : p.write t = (.error f, t')) :
    ((∀ q, q ≠ p.source.resolve → t'.file? q = t.file? q) ∧
      (t'.file? p.source.resolve = t.file? p.source.resolve ∨
        t'.file? p.source.resolve = some p.before.toUTF8)) ∨ p.Spoils L t t' := by
  unfold write at h
  have hw := writeText_cases t hp p.after
  revert h hw
  generalize writeText t p.source p.after = r
  intro h hw
  cases hw with
  | refused write =>
    cases h
    exact .inl ⟨fun _ _ => rfl, .inl rfl⟩
  | emptied encode changes file =>
    cases h
    exact .inr (.source encode file fun q _ hq => changes.file? hq (fun h => h))
  | @done bytes t1 encode changes find =>
    simp only at h
    have hsource : t1.file? p.source.resolve = some bytes :=
      file?_of_find find
    have hothers (q : Path) (hq : q ≠ p.source.resolve) : t1.file? q = t.file? q :=
      changes.file? hq fun h => h
    cases hsheet : p.sheet with
    | none =>
      rw [hsheet] at h
      cases h
    | some s =>
      rw [hsheet] at h
      simp only at h
      have hws := writeSheet_cases t1 (hs s hsheet)
      revert h hws
      generalize writeSheet t1 s = r
      intro h hws
      cases hws with
      | done encode' changes' find' => cases h
      | @emptied f' t2 encode' changes' file' =>
        simp only [Fault.liesInFile, Bool.false_eq_true, if_false] at h
        cases h
        refine .inr (.sheetText hsheet encode' encode file' ?_ ?_)
        · intro hne
          rw [changes'.file? hne fun h => h, hsource]
        · intro q _ hq hqs
          rw [changes'.file? hqs fun h => h, hothers q hq]
      | @refused e t2 changes' ofText =>
        have hsame (q : Path) : t2.file? q = t1.file? q :=
          changes'.file? (fun h => h) fun h => h
        cases he : e.refusal.isOfText with
        | true =>
          have hl : (Fault.tree e).liesInFile = false := by simp [Fault.liesInFile, he]
          simp only [hl, Bool.false_eq_true, if_false] at h
          cases h
          exact .inr (.sheetPath hsheet (ofText he) encode (by rw [hsame, hsource])
            fun q _ hq => by rw [hsame, hothers q hq])
        | false =>
          have hl : (Fault.tree e).liesInFile = true := by simp [Fault.liesInFile, he]
          simp only [hl, if_true] at h
          have hfind2 : t2.find p.source = .ok (p.source.resolve, some (.file bytes)) := by
            rw [changes'.find find, file?_eq_some.1 ((hsame _).trans hsource)]
          have ht' : t' = (writeText t2 p.source p.before).2 := by
            revert h
            cases writeText t2 p.source p.before with
            | mk result t3 =>
              cases result with
              | error f' => exact fun h => (Prod.mk.inj h).2.symm
              | ok u => exact fun h => (Prod.mk.inj h).2.symm
          obtain ⟨hrest, hback⟩ := writeText_there hp hfind2 p.before
          rw [← ht'] at hrest hback
          have hothers' (q : Path) (hq : q ≠ p.source.resolve) : t'.file? q = t.file? q := by
            rw [hrest q hq, hsame, hothers q hq]
          rcases hback with hback | ⟨⟨f', encode'⟩, hempty⟩
          · exact .inl ⟨hothers', .inr hback⟩
          · exact .inr (.oldText encode' hempty fun q _ hq => hothers' q hq)

/-- Where writing a plan succeeds its files have their new texts. -/
theorem write_succeeded {p : Plan} (hp : p.source.IsLegible)
    (hs : ∀ s, p.sheet = some s → s.path.IsLegible) (h : p.write t = (.ok (), t')) :
    (p.sheet = none ∧ t'.file? p.source.resolve = some p.after.toUTF8) ∨
    ∃ s, p.sheet = some s ∧ t'.file? s.path.resolve = some s.content.toUTF8 ∧
      (p.source.resolve ≠ s.path.resolve →
        t'.file? p.source.resolve = some p.after.toUTF8) := by
  unfold write at h
  have hw := writeText_cases t hp p.after
  revert h hw
  generalize writeText t p.source p.after = r
  intro h hw
  cases hw with
  | refused write => cases h
  | emptied encode changes file => cases h
  | @done bytes t1 encode changes find =>
    have hsource : t1.file? p.source.resolve = some p.after.toUTF8 := by
      rw [← Text.encode_eq_ok encode]
      exact file?_of_find find
    simp only at h
    cases hsheet : p.sheet with
    | none =>
      rw [hsheet] at h
      cases h
      exact .inl ⟨rfl, hsource⟩
    | some s =>
      rw [hsheet] at h
      simp only at h
      have hws := writeSheet_cases t1 (hs s hsheet)
      revert h hws
      generalize writeSheet t1 s = r
      intro h hws
      cases hws with
      | refused changes' ofText =>
        simp only at h
        split at h
        · split at h <;> cases h
        · cases h
      | emptied encode' changes' file' => cases h
      | done encode' changes' find' =>
        cases h
        refine .inr ⟨s, rfl, ?_, fun hne => ?_⟩
        · rw [← Text.encode_eq_ok encode']
          exact file?_of_find find'
        · rw [changes'.file? hne fun h => h, hsource]

/-- A plan that was carried out has been written. -/
theorem written_last {p : Plan} {b b' : Backups} {f : Framework} {now : Readings}
    {styles : Style.Declarations} {e : Edited} (h : p.carryOut f b t now styles = (.ok e, b', t')) :
    ∃ t1, p.write t1 = (.ok (), t') := by
  unfold carryOut at h
  split at h
  · cases h
  · split at h
    · cases h
    · split at h
      · cases h
      · next hw =>
        cases h
        exact ⟨_, hw⟩

end Plan

end Restyle
