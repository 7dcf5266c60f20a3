import Restyle.Proofs.CanonicalClass
import Restyle.Proofs.RepeatedClass
import Restyle.Proofs.WrittenStyle

/-!
Attributes that are inserted into a tag. The scan passes a class attribute and a style attribute
whatever the values in it are, since these have their quotes and backslashes escaped. So the tag
ends behind the attribute, at the bracket at which it ended before.
-/
namespace Restyle.Style

open Text Markup

/-! ### What is inserted -/

/-- A style attribute as it is inserted: every value is written in quotes. Of the names nothing is
asked but that quotes around them need no escapes. -/
def IsNewStyle (text : List Char) : Prop :=
  ∃ es : Entries, text = styleAttribute es ∧
    ∀ e ∈ es, '\'' ∉ e.1 ∧ '\\' ∉ e.1 ∧ ∃ value, e.2 = writeValue value

/-- A class attribute as it is inserted. -/
def IsNewClass (text : List Char) : Prop := ∃ name, IsGenerated name ∧ text = classAttribute name

theorem IsNewStyle.passes {text : List Char} (h : IsNewStyle text) : Scan.Passes text := by
  obtain ⟨es, rfl, hes⟩ := h
  have hbody : IsEnclosed (objectBody es) := by
    refine objectBody_induction (fun _ _ => IsEnclosed.append) (fun w hw => ?_) fun e he => ?_
    · refine isEnclosed_of_plain fun c hc => ?_
      obtain ⟨hquote, hopen, hclose, -⟩ := plain_of_mem_signs (hw c hc)
      exact ⟨hquote, hopen, hclose⟩
    · obtain ⟨hquote, hescape, value, heq⟩ := hes e he
      exact ⟨isEnclosed_writeName hquote hescape, heq ▸ isEnclosed_writeValue value⟩
  rw [styleAttribute_eq]
  exact hbody.passes_attribute

theorem IsGenerated.signs {name : List Char} (h : IsGenerated name) {c : Char} (hc : c ∈ name) :
    isSelectorSign c = true := by
  obtain ⟨ds, text, hname, rfl⟩ := h
  exact (isSelectorName_of_className hname).signs c hc

theorem IsNewClass.passes {text : List Char} (h : IsNewClass text) : Scan.Passes text := by
  obtain ⟨name, hname, rfl⟩ := h
  have hnot {c : Char} (hc : isSelectorSign c = false) : c ∉ name := by
    intro hm
    rw [hname.signs hm] at hc
    cases hc
  have hopen : Scan.start.run "className=\"".toList = ⟨some '"', false, 0⟩ := by decide
  have hbetween : Between '"' name := between_of_notMem (hnot (by decide)) (hnot (by decide))
  rw [classAttribute_eq]
  refine ⟨?_, Scan.closing_of_notMem ?_⟩
  · rw [Scan.run_append, Scan.run_append, hopen, (hbetween.run_eq 0).1]
    decide
  · have hno : '>' ∉ name := hnot (by decide)
    simp [hno]

/-- The end of an attribute is no end of a tag. -/
theorem getLast?_of_isNew {text : List Char} (h : IsNewClass text ∨ IsNewStyle text) :
    ∃ c, text.getLast? = some c ∧ c ≠ '/' := by
  rcases h with ⟨name, -, rfl⟩ | ⟨es, rfl, -⟩
  · rw [classAttribute_eq, ← List.append_assoc, List.getLast?_concat]
    exact ⟨'"', rfl, by decide⟩
  · rw [styleAttribute_eq, attributeOf, ← List.append_assoc, List.getLast?_append]
    exact ⟨'\x7d', rfl, by decide⟩

/-! ### The tag -/

/-- Whether `new` is `line` with an attribute in its tag that opens at `start`, where the tag ends at
`stop'` in place of `stop`. -/
structure HasInserted (line new tag text : List Char) (start stop stop' : Nat) : Prop where
  opens : new[start]? = some '<'
  /-- The name is there unless its end is taken for what stands behind a name. -/
  named : (∀ c ∈ tag, endsTagName c = false) → '<' :: tag <+: new.drop start
  ends : tagEnd new start = some stop'
  behind : new.drop (stop' + 1) = line.drop (stop + 1)
  closesItself : ClosesItself new stop' ↔ ClosesItself line stop
  kept : tagBody line stop <+: line.take stop
  between : new.take stop' = tagBody line stop ++ ' ' :: (text ++ tagSlash line stop)

variable {line tag text : List Char} {start stop : Nat}

theorem getElem?_of_opens {content : List Char} (h : '<' :: tag <+: content.drop start) :
    content[start]? = some '<' := by
  obtain ⟨rest, hrest⟩ := h
  rw [← List.head?_drop, ← hrest]
  rfl

/-- A name that no character ends is left of the tag. -/
theorem opens_tagBody (h : '<' :: tag <+: line.drop start) (hend : tagEnd line start = some stop)
    (hname : ∀ c ∈ tag, endsTagName c = false) :
    '<' :: tag <+: (tagBody line stop).drop start := by
  have hopen := getElem?_of_opens h
  obtain ⟨ha, behind, hsplit, hbehind⟩ := tagBody_spec hopen hend
  have hlength : start + 1 + tag.length ≤ (tagBody line stop).length := by
    refine le_length_of_name (tagEnd_spec hend).2 hsplit ha hbehind fun i c hstart hi hc => ?_
    obtain ⟨k, rfl⟩ : ∃ k, i = start + (k + 1) := ⟨i - (start + 1), by omega⟩
    obtain ⟨rest, hrest⟩ := h
    rw [← List.getElem?_drop, ← hrest, List.cons_append, List.getElem?_cons_succ,
      List.getElem?_append_left (by omega)] at hc
    exact hname c (List.mem_of_getElem? hc)
  obtain ⟨more, hmore⟩ : tagBody line stop <+: line :=
    (hsplit ▸ List.prefix_append _ _ : tagBody line stop <+: line.take stop).trans
      (List.take_prefix _ _)
  rw [← hmore, List.drop_append_of_le_length ha.le] at h
  refine List.prefix_of_prefix_length_le h (List.prefix_append _ _) ?_
  rw [List.length_cons, List.length_drop]
  omega

theorem closesItself_iff (line : List Char) (stop : Nat) :
    ClosesItself line stop ↔ (tagSlash line stop).getLast? = some '/' := by
  unfold tagSlash
  split
  · next h => exact iff_of_true h rfl
  · next h => exact iff_of_false h (by simp)

/-- An attribute that is inserted into a tag stands between what is left of the tag and its end. The
tag ends there again, with the same text behind, and closes itself just if it did so before. -/
theorem insertAttribute_keepsTag (hopen : '<' :: tag <+: line.drop start)
    (hend : tagEnd line start = some stop) (htext : IsNewClass text ∨ IsNewStyle text) :
    ∃ stop', HasInserted line (insertAttribute line start tag.length text) tag text start stop
      stop' := by
  have hbracket := getElem?_of_opens hopen
  obtain ⟨ha, behind, hsplit, -⟩ := tagBody_spec hbracket hend
  obtain ⟨hin, hget⟩ := List.getElem?_eq_some_iff.1 (tagEnd_spec hend).2
  have hkept : tagBody line stop <+: line.take stop := hsplit ▸ List.prefix_append _ _
  have hpasses : Scan.Passes text := htext.elim IsNewClass.passes IsNewStyle.passes
  have hrest : line.drop stop = '>' :: line.drop (stop + 1) := by
    rw [List.drop_eq_getElem_cons hin, hget]
  have hends := tagEnd_inserted ha (passes_tagBody hbracket hend) hpasses
    (tagSlash_cases line stop) (line.drop (stop + 1))
  rw [insertAttribute_eq_tagBody hend, hrest]
  have hnew : tagBody line stop ++ ' ' :: (text ++ (tagSlash line stop ++ '>' ::
      line.drop (stop + 1))) = (tagBody line stop ++ ' ' :: (text ++ tagSlash line stop)) ++
        '>' :: line.drop (stop + 1) := by
    simp
  refine ⟨_, ?_, fun hname => ?_, hends, ?_, ?_, hkept, ?_⟩
  · obtain ⟨more, hmore⟩ := hkept.trans (List.take_prefix _ _)
    rw [List.getElem?_append_left ha, ← hbracket, ← List.getElem?_append_left ha, hmore]
  · rw [List.drop_append_of_le_length ha.le]
    exact (opens_tagBody hopen hend hname).trans (List.prefix_append _ _)
  · rw [hnew, ← List.drop_drop, List.drop_left]
    rfl
  · obtain ⟨c, hlast, hc⟩ := getLast?_of_isNew htext
    rw [closesItself_iff line, ClosesItself, hnew, List.take_left, List.getLast?_append,
      List.getLast?_cons, List.getLast?_append, hlast]
    rcases tagSlash_cases line stop with hslash | hslash <;> simp [hslash, hc]
  · rw [hnew, List.take_left]

/-- An element with an arrow function that closes itself. -/
def arrowInput : List Char := "  <input onChange=\x7b() => go('/>')\x7d  />;".toList

/-- A style whose value has a quote, a backslash, a bracket and a brace in it. -/
def oddStyle : List Char :=
  styleAttribute [("content".toList, writeValue "'\\>\x7d".toList)]

theorem insertAttribute_keepsTag_arrow :
    '<' :: "input".toList <+: arrowInput.drop 2 ∧ tagEnd arrowInput 2 = some 37 ∧
    (IsNewClass oddStyle ∨ IsNewStyle oddStyle) ∧
    ∃ stop', HasInserted arrowInput (insertAttribute arrowInput 2 5 oddStyle) "input".toList
      oddStyle 2 37 stop' := by
  have hopen : '<' :: "input".toList <+: arrowInput.drop 2 := by decide
  have hend : tagEnd arrowInput 2 = some 37 := by decide
  have hstyle : IsNewStyle oddStyle := by
    refine ⟨_, rfl, fun e he => ?_⟩
    rw [List.mem_singleton.1 he]
    exact ⟨by decide, by decide, _, rfl⟩
  exact ⟨hopen, hend, .inr hstyle, insertAttribute_keepsTag hopen hend (.inr hstyle)⟩

end Restyle.Style
