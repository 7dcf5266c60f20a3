import Mathlib.Data.List.TakeDrop
import Restyle.Console.Table

/-!
What is shown of a text with one tag in it, as messages have it. A tag takes no cell of the line: a
text that fits into the width without its tag is shown on one line.
-/
namespace Restyle.Console

open Text

/-! ### Tags of one word -/

/-- Whether a name is one word in small letters, and neither an attribute nor a colour in numbers. -/
structure IsPlainWord (name : List Char) : Prop where
  words : words name = [name]
  lower : lower name = name
  trim : trim name = name
  named : name ≠ "none".toList
  noAttribute : attribute? name = none
  hash : name.head? ≠ some '#'
  number : between? "color(".toList name = none
  parts : between? "rgb(".toList name = none

variable {name : List Char}

theorem IsPlainWord.read (h : IsPlainWord name) :
    Style.plain.read (Text.words name) = .ok { Style.plain with color := some name } ∨
      Style.plain.read (Text.words name) = .error .unknown := by
  rw [h.words, Style.read, h.lower, h.noAttribute]
  simp only [readColor, h.lower, h.hash, h.number, h.parts, if_false]
  cases colorNames.contains name
  · exact .inr rfl
  · exact .inl rfl

theorem IsPlainWord.styleOf (h : IsPlainWord name) : styleOf name = .ok name := by
  have hnormal : normalForm name = .ok name := by
    rw [normalForm, if_neg (h.trim.symm ▸ h.named)]
    rcases h.read with hread | hread
    · have hwords : Style.normalWords { Style.plain with color := some name } = [name] := rfl
      rw [hread]
      simp only [hwords]
      simp [List.intercalate]
    · rw [hread]
      simp only [h.trim, h.lower]
  rw [Console.styleOf, hnormal]

theorem IsPlainWord.fault? (h : IsPlainWord name) (start stop : Nat) :
    OpenTag.fault? ⟨start, name, none⟩ stop = none := by
  rw [OpenTag.fault?, OpenTag.style]
  rcases h.read with hread | hread <;> rw [hread]

theorem isPlainWord_green : IsPlainWord "green".toList := by
  constructor <;> decide +kernel

theorem isInOrder_bare (start : Nat) (name : List Char) : OpenTag.isInOrder ⟨start, name, none⟩ := by
  simp [OpenTag.isInOrder]

theorem takeOpen_last {test : OpenTag → Bool} {tag : OpenTag} (h : test tag) (tags : List OpenTag) :
    takeOpen test (tag :: tags) = some (tag, tags) := by
  simp [takeOpen, List.findIdx?_cons, h]

theorem IsPlainWord.close (h : IsPlainWord name) (start : Nat) (tags : List OpenTag) :
    Console.close name (⟨start, name, none⟩ :: tags) = .ok (⟨start, name, none⟩, tags) := by
  have hne : name.isEmpty = false := by
    cases name with
    | nil => exact absurd h.words (by decide)
    | cons c cs => rfl
  have htake : takeOpen (fun tag => (some name).all (tag.name = ·)) (⟨start, name, none⟩ :: tags) =
      some (⟨start, name, none⟩, tags) :=
    takeOpen_last (by simp) tags
  simp only [Console.close, hne, h.styleOf, Except.map, bind, Except.bind, htake,
    isInOrder_bare start name, if_true, Bool.false_eq_true, if_false]
  rfl

/-- A text with one tag of a plain word shows what stands before it, in it and behind it. -/
theorem mark_tagged {line : String} {before shown after : List Char} (h : IsPlainWord name)
    (hpieces : Console.pieces line.toList = [.text before, .opening name none, .text shown,
      .closing name, .text after]) :
    mark line = .ok (.plain (shownText before ++ shownText shown ++ shownText after)) := by
  rw [mark, hpieces]
  simp [markPieces, h.styleOf, h.close, h.fault?, Marked.plain, bind, Except.bind, pure, Except.pure]

/-! ### Texts on one line -/

theorem cellsOf_le_of_isInfix {a b : List Char} (h : a <:+: b) : cellsOf a ≤ cellsOf b := by
  obtain ⟨before, behind, rfl⟩ := h
  rw [cellsOf_append, cellsOf_append]
  omega

theorem cellsOf_trimRight_le (s : List Char) : cellsOf (trimRight s) ≤ cellsOf s := by
  refine cellsOf_le_of_isInfix (List.IsPrefix.isInfix ?_)
  rw [← List.reverse_suffix, trimRight, List.reverse_reverse]
  exact List.dropWhile_suffix isBlank

/-- Words with their blanks are what the text begins with. -/
theorem spacedWords_isPrefix (fuel : Nat) (s : List Char) : (spacedWords fuel s).flatten <+: s := by
  induction fuel generalizing s with
  | zero => exact List.nil_prefix
  | succ fuel ih =>
    simp only [spacedWords, List.span_eq_takeWhile_dropWhile]
    split
    · exact List.nil_prefix
    · obtain ⟨behind, hbehind⟩ := ih
        (((s.dropWhile isBlank).dropWhile fun c => !isBlank c).dropWhile isBlank)
      refine ⟨behind, ?_⟩
      rw [List.flatten_cons, List.append_assoc, hbehind]
      simp only [List.append_assoc, List.takeWhile_append_dropWhile]

/-- A line does not break while its words fit into it. -/
theorem breaksFrom_eq_nil {f : Frame} {ws : List (List Char)} {place cells : Nat}
    (h : cells + cellsOf ws.flatten ≤ f.width) : breaksFrom f place cells ws = [] := by
  induction ws generalizing place cells with
  | nil => rfl
  | cons word ws ih =>
    rw [List.flatten_cons, cellsOf_append] at h
    have hword := cellsOf_trimRight_le word
    rw [breaksFrom, if_pos (by omega)]
    exact ih (by omega)

theorem placesOf_eq_nil {c : Char} {m : Marked} (h : c ∉ m.text) : m.placesOf c = [] := by
  simp only [Marked.placesOf, List.map_eq_nil_iff, List.filter_eq_nil_iff, beq_iff_eq]
  rintro ⟨c', n⟩ hmem rfl
  exact h (List.fst_mem_of_mem_zipIdx hmem)

/-- Whether a text fits into a line as it is. -/
structure FitsLine (width : Nat) (s : List Char) : Prop where
  room : width ≠ 0
  length : s.length ≤ width
  cells : cellsOf s ≤ width
  line : '\n' ∉ s
  tab : '\t' ∉ s

variable {width : Nat} {s : List Char}

theorem FitsLine.wrap_eq (h : FitsLine width s) :
    wrap { width, side := .asIs, folds := true } (.plain s) = [.plain s] := by
  have hlines : (Marked.plain s).lines = [.plain s] := by
    rw [Marked.lines, placesOf_eq_nil h.line]
    rfl
  have htabs : withoutTabs (.plain s) = .plain s := by
    rw [withoutTabs, placesOf_eq_nil h.tab]
    rfl
  have hbreaks : breaks { width, side := .asIs, folds := true } (Marked.plain s).text = [] := by
    refine breaksFrom_eq_nil ?_
    rw [Nat.zero_add]
    exact Nat.le_trans (cellsOf_le_of_isInfix (spacedWords_isPrefix s.length s).isInfix) h.cells
  have hexcess : dropExcess width (.plain s) = .plain s := if_pos (.inl h.length)
  have hcut : cut { width, side := .asIs, folds := true } (.plain s) = .plain s := if_pos h.cells
  rw [wrap, if_neg h.room, hlines]
  simp only [List.flatMap_singleton, htabs, hbreaks]
  simp only [Marked.divide, List.isEmpty_nil, if_true, List.map_singleton, hexcess, place, hcut]

theorem inRanges_eq (table : Array (Nat × Nat)) (n : Nat) :
    inRanges table n = table.toList.any fun r => r.1 ≤ n && n ≤ r.2 := by
  rw [inRanges, Array.any_toList]

theorem cellsOfChar_tick : cellsOfChar '✓' = 1 := by
  -- The tables of ranges are evaluated as lists; as arrays they are walked place by place.
  simp only [cellsOfChar, inRanges_eq]
  decide +kernel

theorem FitsLine.tick (h : FitsLine width s) : FitsLine (width + 1) ('✓' :: s) where
  room := Nat.succ_ne_zero width
  length := Nat.succ_le_succ h.length
  cells := by
    have hcells := h.cells
    rw [cellsOf] at hcells ⊢
    rw [List.foldr_cons, cellsOfChar_tick]
    omega
  line := by simpa using h.line
  tab := by simpa using h.tab

/-- A text with one tag of a plain word shows what stands before it, in it and behind it, on one line
if it fits there. -/
theorem textLines_tagged {line : String} {before inside behind : List Char} (h : IsPlainWord name)
    (hpieces : Console.pieces line.toList = [.text before, .opening name none, .text inside,
      .closing name, .text behind])
    (hshown : shownText before ++ shownText inside ++ shownText behind = s)
    (hfits : FitsLine width s) : textLines width line = .ok [String.ofList s] := by
  have hmark : mark line = .ok (.plain s) := by
    rw [mark_tagged h hpieces, hshown]
  have hsettle : settle [.plain s] = .ok [s] := settle_plain [s]
  simp only [textLines, hmark, bind, Except.bind, hfits.wrap_eq, hsettle]
  rfl

end Restyle.Console
