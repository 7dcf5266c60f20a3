import Restyle.Proofs.FoundAgain
import Restyle.Proofs.SearchOrder
import Restyle.Proofs.SmallLetters

/-!
Where an element is said to be: on a line of one of the files that are searched, at the column where
its tag opens. In plain pages the tag is looked for in small letters, and the column is the one that
it has there: it lies one place behind for each dotted capital in front of the tag. A tag that
itself has a dotted capital, or a dot of its own, need not be the one that opens there.
-/
namespace Restyle

namespace Text

/-- Whether a word is told from any other one by its small letters, case apart. -/
def LowersPlainly (word : List Char) : Prop := dottedCapital ∉ word ∧ dotAbove ∉ word

instance (word : List Char) : Decidable (LowersPlainly word) :=
  inferInstanceAs (Decidable (_ ∧ _))

theorem hitAt_of_firstHit {α : Type} {test : Option Char → List Char → Option α}
    (htest : NeedsText test) {s : List Char} {n : Nat} {a : α}
    (h : firstHit test none 0 s = some (n, a)) : hitAt test s n = some a :=
  ((firstHit_eq_some_iff htest [] s).1 h).hit

theorem indexOf?_split {c : Char} {p s : List Char} {n : Nat}
    (h : indexOf? (c :: p) s = some n) :
    ∃ a rest, s = a ++ c :: (p ++ rest) ∧ a.length = n := by
  unfold indexOf? at h
  obtain ⟨⟨m, rest⟩, hfirst, rfl⟩ := Option.map_eq_some_iff.1 h
  have hrest := after?_eq_some.1 (hitAt_of_firstHit (fun _ => rfl) hfirst)
  refine ⟨s.take m, rest, ?_, ?_⟩
  · conv_lhs => rw [← List.take_append_drop m s, hrest, List.cons_append]
  · have hlength := congrArg List.length hrest
    rw [List.length_drop, List.length_append, List.length_cons] at hlength
    rw [List.length_take]
    omega

end Text

namespace Markup

open Text

/-- Whether a tag opens at a place of a line, counted from zero. Case does not count. -/
def OpensTag (tag line : List Char) (n : Nat) : Prop :=
  ∃ spelled rest, line.drop n = '<' :: (spelled ++ rest) ∧
    List.Forall₂ (fun p c => sameLetter p c = true) tag spelled

theorem OpensTag.bracket {tag line : List Char} {n : Nat} (h : OpensTag tag line n) :
    (line.drop n).head? = some '<' := by
  obtain ⟨spelled, rest, hdrop, -⟩ := h
  rw [hdrop, List.head?_cons]

theorem opensTag_of_findTag {tag line : List Char} {n : Nat} (h : findTag tag line = some n) :
    OpensTag tag line n := by
  unfold findTag at h
  obtain ⟨⟨m, rest⟩, hfirst, rfl⟩ := Option.map_eq_some_iff.1 h
  have hhit : tagAt tag (line.drop m) = some rest := hitAt_of_firstHit (fun _ => rfl) hfirst
  obtain ⟨spelled, rest', hdrop, hspelled, -⟩ := isSome_tagAt_iff.1 (by rw [hhit]; rfl)
  exact ⟨spelled, rest', hdrop, hspelled⟩

/-- A line that opens the tag counts for something, and for no more than certainty. -/
theorem rate_confidence (d : Descriptor) (f : Framework) (column : Nat) (line : List Char) :
    0 < (rate d f column line).confidence.tenThousandths ∧
      (rate d f column line).confidence ≤ ⟨10000⟩ := by
  refine ⟨?_, Confidence.ofTenths_le_one _⟩
  show 0 < 1000 * min (3 + _) 10
  omega

end Markup

namespace Locate

open Text Markup

/-- How many places behind the opening of a tag its column is told, by what stands before the tag. -/
def drift (f : Framework) (before : List Char) : Nat :=
  match f with
  | .html => before.count dottedCapital
  | _ => 0

/-- Whether a column is that of a bracket of the line but for its drift. The tag opens at the
bracket, unless it is looked for in small letters and they are not plain. -/
def TellsColumn (tag : List Char) (f : Framework) (line : List Char) (column : Nat) : Prop :=
  ∃ n, (line.drop n).head? = some '<' ∧ column = n + 1 + drift f (line.take n) ∧
    ((f = .html → LowersPlainly tag) → OpensTag tag line n)

section

variable {d : Descriptor} {f : Framework} {line : List Char} {fit : LineMatch}

theorem eq_of_pageLine (h : pageLine d line = some fit) :
    ∃ n, indexOf? ('<' :: lower d.tag.toList) (lower line) = some n ∧ fit.column = n + 1 ∧
      fit.confidence = pageConfidence := by
  unfold pageLine at h
  split at h
  · cases h
  · next n hn =>
    split at h
    · cases h
      exact ⟨n, hn, rfl, rfl⟩
    · cases h

theorem eq_of_scoreLine (h : scoreLine d f line = some fit) :
    ∃ n, findTag d.tag.toList line = some n ∧ fit = rate d f n line := by
  unfold scoreLine at h
  split at h
  · cases h
  · obtain ⟨n, hn, hfit⟩ := Option.map_eq_some_iff.1 h
    exact ⟨n, hn, hfit.symm⟩

theorem pageLine_column (h : pageLine d line = some fit) :
    TellsColumn d.tag.toList .html line fit.column := by
  obtain ⟨n, hn, hcolumn, -⟩ := eq_of_pageLine h
  obtain ⟨a, rest, hline, rfl⟩ := indexOf?_split hn
  obtain ⟨pre, post, rfl, hlength, hpost⟩ := exists_bracket hline
  refine ⟨pre.length, by rw [List.drop_left, List.head?_cons], ?_, fun hplain => ?_⟩
  · rw [hcolumn, hlength, List.take_left, drift]
    omega
  · obtain ⟨hdotted, hdot⟩ := hplain rfl
    obtain ⟨spelled, behind, rfl, hspelled⟩ := exists_word hdotted hdot ⟨rest, hpost⟩
    exact ⟨spelled, behind, List.drop_left, hspelled⟩

theorem scoreLine_column (hf : f ≠ .html) (h : scoreLine d f line = some fit) :
    TellsColumn d.tag.toList f line fit.column := by
  obtain ⟨n, hn, rfl⟩ := eq_of_scoreLine h
  have hopens := opensTag_of_findTag hn
  refine ⟨n, hopens.bracket, ?_, fun _ => hopens⟩
  cases f with
  | html => exact absurd rfl hf
  | _ => rfl

theorem Accepts.column (h : Accepts d f line fit) :
    TellsColumn d.tag.toList f line fit.column := by
  cases f with
  | html => exact pageLine_column h
  | _ => exact scoreLine_column (by decide) h.2

theorem Accepts.confidence (h : Accepts d f line fit) :
    0 < fit.confidence.tenThousandths ∧ fit.confidence ≤ ⟨10000⟩ := by
  cases f with
  | html =>
    obtain ⟨n, -, -, hpage⟩ := eq_of_pageLine h
    rw [hpage]
    decide
  | _ =>
    obtain ⟨n, -, rfl⟩ := eq_of_scoreLine h.2
    exact rate_confidence d _ n line

end

/-- Whether an element is said to be on a line of one of the files, with some confidence. -/
structure TellsLine (t : Tree) (files : List Path) (s : SourceInfo) (line : List Char) : Prop where
  scanned : s.path ∈ files
  there : ∃ content, Component.readText t s.path = .ok content ∧ 1 ≤ s.line ∧
    s.line ≤ (Text.lines content.toList).length ∧
    (Text.lines content.toList)[s.line - 1]? = some line
  sure : 0 < s.confidence.tenThousandths ∧ s.confidence ≤ ⟨10000⟩

theorem IsHit.tellsLine {d : Descriptor} {f : Framework} {t : Tree} {files : List Path} {h : Hit}
    {s : SourceInfo} (hhit : IsHit d f t files h) (htold : s.spot = h.spot) :
    TellsLine t files s h.found.line := by
  obtain ⟨hpath, hline, -, hsure⟩ : s.path = h.path ∧ s.line = h.found.row + 1 ∧
      s.column = h.found.fit.column ∧ s.confidence = h.confidence := by
    simpa [SourceInfo.spot, Hit.spot] using htold
  obtain ⟨content, hread, hscanned⟩ := hhit.scanned
  have hget := Component.getElem?_of_mem_scannable hscanned
  have hlt := (List.getElem?_eq_some_iff.1 hget).1
  refine ⟨?_, ⟨content, ?_, ?_, ?_, ?_⟩, ?_⟩
  · rw [hpath]
    exact List.mem_of_getElem? hhit.path
  · rw [hpath, hread]
  · omega
  · omega
  · rw [hline, Nat.add_sub_cancel, hget]
  · rw [hsure]
    exact hhit.accepted.confidence

end Locate

namespace Resolver

open Text Markup

/-- Whatever element is found, it is said to be on a line of one of the files of the framework, with
a confidence that is above zero and not above one; its column is that of a bracket of the line, and
the tag opens there. In plain pages the column lies behind the bracket by as many places as there
are dotted capitals before it, and the tag is sure to open there if its small letters are plain. -/
theorem located_column (r : Resolver) (f : Framework) (t : Tree) (c : Capture) (d : Descriptor)
    (s : SourceInfo) (hd : c.descriptorFor f = .ok d) (hfound : r.locate f t c = some s) :
    ∃ line, Locate.TellsLine t (r.files f t) s line ∧
      Locate.TellsColumn d.tag.toList f line s.column := by
  have hends := r.locate_ends f t c
  rw [hfound] at hends
  obtain ⟨h, ⟨d', hd', hhit⟩, htold⟩ := hends.exists_fits
  obtain rfl := Except.ok.inj (hd'.symm.trans hd)
  have hcolumn : s.column = h.found.fit.column := congrArg (·.2.2.1) htold
  refine ⟨h.found.line, hhit.tellsLine htold, ?_⟩
  rw [hcolumn]
  exact hhit.accepted.column

/-! ### A page with a dotted capital -/

def dottedPage : Tree :=
  ⟨[(["w"], .directory), (["w", "index.html"], .file "<b>\u0130</b><p>x</p>\n".toUTF8)]⟩

def pageResolver : Resolver :=
  { root := some ["w"], settings := Section.resolution.defaults, scan := some ⟨[], .atMost 10⟩
    choice := .first, detected := none, cache := .empty (.count 100) }

def paragraph : Descriptor := ⟨"p", none, none, none⟩

def dottedLine : List Char := "<b>\u0130</b><p>x</p>".toList

/-- What is told of the paragraph: the tag opens at the ninth column. -/
def toldParagraph : SourceInfo :=
  { path := ["w", "index.html"], line := 1, column := 10, component := "p", framework := .html
    kind := .element, confidence := Locate.pageConfidence
    details := Locate.detailsOf .html ["w", "index.html"] dottedLine [] }

theorem locate_paragraph :
    pageResolver.locate .html dottedPage (.ofDescriptor paragraph) = some toldParagraph := by
  decide +kernel

theorem located_column_paragraph :
    (Capture.ofDescriptor paragraph).descriptorFor .html = .ok paragraph ∧
    pageResolver.locate .html dottedPage (.ofDescriptor paragraph) = some toldParagraph ∧
    ∃ line, Locate.TellsLine dottedPage (pageResolver.files .html dottedPage) toldParagraph line ∧
      Locate.TellsColumn paragraph.tag.toList .html line toldParagraph.column :=
  ⟨rfl, locate_paragraph, located_column pageResolver .html dottedPage (.ofDescriptor paragraph)
    paragraph toldParagraph rfl locate_paragraph⟩

/-- The tag of the paragraph does not open at the column that is told. -/
theorem located_beside_tag :
    ¬ ∀ (r : Resolver) (f : Framework) (t : Tree) (c : Capture) (d : Descriptor) (s : SourceInfo),
      c.descriptorFor f = .ok d → d.tag ≠ "" → r.locate f t c = some s →
      ∃ line, Locate.TellsLine t (r.files f t) s line ∧ 1 ≤ s.column ∧
        OpensTag d.tag.toList line (s.column - 1) := by
  intro h
  obtain ⟨line, htold, -, hopens⟩ := h pageResolver .html dottedPage (.ofDescriptor paragraph)
    paragraph toldParagraph rfl (by decide) locate_paragraph
  obtain ⟨content, hread, -, -, hline⟩ := htold.there
  have hpage : Component.readText dottedPage ["w", "index.html"] =
      .ok "<b>\u0130</b><p>x</p>\n" := by
    decide +kernel
  obtain rfl := Except.ok.inj (hpage.symm.trans hread)
  have hfirst : (Text.lines "<b>\u0130</b><p>x</p>\n".toList)[toldParagraph.line - 1]? =
      some dottedLine := by
    decide +kernel
  obtain rfl := Option.some.inj (hfirst.symm.trans hline)
  have hbracket := hopens.bracket
  revert hbracket
  decide +kernel

end Resolver

end Restyle
