import Restyle.Component.Usage
import Restyle.Proofs.SheetText

/-!
Which lines of a single-file component are taken for markup. A file is made of blocks, and only its
template is meant; but where the template begins and ends is told by two words anywhere in the file.
So a line inside a script or a style is kept out exactly if its block stands before all that begins a
template, or behind all that ends one. Where scripts and styles have neither word that comes to this:
no script or style stands between two templates.
-/
namespace Restyle.Component

open Text

/-! ### Between two words -/

/-- Whether a line has the word that begins a template. -/
def Opens (l : List Char) : Prop := "<template".toList <:+: l

/-- Whether a line has the word that ends a template. -/
def Closes (l : List Char) : Prop := "</template>".toList <:+: l

/-- The lines that end a template, with their numbers from `k` on. -/
def closings (k : Nat) (ls : List (List Char)) : NumberedLines :=
  ((ls.zipIdx k).map fun (l, n) => (n, l)).filter fun x => occursIn "</template>".toList x.2

/-- The last line that ends a template, or the last line of all if none does. -/
def lastLine (ls : List (List Char)) : Nat :=
  ((closings 0 ls).getLast?.map (·.1)).getD (ls.length - 1)

variable {above below : List (List Char)} {l : List Char}

theorem templateRange_eq (ls : List (List Char)) :
    templateRange ls =
      (ls.findIdx? (occursIn "<template".toList)).map fun first =>
        (first, max first (lastLine ls)) := rfl

theorem closings_append (k : Nat) (above below : List (List Char)) :
    closings k (above ++ below) = closings k above ++ closings (k + above.length) below := by
  simp [closings, List.zipIdx_append]

theorem mem_closings {k n : Nat} {ls : List (List Char)} (h : (n, l) ∈ closings k ls) :
    k ≤ n ∧ n < k + ls.length ∧ l ∈ ls ∧ Closes l := by
  obtain ⟨hnumber, hcloses⟩ := List.mem_filter.1 h
  obtain ⟨⟨l', n'⟩, hmem, he⟩ := List.mem_map.1 hnumber
  cases he
  obtain ⟨hle, hlt, hget⟩ := List.mem_zipIdx hmem
  exact ⟨hle, hlt, hget ▸ List.getElem_mem _, occursIn_iff.1 hcloses⟩

theorem closings_eq_nil_iff {k : Nat} {ls : List (List Char)} :
    closings k ls = [] ↔ ∀ x ∈ ls, ¬ Closes x := by
  induction ls generalizing k with
  | nil => simp [closings]
  | cons x ls ih =>
    have hcons : closings k (x :: ls) = closings k [x] ++ closings (k + 1) ls :=
      closings_append k [x] ls
    have hone : closings k [x] = [] ↔ ¬ Closes x := by
      simp [closings, Closes, ← occursIn_iff]
    rw [hcons, List.append_eq_nil_iff, hone, ih, List.forall_mem_cons]

/-- A line is not behind the last one if a line from there on ends a template, or none before does. -/
theorem le_lastLine_iff :
    above.length ≤ lastLine (above ++ l :: below) ↔
      (∃ x ∈ l :: below, Closes x) ∨ ∀ x ∈ above, ¬ Closes x := by
  have hlate : (∃ x ∈ l :: below, Closes x) ↔ closings above.length (l :: below) ≠ [] := by
    rw [ne_eq, closings_eq_nil_iff]
    push Not
    rfl
  rw [hlate, ← closings_eq_nil_iff (k := 0), lastLine, closings_append, Nat.zero_add]
  cases hlast : (closings above.length (l :: below)).getLast? with
  | some x =>
    have hx := mem_closings (List.mem_of_getLast? hlast)
    have hne : closings above.length (l :: below) ≠ [] := by
      intro hnil
      rw [hnil] at hlast
      cases hlast
    simp [List.getLast?_append, hlast, hne, hx.1]
  | none =>
    rw [List.getLast?_eq_none_iff] at hlast
    rw [hlast, List.append_nil]
    cases hearly : (closings 0 above).getLast? with
    | some x =>
      have hx := mem_closings (List.mem_of_getLast? hearly)
      have hne : closings 0 above ≠ [] := by
        intro hnil
        rw [hnil] at hearly
        cases hearly
      simp [hne]
      omega
    | none =>
      rw [List.getLast?_eq_none_iff] at hearly
      simp [hearly]

theorem findIdx?_lt_iff {α : Type} {p : α → Bool} {xs ys : List α} {n : Nat}
    (h : (xs ++ ys).findIdx? p = some n) : n < xs.length ↔ ∃ x ∈ xs, p x = true := by
  rw [List.findIdx?_append] at h
  cases hx : xs.findIdx? p with
  | some m =>
    rw [hx, Option.some_or, Option.some.injEq] at h
    subst h
    obtain ⟨hlt, hp, -⟩ := List.findIdx?_eq_some_iff_getElem.1 hx
    exact iff_of_true hlt ⟨_, List.getElem_mem hlt, hp⟩
  | none =>
    rw [hx, Option.none_or, Option.map_eq_some_iff] at h
    obtain ⟨m, -, rfl⟩ := h
    have hnone := List.findIdx?_eq_none_iff.1 hx
    refine iff_of_false (by omega) ?_
    intro hsome
    obtain ⟨x, hxs, hp⟩ := hsome
    rw [hnone x hxs] at hp
    cases hp

/-- A line is taken for markup if a line up to it begins a template, and it is not behind the last
line. The line that begins the first template always is. -/
theorem mem_templateLines_iff :
    (above.length, l) ∈ templateLines (above ++ l :: below) ↔
      (∃ x ∈ above ++ [l], Opens x) ∧
        ((∃ x ∈ l :: below, Closes x) ∨ (∀ x ∈ above, ¬ Closes x) ∨ ∀ x ∈ above, ¬ Opens x) := by
  have hnumber : (above.length, l) ∈ number (above ++ l :: below) :=
    List.mem_map.2 ⟨(l, above.length), List.mem_zipIdx_iff_getElem?.2 (by simp), rfl⟩
  have hsplit : above ++ l :: below = (above ++ [l]) ++ below := by simp
  unfold templateLines
  rw [templateRange_eq]
  cases hfirst : (above ++ l :: below).findIdx? (occursIn "<template".toList) with
  | none =>
    have hnone := List.findIdx?_eq_none_iff.1 hfirst
    refine iff_of_false (by simp) ?_
    rintro ⟨⟨x, hx, hopens⟩, -⟩
    have hmem : x ∈ above ++ l :: below := hsplit ▸ List.mem_append_left _ hx
    have hno := hnone x hmem
    rw [occursIn_iff.2 hopens] at hno
    cases hno
  | some first =>
    have hlt := findIdx?_lt_iff hfirst
    have hle := findIdx?_lt_iff (hsplit ▸ hfirst)
    rw [List.length_append, List.length_singleton, Nat.lt_succ_iff] at hle
    simp only [occursIn_iff] at hlt hle
    have hbehind : above.length ≤ lastLine (above ++ l :: below) ↔ _ := le_lastLine_iff
    have hnot : (∀ x ∈ above, ¬ Opens x) ↔ above.length ≤ first := by
      rw [← not_lt, hlt]
      push Not
      rfl
    simp only [Option.map_some, List.mem_filter, hnumber, true_and, Bool.and_eq_true,
      decide_eq_true_eq, le_max_iff, hbehind, hle, hnot]
    refine and_congr_right fun _ => ?_
    rw [or_comm, or_assoc]

/-! ### Files of blocks -/

inductive BlockKind where
  | template | script | style
  deriving DecidableEq, Repr

def BlockKind.tag : BlockKind → List Char
  | template => "template".toList
  | script => "script".toList
  | style => "style".toList

/-- A block of a single-file component: its first line, its further lines, of which the last one
closes it, and the lines up to the next block. -/
structure Block where
  kind : BlockKind
  first : List Char
  rest : List (List Char)
  gap : List (List Char)
  deriving DecidableEq, Repr

namespace Block

def lines (b : Block) : List (List Char) := b.first :: (b.rest ++ b.gap)

/-- The lines strictly inside. -/
def inner (b : Block) : List (List Char) := b.rest.dropLast

/-- Whether a block is opened on its first line and closed on its last one, with nothing behind. -/
structure IsWhole (b : Block) : Prop where
  opened : '<' :: b.kind.tag <+: b.first
  closed : "</".toList ++ b.kind.tag ++ ['>'] <:+ b.rest.getLastD b.first
  blank : ∀ l ∈ b.gap, ∀ c ∈ l, isBlank c = true

/-- Whether a block has neither word that tells where a template is. -/
def IsSilent (b : Block) : Prop := ∀ l ∈ b.first :: b.rest, ¬ Opens l ∧ ¬ Closes l

end Block

def linesOf (file : List Block) : List (List Char) := file.flatMap Block.lines

/-- The lines strictly inside of scripts and styles, with their numbers. -/
inductive IsCode (file : List Block) : Nat → List Char → Prop
  | inside {before after : List Block} {b : Block} {above below : List (List Char)} {l : List Char}
      (place : file = before ++ b :: after) (kind : b.kind ≠ .template)
      (line : b.inner = above ++ l :: below) :
      IsCode file ((linesOf before).length + 1 + above.length) l

/-- Whether nothing up to the end of a block begins a template. -/
def StandsBefore (before : List Block) (b : Block) : Prop :=
  ∀ x ∈ linesOf before ++ b.first :: b.inner, ¬ Opens x

/-- Whether a template is begun and ended above the inside of a block, and none is ended from there
on. -/
def StandsBehind (before : List Block) (b : Block) (after : List Block) : Prop :=
  (∃ x ∈ linesOf before ++ [b.first], Opens x) ∧ (∃ x ∈ linesOf before ++ [b.first], Closes x) ∧
    ∀ x ∈ b.rest ++ b.gap ++ linesOf after, ¬ Closes x

def HasTemplate (file : List Block) : Prop := ∃ b ∈ file, b.kind = .template

variable {before after : List Block} {b : Block}

theorem Block.exists_last (h : b.inner = above ++ l :: below) :
    ∃ last, b.rest = above ++ l :: (below ++ [last]) := by
  have hne : b.rest ≠ [] := by
    intro hnil
    simp [inner, hnil] at h
  refine ⟨b.rest.getLast hne, ?_⟩
  have hrest := List.dropLast_append_getLast hne
  rw [← inner, h] at hrest
  simpa using hrest.symm

/-- A line inside of a block is left out if nothing up to it begins a template, or if one is begun
and ended above it and none is ended from there on. -/
theorem notMem_templateLines_iff {last : List Char}
    (hrest : b.rest = above ++ l :: (below ++ [last])) :
    ((linesOf before).length + 1 + above.length, l) ∉
        templateLines (linesOf (before ++ b :: after)) ↔
      (∀ x ∈ linesOf before ++ b.first :: (above ++ [l]), ¬ Opens x) ∨
      (∃ x ∈ linesOf before ++ b.first :: above, Opens x) ∧
        (∃ x ∈ linesOf before ++ b.first :: above, Closes x) ∧
        ∀ x ∈ l :: (below ++ last :: (b.gap ++ linesOf after)), ¬ Closes x := by
  have hlines : linesOf (before ++ b :: after) =
      (linesOf before ++ b.first :: above) ++
        l :: (below ++ last :: (b.gap ++ linesOf after)) := by
    simp [linesOf, Block.lines, hrest]
  have hlength : (linesOf before).length + 1 + above.length =
      (linesOf before ++ b.first :: above).length := by
    rw [List.length_append, List.length_cons]
    omega
  have hjoin : linesOf before ++ b.first :: above ++ [l] =
      linesOf before ++ b.first :: (above ++ [l]) := by simp
  rw [hlines, hlength, mem_templateLines_iff, hjoin, not_and_or, not_or, not_or]
  push Not
  constructor
  · rintro (hopens | ⟨hcloses, hended, hbegun⟩)
    · exact .inl hopens
    · exact .inr ⟨hbegun, hended, hcloses⟩
  · rintro (hopens | ⟨hbegun, hended, hcloses⟩)
    · exact .inl hopens
    · exact .inr ⟨hcloses, hended, hbegun⟩

/-- Whether every line inside of a block is left out. -/
def KeepsOut (before : List Block) (b : Block) (after : List Block) : Prop :=
  ∀ above l below, b.inner = above ++ l :: below →
    ((linesOf before).length + 1 + above.length, l) ∉ templateLines (linesOf (before ++ b :: after))

theorem StandsBefore.keepsOut (h : StandsBefore before b) : KeepsOut before b after := by
  intro above l below hinner
  obtain ⟨last, hrest⟩ := Block.exists_last hinner
  refine (notMem_templateLines_iff hrest).2 (.inl ?_)
  intro x hx
  apply h x
  rw [hinner]
  simp only [List.mem_append, List.mem_cons] at hx ⊢
  tauto

theorem StandsBehind.keepsOut (h : StandsBehind before b after) : KeepsOut before b after := by
  intro above l below hinner
  obtain ⟨last, hrest⟩ := Block.exists_last hinner
  obtain ⟨⟨x, hx, hopens⟩, ⟨y, hy, hcloses⟩, hnone⟩ := h
  have hearly : ∀ z ∈ linesOf before ++ [b.first], z ∈ linesOf before ++ b.first :: above := by
    intro z hz
    simp only [List.mem_append, List.mem_cons, List.not_mem_nil, or_false] at hz ⊢
    tauto
  refine (notMem_templateLines_iff hrest).2
    (.inr ⟨⟨x, hearly x hx, hopens⟩, ⟨y, hearly y hy, hcloses⟩, ?_⟩)
  intro z hz
  apply hnone z
  rw [hrest]
  simp only [List.mem_append, List.mem_cons] at hz ⊢
  tauto

/-- Where the first line inside is left out because nothing begins a template yet, no later one
begins one: it would be taken itself. -/
theorem KeepsOut.not_opens (h : KeepsOut before b after)
    (hfirst : ∀ l below, b.inner = l :: below →
      ∀ x ∈ linesOf before ++ b.first :: [l], ¬ Opens x)
    (above : List (List Char)) (l : List Char) (below : List (List Char))
    (hinner : b.inner = above ++ l :: below) :
    ∀ x ∈ linesOf before ++ b.first :: (above ++ [l]), ¬ Opens x := by
  induction above using List.reverseRecOn generalizing l below with
  | nil => exact hfirst l below hinner
  | append_singleton above l' ih =>
    have hearly := ih l' (l :: below) (by simpa using hinner)
    obtain ⟨last, hrest⟩ := Block.exists_last hinner
    rcases (notMem_templateLines_iff hrest).1 (h _ _ _ hinner) with hnone | ⟨⟨x, hx, hopens⟩, -⟩
    · exact hnone
    · exact absurd hopens (hearly x hx)

theorem keepsOut_iff (hinner : b.inner ≠ []) :
    KeepsOut before b after ↔ StandsBefore before b ∨ StandsBehind before b after := by
  constructor
  · intro h
    obtain ⟨l, below, hl⟩ := List.exists_cons_of_ne_nil hinner
    have hsplit : b.inner = [] ++ l :: below := hl
    obtain ⟨last, hrest⟩ := Block.exists_last hsplit
    rcases (notMem_templateLines_iff hrest).1 (h _ _ _ hsplit) with hnone | hbehind
    · left
      have hend : b.inner = b.inner.dropLast ++ b.inner.getLast hinner :: [] :=
        (List.dropLast_append_getLast hinner).symm
      have hall := h.not_opens (fun l' below' hl' => by
        rw [hl, List.cons.injEq] at hl'
        exact hl'.1 ▸ hnone) _ _ _ hend
      rw [List.dropLast_append_getLast hinner] at hall
      exact hall
    · right
      obtain ⟨hopens, hcloses, hnone⟩ := hbehind
      refine ⟨hopens, hcloses, ?_⟩
      intro x hx
      apply hnone x
      rw [hrest] at hx
      simp only [List.nil_append, List.cons_append, List.append_assoc, List.mem_append,
        List.mem_cons] at hx ⊢
      tauto
  · intro h
    rcases h with h | h
    · exact h.keepsOut
    · exact h.keepsOut

/-! ### Scripts and styles without the words -/

theorem notInfix_of_blank {word : List Char} (hword : '<' ∈ word)
    (h : ∀ c ∈ l, isBlank c = true) : ¬ word <:+: l := by
  intro hin
  exact absurd (h '<' (hin.subset hword)) (by decide)

/-- In blocks that are whole, and silent unless they are templates, both words tell of templates. -/
theorem words_iff (hwhole : ∀ b ∈ before, b.IsWhole)
    (hsilent : ∀ b ∈ before, b.kind ≠ .template → b.IsSilent) :
    ((∃ x ∈ linesOf before, Opens x) ↔ HasTemplate before) ∧
      ((∃ x ∈ linesOf before, Closes x) ↔ HasTemplate before) := by
  have hword : ∀ b ∈ before, ∀ x ∈ b.lines, Opens x ∨ Closes x → b.kind = .template := by
    intro b hb x hx hword
    by_contra hkind
    rw [Block.lines, ← List.cons_append, List.mem_append] at hx
    rcases hx with hx | hx
    · obtain ⟨hopens, hcloses⟩ := hsilent b hb hkind x hx
      exact hword.elim hopens hcloses
    · have hblank := (hwhole b hb).blank x hx
      exact hword.elim (notInfix_of_blank (by decide) hblank)
        (notInfix_of_blank (by decide) hblank)
  constructor
  · constructor
    · rintro ⟨x, hx, hopens⟩
      obtain ⟨b, hb, hxb⟩ := List.mem_flatMap.1 hx
      exact ⟨b, hb, hword b hb x hxb (.inl hopens)⟩
    · rintro ⟨b, hb, hkind⟩
      have hopened := (hwhole b hb).opened
      rw [hkind] at hopened
      exact ⟨b.first, List.mem_flatMap.2 ⟨b, hb, List.mem_cons_self⟩, hopened.isInfix⟩
  · constructor
    · rintro ⟨x, hx, hcloses⟩
      obtain ⟨b, hb, hxb⟩ := List.mem_flatMap.1 hx
      exact ⟨b, hb, hword b hb x hxb (.inr hcloses)⟩
    · rintro ⟨b, hb, hkind⟩
      have hclosed := (hwhole b hb).closed
      rw [hkind] at hclosed
      have hlast : b.rest.getLastD b.first ∈ b.lines := by
        rw [Block.lines, ← List.cons_append]
        refine List.mem_append_left _ ?_
        rw [← List.getLast_eq_getLastD (by simp)]
        exact List.getLast_mem _
      exact ⟨_, List.mem_flatMap.2 ⟨b, hb, hlast⟩, hclosed.isInfix⟩

/-- A silent block stands before all templates or behind them. -/
theorem stands_iff {file : List Block} (hfile : file = before ++ b :: after)
    (hkind : b.kind ≠ .template) (hwhole : ∀ b ∈ file, b.IsWhole)
    (hsilent : ∀ b ∈ file, b.kind ≠ .template → b.IsSilent) :
    StandsBefore before b ∨ StandsBehind before b after ↔
      ¬ (HasTemplate before ∧ HasTemplate after) := by
  subst hfile
  have hb := hsilent b (List.mem_append_right _ List.mem_cons_self) hkind
  have hgap := (hwhole b (List.mem_append_right _ List.mem_cons_self)).blank
  have hearly := words_iff (fun c hc => hwhole c (List.mem_append_left _ hc))
    (fun c hc => hsilent c (List.mem_append_left _ hc))
  have hlate := words_iff
    (fun c hc => hwhole c (List.mem_append_right _ (List.mem_cons_of_mem b hc)))
    (fun c hc => hsilent c (List.mem_append_right _ (List.mem_cons_of_mem b hc)))
  have hbefore : StandsBefore before b ↔ ¬ HasTemplate before := by
    rw [← hearly.1]
    constructor
    · rintro h ⟨x, hx, hopens⟩
      exact h x (List.mem_append_left _ hx) hopens
    · intro h x hx hopens
      rcases List.mem_append.1 hx with hx | hx
      · exact h ⟨x, hx, hopens⟩
      · have hmem : x ∈ b.first :: b.rest := by
          rcases List.mem_cons.1 hx with rfl | hx
          · exact List.mem_cons_self
          · exact List.mem_cons_of_mem _ (List.mem_of_mem_dropLast hx)
        exact (hb x hmem).1 hopens
  have hfirst {P : List Char → Prop} (hno : ¬ P b.first) :
      (∃ x ∈ linesOf before ++ [b.first], P x) ↔ ∃ x ∈ linesOf before, P x := by
    simp [or_and_right, exists_or, hno]
  have hbehind : StandsBehind before b after ↔ HasTemplate before ∧ ¬ HasTemplate after := by
    unfold StandsBehind
    rw [hfirst (hb _ List.mem_cons_self).1, hfirst (hb _ List.mem_cons_self).2, hearly.1, hearly.2,
      ← hlate.2]
    constructor
    · rintro ⟨htemplate, -, hnone⟩
      refine ⟨htemplate, ?_⟩
      rintro ⟨x, hx, hcloses⟩
      exact hnone x (List.mem_append_right _ hx) hcloses
    · rintro ⟨htemplate, hnone⟩
      refine ⟨htemplate, htemplate, ?_⟩
      intro x hx hcloses
      rcases List.mem_append.1 hx with hx | hx
      · rcases List.mem_append.1 hx with hx | hx
        · exact (hb x (List.mem_cons_of_mem _ hx)).2 hcloses
        · exact notInfix_of_blank (by decide) (hgap x hx) hcloses
      · exact hnone ⟨x, hx, hcloses⟩
  rw [hbefore, hbehind]
  constructor
  · rintro (hno | ⟨-, hno⟩) ⟨habove, hbelow⟩
    · exact hno habove
    · exact hno hbelow
  · intro h
    by_cases habove : HasTemplate before
    · exact .inr ⟨habove, fun hbelow => h ⟨habove, hbelow⟩⟩
    · exact .inl habove

/-- No line inside of a script or a style is taken for markup exactly if each of them stands before
all that begins a template or behind all that ends one. If they are silent, that is to say that none
stands between templates. -/
theorem code_unread_iff (p : Path) (file : List Block) :
    ((∀ n l, IsCode file n l → (n, l) ∉ scannable .vue p (linesOf file)) ↔
      ∀ before b after, file = before ++ b :: after → b.kind ≠ .template → b.inner ≠ [] →
        StandsBefore before b ∨ StandsBehind before b after) ∧
    ((∀ b ∈ file, b.IsWhole) → (∀ b ∈ file, b.kind ≠ .template → b.IsSilent) →
      ((∀ n l, IsCode file n l → (n, l) ∉ scannable .vue p (linesOf file)) ↔
        ∀ before b after, file = before ++ b :: after → b.kind ≠ .template → b.inner ≠ [] →
          ¬ (HasTemplate before ∧ HasTemplate after))) := by
  have hexact : (∀ n l, IsCode file n l → (n, l) ∉ scannable .vue p (linesOf file)) ↔
      ∀ before b after, file = before ++ b :: after → b.kind ≠ .template → b.inner ≠ [] →
        StandsBefore before b ∨ StandsBehind before b after := by
    constructor
    · rintro h before b after rfl hkind hinner
      refine (keepsOut_iff hinner).1 ?_
      intro above l below hline
      exact h _ l (.inside rfl hkind hline)
    · rintro h n l (@⟨before, after, b, above, below, l, hfile, hkind, hline⟩)
      subst hfile
      have hinner : b.inner ≠ [] := by
        rw [hline]
        simp
      exact (keepsOut_iff hinner).2 (h before b after rfl hkind hinner) above l below hline
  refine ⟨hexact, fun hwhole hsilent => ?_⟩
  rw [hexact]
  refine forall_congr' fun before => forall_congr' fun b => forall_congr' fun after => ?_
  refine forall_congr' fun hfile => forall_congr' fun hkind => forall_congr' fun _ => ?_
  exact stands_iff hfile hkind hwhole hsilent

def quietScript : Block :=
  ⟨.script, "<script>".toList, ["const row = '<UserRow>'".toList, "</script>".toList], []⟩

def paragraph : Block :=
  ⟨.template, "<template>".toList, ["  <p>x</p>".toList, "</template>".toList], [[]]⟩

def quietSheet : Block :=
  ⟨.style, "<style>".toList, ["p { color: red }".toList, "</style>".toList], [[]]⟩

/-- A file with one template, of which neither its script nor its style speaks. -/
def quietFile : List Block := [quietScript, paragraph, quietSheet]

theorem code_unread_quiet :
    (∀ b ∈ quietFile, b.IsWhole) ∧ (∀ b ∈ quietFile, b.kind ≠ .template → b.IsSilent) ∧
    (∀ n l, IsCode quietFile n l → (n, l) ∉ scannable .vue ["w", "Card.vue"] (linesOf quietFile)) ∧
    IsCode quietFile 1 "const row = '<UserRow>'".toList := by
  have hwhole : ∀ b ∈ quietFile, b.IsWhole := by
    intro b hb
    simp only [quietFile, List.mem_cons, List.not_mem_nil, or_false] at hb
    rcases hb with rfl | rfl | rfl
    · exact ⟨by decide, by decide, by simp [quietScript]⟩
    · exact ⟨by decide, by decide, by simp [paragraph]⟩
    · exact ⟨by decide, by decide, by simp [quietSheet]⟩
  have hsilent : ∀ b ∈ quietFile, b.kind ≠ .template → b.IsSilent := by
    intro b hb hkind
    simp only [quietFile, List.mem_cons, List.not_mem_nil, or_false] at hb
    rcases hb with rfl | rfl | rfl
    · unfold Block.IsSilent Opens Closes
      decide +kernel
    · exact absurd rfl hkind
    · unfold Block.IsSilent Opens Closes
      decide +kernel
  refine ⟨hwhole, hsilent, ((code_unread_iff _ quietFile).2 hwhole hsilent).2 ?_, ?_⟩
  · -- nothing stands between templates where there is one only
    rintro before b after hfile hkind - ⟨⟨c, hc, habove⟩, d, hd, hbelow⟩
    have hone : (before ++ b :: after).countP (fun b => b.kind = .template) = 1 := by
      rw [← hfile]
      rfl
    have habove : 0 < before.countP fun b => b.kind = .template :=
      List.countP_pos_iff.2 ⟨c, hc, decide_eq_true habove⟩
    have hbelow : 0 < after.countP fun b => b.kind = .template :=
      List.countP_pos_iff.2 ⟨d, hd, decide_eq_true hbelow⟩
    rw [List.countP_append, List.countP_cons] at hone
    omega
  · have hfile : quietFile = [] ++ quietScript :: [paragraph, quietSheet] := rfl
    have hline : quietScript.inner = [] ++ "const row = '<UserRow>'".toList :: [] := rfl
    exact .inside hfile (by decide) hline

/-- A script that speaks of a template. -/
def spokenScript : Block :=
  ⟨.script, "<script>".toList,
    ["const box = '<template>'".toList, "const row = '<UserRow>'".toList, "</script>".toList], []⟩

def spokenFile : List Block := [spokenScript, paragraph]

def spokenText : List Char :=
  ("<script>\nconst box = '<template>'\nconst row = '<UserRow>'\n</script>\n" ++
    "<template>\n  <p>x</p>\n</template>\n").toList

/-- The blocks are whole, but a line inside of the script is taken for markup, and a component of
which only the script speaks is used. -/
theorem code_read :
    lines spokenText = linesOf spokenFile ∧ (∀ b ∈ spokenFile, b.IsWhole) ∧
    IsCode spokenFile 2 "const row = '<UserRow>'".toList ∧
    (2, "const row = '<UserRow>'".toList) ∈
      scannable .vue ["w", "Card.vue"] (lines spokenText) ∧
    usages .vue [] ["w", "Card.vue"] spokenText = ["UserRow"] := by
  refine ⟨by decide +kernel, ?_, ?_, by decide +kernel, by decide +kernel⟩
  · intro b hb
    simp only [spokenFile, List.mem_cons, List.not_mem_nil, or_false] at hb
    rcases hb with rfl | rfl
    · exact ⟨by decide, by decide, by simp [spokenScript]⟩
    · exact ⟨by decide, by decide, by simp [paragraph]⟩
  · have hfile : spokenFile = [] ++ spokenScript :: [paragraph] := rfl
    have hline : spokenScript.inner =
        ["const box = '<template>'".toList] ++ "const row = '<UserRow>'".toList :: [] := rfl
    exact .inside hfile (by decide) hline

end Restyle.Component
