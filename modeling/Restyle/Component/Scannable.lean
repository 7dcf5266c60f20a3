import Restyle.Component.Name

/-!
The lines of a file that may hold markup, with their indices.
-/
namespace Restyle.Component

open Text

abbrev NumberedLines := List (Nat × List Char)

def number (ls : List (List Char)) : NumberedLines := ls.zipIdx.map fun (l, n) => (n, l)

/-- The first and the last line of the outer template: from the first line that opens a template
to the last line that closes one, or to the last line at all. -/
def templateRange (ls : List (List Char)) : Option (Nat × Nat) :=
  (ls.findIdx? (occursIn "<template".toList)).map fun first =>
    let closing := (number ls).filter fun (_, l) => occursIn "</template>".toList l
    let last := (closing.getLast?.map (·.1)).getD (ls.length - 1)
    (first, max first last)

def templateLines (ls : List (List Char)) : NumberedLines :=
  match templateRange ls with
  | none => []
  | some (first, last) => (number ls).filter fun (n, _) => first ≤ n && n ≤ last

/-- What follows the grave accent that opens an inline template. -/
def inlineTemplateAt (s : List Char) : Option (List Char) :=
  match (after? "template".toList s).map skipBlanks with
  | some (':' :: rest) =>
    match skipBlanks rest with
    | '\x60' :: rest => some rest
    | _ => none
  | _ => none

/-- The lines of inline templates, from the one that opens it to the one that closes it. -/
def inlineTemplateLines (inside : Bool) : NumberedLines → NumberedLines
  | [] => []
  | (n, l) :: rest =>
    if inside then (n, l) :: inlineTemplateLines (!l.contains '\x60') rest
    else
      match firstHit (fun _ s => inlineTemplateAt s) none 0 l with
      | none => inlineTemplateLines false rest
      | some (_, behind) => (n, l) :: inlineTemplateLines (!behind.contains '\x60') rest

def scannable (f : Framework) (p : Path) (ls : List (List Char)) : NumberedLines :=
  match f with
  | .vue => templateLines ls
  | .angular => if p.endsWith scriptEnding then inlineTemplateLines false (number ls) else number ls
  | _ => number ls

theorem mem_number {ls : List (List Char)} {n : Nat} {l : List Char} (h : (n, l) ∈ number ls) :
    ls[n]? = some l := by
  obtain ⟨⟨l', n'⟩, hm, he⟩ := List.mem_map.1 h
  simp only [Prod.mk.injEq] at he
  obtain ⟨rfl, rfl⟩ := he
  exact List.mem_zipIdx_iff_getElem?.1 hm

theorem inlineTemplateLines_subset (inside : Bool) (ls : NumberedLines) :
    ∀ x ∈ inlineTemplateLines inside ls, x ∈ ls := by
  induction ls generalizing inside with
  | nil => simp [inlineTemplateLines]
  | cons head rest ih =>
    obtain ⟨n, l⟩ := head
    intro x hx
    unfold inlineTemplateLines at hx
    split at hx
    · rcases List.mem_cons.1 hx with h | h
      · exact h ▸ List.mem_cons_self
      · exact List.mem_cons_of_mem _ (ih _ x h)
    · split at hx
      · exact List.mem_cons_of_mem _ (ih _ x hx)
      · rcases List.mem_cons.1 hx with h | h
        · exact h ▸ List.mem_cons_self
        · exact List.mem_cons_of_mem _ (ih _ x h)

/-- Every scannable line is a line of the file, with its index. -/
theorem getElem?_of_mem_scannable {f : Framework} {p : Path} {ls : List (List Char)} {n : Nat}
    {l : List Char} (h : (n, l) ∈ scannable f p ls) : ls[n]? = some l := by
  apply mem_number
  unfold scannable templateLines at h
  split at h
  · split at h
    · simp at h
    · exact (List.mem_filter.1 h).1
  · split at h
    · exact inlineTemplateLines_subset _ _ _ h
    · exact h
  · exact h

end Restyle.Component
