import Mathlib.Data.List.MinMax
import Restyle.Element.Locate
import Restyle.Proofs.ReadValue
import Restyle.Proofs.TreeChange

/-!
Which line is found for an element. Files are searched one after the other, and what was found in
each of them is compared; that comes to the choice among all lines that fit, in the order in which
they are scanned.
-/
namespace Restyle

theorem Tree.isPlace_of_mem_list? {t : Tree} (ht : t.IsProper) {dir : Path} {x : String × Node}
    (h : x ∈ (t.list? dir).getD []) : Path.IsPlace [x.1] := by
  unfold list? at h
  split at h
  · next q _ =>
    obtain ⟨n, -, hn⟩ := List.mem_filterMap.1 h
    obtain ⟨node, hnode, rfl⟩ := Option.map_eq_some_iff.1 hn
    have hplace := ht (q ++ [n]) (by simp [hnode])
    exact fun m hm => hplace m (List.mem_append_right q hm)
  · cases h

/-- Where a fault stands for nothing, what is in a list is in one that was given. -/
theorem mem_toOption_getD {ε α : Type} {x : Except ε (List α)} {a : α} :
    a ∈ x.toOption.getD [] ↔ ∃ l, x = .ok l ∧ a ∈ l := by
  cases x <;> simp [Except.toOption]

namespace Scan

variable {s : Scan} {includes : List String} {t : Tree} {root p : Path} {found : List Path}

theorem flatten_of_forall₂ {α β : Type} {f : α → Except Fault (List β)} {l : List α}
    {parts : List (List β)} (h : List.Forall₂ (fun x part => f x = .ok part) l parts) :
    (∀ x ∈ l, ∃ part, f x = .ok part) ∧
      parts.flatten = l.flatMap fun x => (f x).toOption.getD [] := by
  induction h with
  | nil => simp
  | @cons x part l parts hx _ ih =>
    refine ⟨List.forall_mem_cons.2 ⟨⟨part, hx⟩, ih.1⟩, ?_⟩
    rw [List.flatten_cons, List.flatMap_cons, ih.2, hx]
    rfl

/-- Where the files below a directory are found, they are found of each entry, and are all of
these. -/
theorem entries_of_filesFrom {room depth : Nat} {below : Path}
    (hnear : s.limit.admits depth = true)
    (h : s.filesFrom includes t root (room + 1) depth below = .ok found) :
    (∀ entry ∈ (t.list? (root ++ below)).getD [], ∃ part,
      s.filesAt includes root below (s.filesFrom includes t root room (depth + 1)) entry =
        .ok part) ∧
    found = ((t.list? (root ++ below)).getD []).flatMap fun entry =>
      (s.filesAt includes root below (s.filesFrom includes t root room (depth + 1))
        entry).toOption.getD [] := by
  rw [filesFrom, if_pos hnear, map_eq_ok] at h
  obtain ⟨parts, hparts, rfl⟩ := h
  exact flatten_of_forall₂ (mapM_eq_ok.1 hparts)

theorem filesFrom_far {room depth : Nat} {below : Path} (hfar : ¬ s.limit.admits depth = true) :
    s.filesFrom includes t root (room + 1) depth below = .ok [] := by
  rw [filesFrom, if_neg hfar]

/-- A file is found below a directory if an entry comes to it. -/
theorem mem_of_filesFrom {room depth : Nat} {below : Path}
    (h : s.filesFrom includes t root (room + 1) depth below = .ok found) :
    p ∈ found ↔ s.limit.admits depth = true ∧ ∃ entry ∈ (t.list? (root ++ below)).getD [],
      ∃ part, s.filesAt includes root below (s.filesFrom includes t root room (depth + 1)) entry =
        .ok part ∧ p ∈ part := by
  by_cases hnear : s.limit.admits depth = true
  · rw [(entries_of_filesFrom hnear h).2, List.mem_flatMap]
    simp only [mem_toOption_getD, hnear, true_and]
  · rw [filesFrom_far hnear] at h
    cases h
    simp [hnear]

/-- Files are found at places. -/
theorem isPlace_of_mem_files (hroot : root.IsPlace) (ht : t.IsProper)
    (h : s.files includes t root = .ok found) (hp : p ∈ found) : p.IsPlace := by
  have below (room depth : Nat) (dir : Path) (hdir : dir.IsPlace) (found : List Path)
      (h : s.filesFrom includes t root room depth dir = .ok found) (hp : p ∈ found) :
      p.IsPlace := by
    induction room generalizing depth dir found with
    | zero => cases h
    | succ room ih =>
      obtain ⟨-, ⟨name, node⟩, hx, part, hpart, hp⟩ := (mem_of_filesFrom h).1 hp
      have hpath := hdir.append (Tree.isPlace_of_mem_list? ht hx)
      unfold filesAt at hpart
      simp only at hpart
      split at hpart
      · cases hpart
        cases hp
      · cases node with
        | directory => exact ih _ _ hpath _ hpart hp
        | file bytes =>
          cases hpart
          split at hp
          · exact List.mem_singleton.1 hp ▸ hroot.append hpath
          · cases hp
  exact below _ _ [] (fun n hn => absurd hn List.not_mem_nil) found h hp

end Scan

namespace Locate

/-! ### Choosing -/

section Choosing

variable {α β : Type} {confidence : α → Confidence} {choice : Choice}

/-- The surer of two; the first one when none is. -/
def surer (confidence : α → Confidence) (a b : α) : α :=
  if confidence a < confidence b then b else a

theorem surer_assoc (a b c : α) :
    surer confidence (surer confidence a b) c = surer confidence a (surer confidence b c) := by
  have lt_iff (x y : Confidence) : x < y ↔ x.tenThousandths < y.tenThousandths := Iff.rfl
  unfold surer
  simp only [lt_iff]
  split_ifs <;> first | rfl | omega

theorem surest_eq_argmax (l : List α) :
    surest confidence l = l.argmax fun a => (confidence a).tenThousandths := by
  have fold (l : List α) (a : α) :
      some (l.foldl (surer confidence) a) =
        l.foldl (List.argAux fun b c => (confidence c).tenThousandths <
          (confidence b).tenThousandths) (some a) := by
    induction l generalizing a with
    | nil => rfl
    | cons b l ih =>
      rw [List.foldl_cons, List.foldl_cons, ih, surer, apply_ite some]
      rfl
  cases l with
  | nil => rfl
  | cons a l => exact fold l a

theorem surest_cons (a : α) (l : List α) :
    surest confidence (a :: l) =
      Option.merge (surer confidence) (some a) (surest confidence l) := by
  rw [surest_eq_argmax, surest_eq_argmax, List.argmax_cons]
  cases l.argmax fun a => (confidence a).tenThousandths with
  | none => rfl
  | some b => exact (apply_ite some _ b a).symm

theorem surest_append (l l' : List α) :
    surest confidence (l ++ l') =
      Option.merge (surer confidence) (surest confidence l) (surest confidence l') := by
  induction l with
  | nil =>
    show surest confidence l' = Option.merge _ none (surest confidence l')
    cases surest confidence l' <;> rfl
  | cons a l ih =>
    rw [List.cons_append, surest_cons, surest_cons, ih]
    cases surest confidence l <;> cases surest confidence l' <;>
      simp [Option.merge, surer_assoc]

theorem choose_map (g : β → α) (l : List β) :
    choose choice confidence (l.map g) = (choose choice (fun b => confidence (g b)) l).map g := by
  cases choice with
  | first => simp [choose]
  | best =>
    simp only [choose]
    induction l with
    | nil => rfl
    | cons b l ih =>
      rw [List.map_cons, surest_cons, surest_cons, ih]
      cases surest (fun b => confidence (g b)) l with
      | none => rfl
      | some c => exact congrArg some (apply_ite g _ c b).symm

/-- The choice among all is the choice among those that were chosen of each part. -/
theorem choose_flatMap (part : β → List α) (l : List β) :
    choose choice confidence (l.flatMap part) =
      choose choice confidence (l.filterMap fun b => choose choice confidence (part b)) := by
  cases choice with
  | first => simp [choose, List.head?_flatMap, List.head?_filterMap]
  | best =>
    simp only [choose]
    induction l with
    | nil => rfl
    | cons b l ih =>
      rw [List.flatMap_cons, surest_append, ih, List.filterMap_cons]
      cases surest confidence (part b) with
      | none => cases surest confidence _ <;> rfl
      | some a => exact (surest_cons a _).symm

/-- Whether one of a list is the first, or the first of the surest. -/
def IsChosen (choice : Choice) (confidence : α → Confidence) (l : List α) (a : α) : Prop :=
  ∃ before after, l = before ++ a :: after ∧
    match choice with
    | .first => before = []
    | .best =>
      (∀ b ∈ before, confidence b < confidence a) ∧ ∀ b ∈ after, confidence b ≤ confidence a

theorem IsChosen.mem {l : List α} {a : α} (h : IsChosen choice confidence l a) : a ∈ l := by
  obtain ⟨before, after, rfl, -⟩ := h
  simp

theorem surest_eq_none {l : List α} : surest confidence l = none ↔ l = [] := by
  rw [surest_eq_argmax, List.argmax_eq_none]

theorem le_of_surest {l : List α} {a b : α} (h : surest confidence l = some a) (hb : b ∈ l) :
    confidence b ≤ confidence a :=
  List.le_of_mem_argmax hb (surest_eq_argmax l ▸ h)

theorem IsChosen.le {l : List α} {a b : α} (h : IsChosen .best confidence l a) (hb : b ∈ l) :
    confidence b ≤ confidence a := by
  obtain ⟨before, after, rfl, hbefore, hafter⟩ := h
  rcases List.mem_append.1 hb with hb | hb
  · exact Nat.le_of_lt (hbefore b hb)
  · rcases List.mem_cons.1 hb with rfl | hb
    · exact Nat.le_refl _
    · exact hafter b hb

theorem isChosen_surest {l : List α} {a : α} (h : surest confidence l = some a) :
    IsChosen .best confidence l a := by
  induction l generalizing a with
  | nil => cases h
  | cons b l ih =>
    have hle (x : α) (hx : x ∈ l) := le_of_surest h (List.mem_cons_of_mem b hx)
    rw [surest_cons] at h
    cases hl : surest confidence l with
    | none =>
      obtain rfl := surest_eq_none.1 hl
      cases h
      exact ⟨[], [], rfl, by simp, by simp⟩
    | some c =>
      rw [hl, Option.merge_some_some, surer] at h
      split at h
      · next hlt =>
        cases h
        obtain ⟨before, after, rfl, hbefore, hafter⟩ := ih hl
        exact ⟨b :: before, after, rfl, by simpa [hlt] using hbefore, hafter⟩
      · cases h
        exact ⟨[], l, rfl, by simp, hle⟩

theorem choose_eq_some {l : List α} {a : α} (h : choose choice confidence l = some a) :
    IsChosen choice confidence l a := by
  cases choice with
  | first =>
    obtain ⟨after, rfl⟩ := List.head?_eq_some_iff.1 h
    exact ⟨[], after, rfl, rfl⟩
  | best => exact isChosen_surest h

theorem choose_eq_none {l : List α} : choose choice confidence l = none ↔ l = [] := by
  cases choice with
  | first => exact List.head?_eq_none_iff
  | best => exact surest_eq_none

end Choosing

/-! ### The lines that are scanned -/

/-- A line of a file, with its index. -/
structure Row where
  path : Path
  index : Nat
  line : List Char
  deriving DecidableEq

/-- The lines of a file that may hold markup and are no comments. One that cannot be read has
none. -/
def rowsIn (f : Framework) (t : Tree) (p : Path) : List Row :=
  match Component.readText t p with
  | .error _ => []
  | .ok content =>
    (Component.scannable f p (Text.lines content.toList)).filterMap fun (n, l) =>
      if Markup.isComment f l then none else some ⟨p, n, l⟩

def rows (f : Framework) (t : Tree) (files : List Path) : List Row := files.flatMap (rowsIn f t)

/-- The rows that fit, with how well they do. -/
def fits (d : Descriptor) (f : Framework) (rs : List Row) : List (Row × Markup.LineMatch) :=
  rs.filterMap fun r => (Markup.scoreLine d f r.line).map (r, ·)

theorem mem_fits {d : Descriptor} {f : Framework} {rs : List Row} {r : Row}
    {m : Markup.LineMatch} :
    (r, m) ∈ fits d f rs ↔ r ∈ rs ∧ Markup.scoreLine d f r.line = some m := by
  unfold fits
  simp only [List.mem_filterMap, Option.map_eq_some_iff, Prod.mk.injEq]
  constructor
  · rintro ⟨_, hr, _, hm, rfl, rfl⟩
    exact ⟨hr, hm⟩
  · rintro ⟨hr, hm⟩
    exact ⟨r, hr, m, hm, rfl, rfl⟩

/-- What is told of a row that fits: its file, its line counted from one, and how sure it is. -/
def told (x : Row × Markup.LineMatch) : Path × Nat × Confidence :=
  (x.1.path, x.1.index + 1, x.2.confidence)

end Locate

def SourceInfo.told (s : SourceInfo) : Path × Nat × Confidence := (s.path, s.line, s.confidence)

namespace Locate

variable {d : Descriptor} {f : Framework} {t : Tree}

theorem testLine_eq (hf : f ≠ .html) (line : List Char) :
    testLine d f line = if Markup.isComment f line then none else Markup.scoreLine d f line := by
  cases f <;> first | rfl | exact absurd rfl hf

theorem fits_rowsIn (hf : f ≠ .html) {p : Path} {content : String}
    (h : Component.readText t p = .ok content) :
    fits d f (rowsIn f t p) =
      (candidates d f p content.toList).map fun c => (⟨p, c.row, c.line⟩, c.fit) := by
  unfold fits rowsIn candidates
  rw [h]
  simp only [List.filterMap_filterMap, List.map_filterMap, testLine_eq hf, Option.map_map]
  refine List.filterMap_congr fun x _ => ?_
  split <;> rfl

/-- What is found in one file. -/
theorem inFile_told (hf : f ≠ .html) (d : Descriptor) (choice : Choice) (t : Tree) (p : Path) :
    (inFile d f choice t p).map SourceInfo.told =
      (choose choice (·.2.confidence) (fits d f (rowsIn f t p))).map told := by
  unfold inFile
  split
  · next h =>
    have hnone : rowsIn f t p = [] := by rw [rowsIn, h]
    rw [hnone]
    exact (congrArg (Option.map told) (choose_eq_none.2 rfl)).symm
  · next content h =>
    rw [fits_rowsIn hf h, choose_map, Option.map_map, Option.map_map]
    rfl

theorem inFiles_eq (d : Descriptor) (f : Framework) (choice : Choice) (t : Tree)
    (files : List Path) :
    inFiles d f choice t files =
      choose choice (·.confidence) (files.filterMap (inFile d f choice t)) := by
  cases choice with
  | first => exact List.head?_filterMap.symm
  | best => rfl

/-- What is found in all files is chosen of all that each of them has to choose from. -/
theorem inFiles_flatMap {β γ : Type} {tell : SourceInfo → β} {confidence : β → Confidence}
    {path : γ → Path} {part : γ → List β} {choice : Choice}
    (hpart : ∀ x, (inFile d f choice t (path x)).map tell = choose choice confidence (part x))
    (hconfidence : ∀ s, confidence (tell s) = s.confidence) (xs : List γ) :
    (inFiles d f choice t (xs.map path)).map tell =
      choose choice confidence (xs.flatMap part) := by
  calc (inFiles d f choice t (xs.map path)).map tell
      = choose choice confidence
          (((xs.map path).filterMap (inFile d f choice t)).map tell) := by
        rw [inFiles_eq, choose_map]
        simp only [hconfidence]
    _ = choose choice confidence (xs.filterMap fun x => choose choice confidence (part x)) := by
        rw [List.filterMap_map, List.map_filterMap]
        simp only [Function.comp_apply, hpart]
    _ = choose choice confidence (xs.flatMap part) := (choose_flatMap part xs).symm

/-- What is found in all files. -/
theorem inFiles_told (hf : f ≠ .html) (d : Descriptor) (choice : Choice) (t : Tree)
    (files : List Path) :
    (inFiles d f choice t files).map SourceInfo.told =
      (choose choice (·.2.confidence) (fits d f (rows f t files))).map told := by
  have found (p : Path) : (inFile d f choice t (id p)).map SourceInfo.told =
      choose choice (·.2.2) ((fits d f (rowsIn f t p)).map told) := by
    rw [id_eq, inFile_told hf, choose_map]
    rfl
  have htold := inFiles_flatMap found (fun _ => rfl) files
  rw [List.map_id] at htold
  calc (inFiles d f choice t files).map SourceInfo.told
      = choose choice (·.2.2) ((fits d f (rows f t files)).map told) := by
        rw [htold, fits, rows, List.filterMap_flatMap, List.map_flatMap]
        rfl
    _ = (choose choice (·.2.confidence) (fits d f (rows f t files))).map told := choose_map told _

end Locate

end Restyle
