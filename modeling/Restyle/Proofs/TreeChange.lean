import Restyle.Tree.Basic
import Restyle.Proofs.PathText
import Restyle.Proofs.Pairs

/-!
What operations do to a tree. Directories stay, and of files only those change that an operation
writes or removes; so a path that leads somewhere goes on leading there.
-/
namespace Restyle

/-- What may become of what lies at a place: it may be written if `w`, and removed if `r`. A
directory may be made where nothing was. -/
inductive NodeChange (w r : Prop) : Option Node → Option Node → Prop
  | same (a : Option Node) : NodeChange w r a a
  | made : NodeChange w r none (some .directory)
  | written {a : Option Node} (bytes : ByteArray) :
      w → a ≠ some .directory → NodeChange w r a (some (.file bytes))
  | removed {a : Option Node} (b : Option Node) : r → a ≠ some .directory → NodeChange w r a b

namespace NodeChange

variable {w r w' r' : Prop} {a b c : Option Node}

theorem trans (h : NodeChange w r a b) (h' : NodeChange w r b c) : NodeChange w r a c := by
  cases h with
  | same => exact h'
  | made =>
    cases h' with
    | same => exact .made
    | written bytes _ hne => exact absurd rfl hne
    | removed c _ hne => exact absurd rfl hne
  | written bytes hw hne =>
    cases h' with
    | same => exact .written bytes hw hne
    | written bytes' _ _ => exact .written bytes' hw hne
    | removed c hr _ => exact .removed c hr hne
  | removed b hr hne => exact .removed c hr hne

theorem mono (h : NodeChange w r a b) (hw : w → w') (hr : r → r') : NodeChange w' r' a b := by
  cases h with
  | same => exact .same a
  | made => exact .made
  | written bytes h hne => exact .written bytes (hw h) hne
  | removed b h hne => exact .removed b (hr h) hne

theorem directory (h : NodeChange w r (some .directory) b) : b = some .directory := by
  cases h with
  | same => rfl
  | written bytes _ hne => exact absurd rfl hne
  | removed b _ hne => exact absurd rfl hne

theorem keep {n : Node} (h : NodeChange w r (some n) b) (hw : ¬ w) (hr : ¬ r) : b = some n := by
  cases h with
  | same => rfl
  | written bytes h _ => exact absurd h hw
  | removed b h _ => exact absurd h hr

theorem isFile {bytes : ByteArray} (h : NodeChange w r (some (.file bytes)) b) (hr : ¬ r) :
    ∃ bytes', b = some (.file bytes') := by
  cases h with
  | same => exact ⟨bytes, rfl⟩
  | written bytes' _ _ => exact ⟨bytes', rfl⟩
  | removed b h _ => exact absurd h hr

end NodeChange

/-- The bytes of a regular file. -/
def Node.bytes? : Option Node → Option ByteArray
  | some (.file bytes) => some bytes
  | _ => none

theorem NodeChange.bytes? {w r : Prop} {a b : Option Node} (h : NodeChange w r a b) (hw : ¬ w)
    (hr : ¬ r) : Node.bytes? b = Node.bytes? a := by
  cases h with
  | same => rfl
  | made => rfl
  | written bytes h _ => exact absurd h hw
  | removed b h _ => exact absurd h hr

namespace Tree

/-- The bytes of the regular file at a place, if there is one. -/
def file? (t : Tree) (p : Path) : Option ByteArray := Node.bytes? (t.node? p)

theorem file?_eq_some {t : Tree} {p : Path} {bytes : ByteArray} :
    t.file? p = some bytes ↔ t.node? p = some (.file bytes) := by
  unfold file? Node.bytes?
  split <;> simp_all

/-- Whatever lies in the tree lies at a place. -/
def IsProper (t : Tree) : Prop := ∀ p, t.node? p ≠ none → Path.IsPlace p

theorem isProper_of_entries {t : Tree} (h : ∀ x ∈ t.entries, x.1.IsPlace) : t.IsProper := by
  intro p hp
  by_cases he : p = []
  · rw [he]
    exact fun n hn => absurd hn List.not_mem_nil
  · rw [node?, if_neg he] at hp
    obtain ⟨n, hn⟩ := Option.ne_none_iff_exists'.1 hp
    exact h _ (mem_of_lookup hn)

/-- The step from one tree to another writes no file but those in `W`, and removes none but those
in `R`. -/
structure Changes (W R : Path → Prop) (t t' : Tree) : Prop where
  node : ∀ p, NodeChange (W p) (R p) (t.node? p) (t'.node? p)
  place : ∀ p, t.node? p = none → t'.node? p ≠ none → Path.IsPlace p

def nowhere : Path → Prop := fun _ => False

namespace Changes

variable {W R W' R' : Path → Prop} {t t' t'' : Tree}

theorem refl (t : Tree) : Changes W R t t where
  node _ := .same _
  place _ h h' := absurd h h'

theorem trans (h : Changes W R t t') (h' : Changes W R t' t'') : Changes W R t t'' where
  node p := (h.node p).trans (h'.node p)
  place p hn hs := by
    by_cases he : t'.node? p = none
    · exact h'.place p he hs
    · exact h.place p hn he

theorem mono (h : Changes W R t t') (hW : ∀ p, W p → W' p) (hR : ∀ p, R p → R' p) :
    Changes W' R' t t' where
  node p := (h.node p).mono (hW p) (hR p)
  place := h.place

theorem proper (h : Changes W R t t') (ht : t.IsProper) : t'.IsProper := by
  intro p hp
  by_cases hn : t.node? p = none
  · exact h.place p hn hp
  · exact ht p hn

theorem directory (h : Changes W R t t') {p : Path} (hd : t.node? p = some .directory) :
    t'.node? p = some .directory := by
  have hc := h.node p
  rw [hd] at hc
  exact hc.directory

/-- What is neither written nor removed keeps its bytes, and no file comes into being there. -/
theorem file? (h : Changes W R t t') {p : Path} (hw : ¬ W p) (hr : ¬ R p) :
    t'.file? p = t.file? p := (h.node p).bytes? hw hr

theorem node_some (h : Changes W R t t') {p : Path} (hw : ¬ W p) (hr : ¬ R p) {n : Node}
    (hn : t.node? p = some n) : t'.node? p = some n := by
  have hc := h.node p
  rw [hn] at hc
  exact hc.keep hw hr

/-- A file that is not removed stays a file. -/
theorem isFile (h : Changes W R t t') {p : Path} (hr : ¬ R p) {bytes : ByteArray}
    (hn : t.node? p = some (.file bytes)) : ∃ bytes', t'.node? p = some (.file bytes') := by
  have hc := h.node p
  rw [hn] at hc
  exact hc.isFile hr

theorem walk (h : Changes W R t t') {here p q : Path} (hw : t.walk here p = .ok q) :
    t'.walk here p = .ok q := by
  induction p generalizing here with
  | nil => exact hw
  | cons n p ih =>
    rw [Tree.walk] at hw ⊢
    split at hw
    · cases hw
    · cases hw
    · next hd =>
      rw [h.directory hd]
      simp only
      split at hw
      · next e => rw [if_pos e]; exact ih hw
      · next e =>
        rw [if_neg e]
        split at hw
        · next e => rw [if_pos e]; exact ih hw
        · next e =>
          rw [if_neg e]
          split at hw
          · cases hw
          · next e => rw [if_neg e]; exact ih hw

theorem follow (h : Changes W R t t') {p q : Path} (hf : t.follow p = .ok q) :
    t'.follow p = .ok q := by
  unfold Tree.follow at hf ⊢
  split at hf
  · cases hf
  · split at hf
    · cases hf
    · next e => rw [if_neg e]; exact h.walk hf

/-- A path that leads to a place goes on leading there. -/
theorem find (h : Changes W R t t') {p q : Path} {n : Option Node} (hf : t.find p = .ok (q, n)) :
    t'.find p = .ok (q, t'.node? q) := by
  unfold Tree.find at hf ⊢
  split at hf
  · next hq =>
    cases hf
    rw [h.follow hq]
  · cases hf

end Changes

/-! ### Where a path leads -/

theorem walk_eq {t : Tree} {here p q : Path} (h : t.walk here p = .ok q) :
    q = p.foldl Path.enter here := by
  induction p generalizing here with
  | nil =>
    cases h
    rfl
  | cons n p ih =>
    rw [walk] at h
    rw [List.foldl_cons, Path.enter]
    split at h
    · cases h
    · cases h
    · split at h
      · next e => rw [if_pos e]; exact ih h
      · next e =>
        rw [if_neg e]
        split at h
        · next e => rw [if_pos e]; exact ih h
        · next e =>
          rw [if_neg e]
          split at h
          · cases h
          · exact ih h

/-- What lies on the way to something is a directory. -/
theorem node?_of_walk {t : Tree} {here p q r : Path} (hp : p.IsPlace) (hq : q ≠ [])
    (h : t.walk here (p ++ q) = .ok r) : t.node? (here ++ p) = some .directory := by
  induction p generalizing here with
  | nil =>
    cases q with
    | nil => exact absurd rfl hq
    | cons n q =>
      rw [List.nil_append, walk] at h
      rw [List.append_nil]
      split at h
      · cases h
      · cases h
      · next hd => exact hd
  | cons n p ih =>
    have hn := hp n List.mem_cons_self
    rw [List.cons_append, walk] at h
    split at h
    · cases h
    · cases h
    · rw [if_neg hn.2, if_neg hn.1.1] at h
      split at h
      · cases h
      · have hd := ih (fun m hm => hp m (List.mem_cons_of_mem _ hm)) h
        rwa [List.append_assoc, List.singleton_append] at hd

theorem follow_eq {t : Tree} {p q : Path} (h : t.follow p = .ok q) : q = p.resolve := by
  unfold follow at h
  split at h
  · cases h
  · split at h
    · cases h
    · exact walk_eq h

theorem find_eq {t : Tree} {p q : Path} {n : Option Node} (h : t.find p = .ok (q, n)) :
    q = p.resolve ∧ n = t.node? p.resolve := by
  unfold find at h
  split at h
  · next hq =>
    cases h
    obtain rfl := follow_eq hq
    exact ⟨rfl, rfl⟩
  · cases h

theorem node?_of_find {t : Tree} {p q : Path} {n : Option Node} (h : t.find p = .ok (q, n)) :
    t.node? q = n := by
  obtain ⟨rfl, rfl⟩ := find_eq h
  rfl

/-- What is found stays where it is unless it is written or removed. -/
theorem Changes.find_some {t t' : Tree} {W R : Path → Prop} (h : Changes W R t t') {p q : Path}
    {n : Node} (hf : t.find p = .ok (q, some n)) (hw : ¬ W q) (hr : ¬ R q) :
    t'.find p = .ok (q, some n) := by
  rw [h.find hf, h.node_some hw hr (node?_of_find hf)]

theorem exists?_of_find {t : Tree} {p q : Path} {n : Option Node} (h : t.find p = .ok (q, n)) :
    t.exists? p = .ok n.isSome := by
  unfold exists?
  rw [h]

theorem file?_of_find {t : Tree} {p q : Path} {bytes : ByteArray}
    (h : t.find p = .ok (q, some (.file bytes))) : t.file? q = some bytes :=
  file?_eq_some.2 (node?_of_find h)

theorem find_of_file? {t : Tree} {p q : Path} {n : Option Node} (h : t.find p = .ok (q, n))
    {bytes : ByteArray} (hfile : t.file? q = some bytes) :
    t.find p = .ok (q, some (.file bytes)) := by
  rw [h, ← node?_of_find h, file?_eq_some.1 hfile]

theorem read_eq_ok {t : Tree} {p : Path} {bytes : ByteArray} :
    t.read p = .ok bytes ↔ t.find p = .ok (p.resolve, some (.file bytes)) := by
  unfold read
  constructor
  · intro h
    split at h
    · cases h
    · cases h
    · cases h
    · next hf =>
      cases h
      rw [hf, (find_eq hf).1]
  · intro h
    rw [h]

theorem node?_of_read {t : Tree} {p : Path} {bytes : ByteArray} (h : t.read p = .ok bytes) :
    t.node? p.resolve = some (.file bytes) := node?_of_find (read_eq_ok.1 h)

/-! ### What operations change -/

variable {W R : Path → Prop} {t t' : Tree}

theorem node?_nil (t : Tree) : t.node? [] = some .directory := by
  simp [node?]

theorem put_file_changes {q : Path} (hq : Path.IsPlace q) (hd : t.node? q ≠ some .directory)
    (bytes : ByteArray) : Changes (· = q) R t (t.put q (.file bytes)) := by
  have hne : q ≠ [] := by
    rintro rfl
    exact hd t.node?_nil
  constructor
  · intro p
    rw [node?_put hne]
    split
    · next e => exact .written bytes e (e ▸ hd)
    · exact .same _
  · intro p hn hs
    rw [node?_put hne] at hs
    split at hs
    · next e => exact e ▸ hq
    · exact absurd hn hs

theorem put_directory_changes {q : Path} (hq : Path.IsPlace q) (hn : t.node? q = none) :
    Changes W R t (t.put q .directory) := by
  have hne : q ≠ [] := by
    rintro rfl
    rw [node?_nil] at hn
    cases hn
  constructor
  · intro p
    rw [node?_put hne]
    split
    · next e =>
      rw [e, hn]
      exact .made
    · exact .same _
  · intro p hn' hs
    rw [node?_put hne] at hs
    split at hs
    · next e => exact e ▸ hq
    · exact absurd hn' hs

theorem drop_changes {q : Path} (hd : t.node? q ≠ some .directory) :
    Changes W (· = q) t (t.drop q) := by
  have hne : q ≠ [] := by
    rintro rfl
    exact hd t.node?_nil
  constructor
  · intro p
    rw [node?_drop hne]
    split
    · next e => exact .removed _ e (e ▸ hd)
    · exact .same _
  · intro p hn hs
    rw [node?_drop hne] at hs
    split at hs
    · exact absurd rfl hs
    · exact absurd hn hs

/-- Writing puts the bytes where the path leads, and changes nothing else. -/
theorem write_eq_ok {p : Path} {bytes : ByteArray} (h : t.write p bytes = .ok t') :
    t' = t.put p.resolve (.file bytes) ∧ t.node? p.resolve ≠ some .directory ∧
      t.find p = .ok (p.resolve, t.node? p.resolve) := by
  unfold write at h
  split at h
  · cases h
  · cases h
  · next q n hd hf =>
    cases h
    obtain ⟨rfl, rfl⟩ := find_eq hf
    exact ⟨rfl, hd, hf⟩

theorem write_changes {p : Path} (hp : p.IsLegible) {bytes : ByteArray}
    (h : t.write p bytes = .ok t') : Changes (· = p.resolve) R t t' := by
  obtain ⟨rfl, hd, -⟩ := write_eq_ok h
  exact put_file_changes hp.resolve hd bytes

theorem find_of_write {p : Path} (hp : p.IsLegible) {bytes : ByteArray}
    (h : t.write p bytes = .ok t') : t'.find p = .ok (p.resolve, some (.file bytes)) := by
  have hc := write_changes (R := nowhere) hp h
  obtain ⟨rfl, hd, hf⟩ := write_eq_ok h
  rw [hc.find hf, node?_put (by rintro e; exact hd (e ▸ t.node?_nil)), if_pos rfl]

/-- What is there and is no directory can be written. -/
theorem write_of_find {p q : Path} {n : Option Node} (hf : t.find p = .ok (q, n))
    (hn : n ≠ some .directory) (bytes : ByteArray) :
    t.write p bytes = .ok (t.put q (.file bytes)) := by
  unfold write
  rw [hf]
  split
  · next h => cases h
  · next h =>
    cases h
    exact absurd rfl hn
  · next h =>
    cases h
    rfl

theorem remove_changes {p : Path} (h : t.remove p = .ok t') : Changes W (· = p.resolve) t t' := by
  unfold remove at h
  split at h
  · cases h
  · cases h
  · cases h
  · next q bytes hf =>
    cases h
    obtain ⟨rfl, hn⟩ := find_eq hf
    refine drop_changes ?_
    rw [← hn]
    simp

theorem makeDirectory_changes {p : Path} (hp : p.IsLegible) (h : t.makeDirectory p = .ok t') :
    Changes W R t t' := by
  unfold makeDirectory at h
  split at h
  · cases h
  · cases h
  · next q hf =>
    cases h
    obtain ⟨rfl, hn⟩ := find_eq hf
    exact put_directory_changes hp.resolve hn.symm

theorem ensureDirectoryFrom_changes (fuel : Nat) (t : Tree) {p : Path} (hp : p.IsLegible) :
    Changes W R t (t.ensureDirectoryFrom fuel p).2 := by
  induction fuel generalizing p with
  | zero =>
    unfold ensureDirectoryFrom
    split
    · next h => exact makeDirectory_changes hp h
    · split
      · exact .refl t
      · split <;> exact .refl t
  | succ fuel ih =>
    unfold ensureDirectoryFrom
    split
    · next h => exact makeDirectory_changes hp h
    · split
      · simp only
        split
        · exact .refl t
        · have hup := ih hp.dropLast
          split
          · next h =>
            rw [h] at hup
            exact hup
          · next h =>
            rw [h] at hup
            split
            · next hm => exact hup.trans (makeDirectory_changes hp hm)
            · split <;> exact hup
      · split <;> exact .refl t

/-- Making directories changes no file. -/
theorem ensureDirectory_changes (t : Tree) {p : Path} (hp : p.IsLegible) :
    Changes W R t (t.ensureDirectory p).2 :=
  ensureDirectoryFrom_changes (p.length + 1) t hp

end Tree

end Restyle
