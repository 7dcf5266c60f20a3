import Restyle.Text.Case

/-!
Finding one text in another. A test looks at the character before a place and at the text from the
place on; `firstHit` gives the first place where it holds, `hits` all places that do not overlap.
-/
namespace Restyle.Text

/-- The rest of the text after `p`, if each character of `p` is the `same` as that of the text. -/
def afterBy? (same : Char → Char → Bool) : List Char → List Char → Option (List Char)
  | [], s => some s
  | _ :: _, [] => none
  | p :: ps, c :: cs => if same p c then afterBy? same ps cs else none

/-- The rest of the text after `p`, if it starts with `p`. -/
def after? (p s : List Char) : Option (List Char) := afterBy? (· == ·) p s

/-- The rest of the text after `p` when case does not count. -/
def afterFold? (p s : List Char) : Option (List Char) := afterBy? sameLetter p s

/-- The first place, counted from `n`, where `test` holds, with what it found there. -/
def firstHit {α : Type} (test : Option Char → List Char → Option α) (prev : Option Char) (n : Nat) :
    List Char → Option (Nat × α)
  | [] => (test prev []).map fun a => (n, a)
  | c :: rest =>
    match test prev (c :: rest) with
    | some a => some (n, a)
    | none => firstHit test (some c) (n + 1) rest

/-- What `test` finds at places that do not overlap, from left to right. With a find comes the
number of characters it takes; the next place looked at lies behind them, `skip` characters on. -/
def hits {α : Type} (test : Option Char → List Char → Option (α × Nat)) (prev : Option Char)
    (skip : Nat) : List Char → List α
  | [] => []
  | c :: rest =>
    match skip with
    | k + 1 => hits test (some c) k rest
    | 0 =>
      match test prev (c :: rest) with
      | some (a, n) => a :: hits test (some c) (n - 1) rest
      | none => hits test (some c) 0 rest

/-- Where `p` first occurs in `s`. -/
def indexOf? (p s : List Char) : Option Nat :=
  (firstHit (fun _ t => after? p t) none 0 s).map (·.1)

def occursIn (p s : List Char) : Bool := (indexOf? p s).isSome

/-- Whether `p` occurs in `s` when case does not count. -/
def occursFold (p s : List Char) : Bool :=
  (firstHit (fun _ t => afterFold? p t) none 0 s).isSome

/-- The pieces between occurrences of `sep`, from left to right; `piece` is what has been read of the
first one, in reverse, and `skip` counts what is left of an occurrence. -/
def piecesFrom (sep : List Char) (piece : List Char) (skip : Nat) : List Char → List (List Char)
  | [] => [piece.reverse]
  | c :: rest =>
    match skip with
    | k + 1 => piecesFrom sep piece k rest
    | 0 =>
      if sep.isPrefixOf (c :: rest) then piece.reverse :: piecesFrom sep [] (sep.length - 1) rest
      else piecesFrom sep (c :: piece) 0 rest

def pieces (sep s : List Char) : List (List Char) := piecesFrom sep [] 0 s

def countOf (sep s : List Char) : Nat := (pieces sep s).length - 1

/-- What stands before and behind the `n`-th occurrence of `sep`, or the last if there are fewer. -/
def cutAt (sep : List Char) (n : Nat) (s : List Char) : List Char × List Char :=
  let ps := pieces sep s
  let n := min n (ps.length - 1)
  (sep.intercalate (ps.take n), sep.intercalate (ps.drop n))

theorem piecesFrom_ne_nil (sep piece : List Char) (skip : Nat) (s : List Char) :
    piecesFrom sep piece skip s ≠ [] := by
  induction s generalizing piece skip with
  | nil => simp [piecesFrom]
  | cons c s ih =>
    cases skip with
    | succ k => simpa [piecesFrom] using ih piece k
    | zero =>
      simp only [piecesFrom]
      split
      · simp
      · exact ih _ _

/-- The lines of a text; a last line without a line feed counts, also when it is empty. -/
def lines (s : List Char) : List (List Char) := s.splitOn '\n'

def unlines (ls : List (List Char)) : List Char := ['\n'].intercalate ls

theorem unlines_lines (s : List Char) : unlines (lines s) = s :=
  List.intercalate_splitOn '\n'

theorem after?_eq_some {p s r : List Char} : after? p s = some r ↔ s = p ++ r := by
  unfold after?
  induction p generalizing s with
  | nil => simp [afterBy?]
  | cons a p ih => cases s with
    | nil => simp [afterBy?]
    | cons c s =>
      by_cases h : a = c
      · subst h
        simp [afterBy?, ih]
      · have h' : ¬c = a := fun e => h e.symm
        simp [afterBy?, h, h']

theorem length_of_afterBy? {same : Char → Char → Bool} {p s r : List Char}
    (h : afterBy? same p s = some r) : s.length = p.length + r.length := by
  induction p generalizing s with
  | nil => simp_all [afterBy?]
  | cons a p ih => cases s with
    | nil => simp [afterBy?] at h
    | cons c s =>
      simp only [afterBy?] at h
      split at h
      · have := ih h
        simp only [List.length_cons]
        omega
      · simp at h

theorem firstHit_ge {α : Type} {test : Option Char → List Char → Option α} {prev : Option Char}
    {n m : Nat} {s : List Char} {a : α} (h : firstHit test prev n s = some (m, a)) : n ≤ m := by
  induction s generalizing prev n with
  | nil =>
    simp only [firstHit, Option.map_eq_some_iff] at h
    obtain ⟨_, _, he⟩ := h
    injection he with h1 _
    omega
  | cons c s ih =>
    simp only [firstHit] at h
    split at h
    · simp only [Option.some.injEq, Prod.mk.injEq] at h
      omega
    · have := ih h
      omega

end Restyle.Text
