import Mathlib.Algebra.GroupWithZero.Nat
import Mathlib.Algebra.Order.BigOperators.Group.List
import Mathlib.Algebra.Order.Group.Nat
import Mathlib.Data.List.Perm.Subperm
import Restyle.Proofs.ReadValue
import Restyle.Proofs.StyleMerge

/-!
Style objects that are read back. Values are in quotes with every quote in them escaped, so they are
read as they were written. Names in quotes are not escaped: an object shows its entries just if no
name has a single quote in it, and no word has a line feed behind it.
-/
namespace Restyle.Style

open Text

/-! ### Names and values as they are written -/

/-- Whether a name can be told from what else is written: it has no single quote in it, and if it
is written without quotes it does not end in a line feed. -/
def IsTellable (name : List Char) : Prop :=
  '\'' ∉ name ∧ (isIdentifier name = true → name.getLast? ≠ some '\n')

instance (name : List Char) : Decidable (IsTellable name) := inferInstanceAs (Decidable (_ ∧ _))

theorem between_escaped (value : List Char) : Between '\'' (value.flatMap escapeQuoted) := by
  induction value with
  | nil => exact .nil
  | cons c value ih =>
    rw [List.flatMap_cons]
    unfold escapeQuoted
    split
    · next h =>
      refine .escaped ?_ ih
      rintro rfl
      exact absurd h (by decide)
    · next h =>
      simp only [Bool.or_eq_true, beq_iff_eq, not_or] at h
      exact .plain h.2 h.1 ih

theorem isText_writeValue (value : List Char) : IsText (writeValue value) :=
  .quoted (.inl rfl) (between_escaped value)

theorem ne_feed_of_part {w : List Char} (h : w.all isIdentifierPart = true) :
    w.getLast? ≠ some '\n' := by
  intro hlast
  have hpart := List.all_eq_true.1 h '\n' (List.mem_of_getLast? hlast)
  exact absurd hpart (by decide)

/-- Without a line feed behind it a name that is written without quotes is a word. -/
theorem exists_word_of_isIdentifier {name : List Char} (h : isIdentifier name = true)
    (hlast : name.getLast? ≠ some '\n') :
    ∃ c w, name = c :: w ∧ startsIdentifier c = true ∧ w.all isIdentifierPart = true := by
  cases name with
  | nil => cases h
  | cons c w =>
    rw [isIdentifier, Bool.and_eq_true] at h
    obtain ⟨first, hrest⟩ := h
    refine ⟨c, w, rfl, first, ?_⟩
    rwa [if_neg] at hrest
    intro hfeed
    cases w with
    | nil => cases hfeed
    | cons d w => exact hlast (by rwa [List.getLast?_cons_cons])

/-- A name that is read without quotes is one that is written so, but for a line feed behind it. -/
theorem reads_self_iff {name : List Char} :
    ReadsName name name ↔ isIdentifier name = true ∧ name.getLast? ≠ some '\n' := by
  constructor
  · intro h
    obtain ⟨text, htext, h⟩ : ∃ text, text = name ∧ ReadsName text name := ⟨_, rfl, h⟩
    cases h with
    | @word c w first rest =>
      have hall : (c :: w).all isIdentifierPart = true := by
        rw [List.all_cons, isIdentifierPart_of_starts first, rest]
        rfl
      refine ⟨?_, ne_feed_of_part hall⟩
      rw [isIdentifier, if_neg (ne_feed_of_part rest), first, rest]
      rfl
    | quoted quote once =>
      have hlength := congrArg List.length htext
      simp only [List.cons_append, List.length_cons, List.length_append, List.length_nil] at hlength
      omega
  · rintro ⟨hname, hlast⟩
    obtain ⟨c, w, rfl, first, rest⟩ := exists_word_of_isIdentifier hname hlast
    exact .word first rest

/-- A name that can be told is read from what is written of it. -/
theorem IsTellable.reads {name : List Char} (h : IsTellable name) :
    ReadsName (writeName name) name := by
  unfold writeName
  split
  · next hname => exact reads_self_iff.2 ⟨hname, h.2 hname⟩
  · exact .quoted (.inl rfl) h.1

/-! ### What is written is found -/

/-- An entry that is written is read, and the reader goes on behind it. -/
theorem entryAt_written {text k v b y r : List Char} (hname : ReadsName text k) (hv : IsText v)
    (hb : IsBlank b) (hy : IsEnd y r) :
    entryAt (text ++ ':' :: ' ' :: (v ++ (b ++ y))) =
      some ((k, v), (text ++ ':' :: ' ' :: (v ++ (b ++ y))).length - r.length) := by
  have hcolon : ∀ c, (':' :: ' ' :: (v ++ (b ++ y))).head? = some c →
      isIdentifierPart c = false := by
    intro c hc
    obtain rfl := Option.some.inj hc
    decide
  have hskip : skipBlanks (' ' :: (v ++ (b ++ y))) = v ++ (b ++ y) := by
    refine skipBlanks_of_head (s := v ++ (b ++ y)) fun c hc => ?_
    cases hv with
    | quoted quote between =>
      obtain rfl := Option.some.inj hc
      exact isBlank_eq_false_of_quote (isQuote_of_or quote)
    | accents once =>
      obtain rfl := Option.some.inj hc
      decide
  have hvalue : valueAfterColon (' ' :: (v ++ (b ++ y))) = some (v, r) := by
    rw [valueAfterColon, hskip, valueAt, textAt_eq_some_iff.2 ⟨hv, rfl⟩]
    simp only [entryEnd?_of_isEnd hb hy]
  have hstop : skipBlanks (':' :: ' ' :: (v ++ (b ++ y))) = ':' :: ' ' :: (v ++ (b ++ y)) := rfl
  simp only [entryAt, nameAt_append hname hcolon, hstop, hvalue, hv.trim_eq]

theorem ReadsName.ne_nil {text k : List Char} (h : ReadsName text k) : text ≠ [] := by
  cases h <;> simp

theorem found_written {text k v b y r : List Char} (hname : ReadsName text k) (hv : IsText v)
    (hb : IsBlank b) (hy : IsEnd y r) :
    found (text ++ ':' :: ' ' :: (v ++ (b ++ y))) = (k, v) :: found r := by
  obtain ⟨p, rfl⟩ : ∃ p, y = p ++ r := by
    rcases hy with ⟨rfl, rfl⟩ | rfl
    · exact ⟨[], rfl⟩
    · exact ⟨[','], rfl⟩
  have hentry := entryAt_written hname hv hb hy
  have hsplit : text ++ ':' :: ' ' :: (v ++ (b ++ (p ++ r))) =
      (text ++ ':' :: ' ' :: (v ++ (b ++ p))) ++ r := by
    simp
  rw [hsplit, List.length_append, Nat.add_sub_cancel] at hentry
  rw [hsplit]
  exact found_of_entryAt (by simp) hentry

theorem isBlank_space : IsBlank [' '] := by
  intro c hc
  rw [List.mem_singleton.1 hc]
  decide

theorem writeBody_cons (e e' : List Char × List Char) (es : Entries) :
    writeBody (e :: e' :: es) =
      writeName e.1 ++ ':' :: ' ' :: (e.2 ++ ',' :: ' ' :: writeBody (e' :: es)) := by
  simp [writeBody, List.intercalate_cons_cons]

/-- What stands between the braces of an object. -/
def objectBody (es : Entries) : List Char := ' ' :: (writeBody es ++ [' '])

theorem writeObject_eq (es : Entries) :
    writeObject es = "\x7b\x7b".toList ++ (objectBody es ++ "\x7d\x7d".toList) := by
  simp [writeObject, objectBody]

/-- Entries whose names and values are read as they are written are found in the body. -/
theorem found_writeBody {es : Entries} (h : ∀ e ∈ es, ReadsName (writeName e.1) e.1 ∧ IsText e.2) :
    found (writeBody es ++ [' ']) = es := by
  induction es with
  | nil => rfl
  | cons e es ih =>
    obtain ⟨hname, hv⟩ := h e List.mem_cons_self
    cases es with
    | nil =>
      have hbody : writeBody [e] ++ [' '] =
          writeName e.1 ++ ':' :: ' ' :: (e.2 ++ ([' '] ++ [])) := by
        simp [writeBody]
      rw [hbody, found_written hname hv isBlank_space (.inl ⟨rfl, rfl⟩)]
      rfl
    | cons e' es =>
      have hbody : writeBody (e :: e' :: es) ++ [' '] = writeName e.1 ++
          ':' :: ' ' :: (e.2 ++ ([] ++ ',' :: ([' '] ++ (writeBody (e' :: es) ++ [' '])))) := by
        simp [writeBody_cons]
      rw [hbody, found_written hname hv (fun _ h => absurd h List.not_mem_nil) (.inr rfl),
        found_of_isBlank isBlank_space, ih fun x hx => h x (List.mem_cons_of_mem _ hx)]

/-- So an object of them is read back. -/
theorem readEntries_written {es : Entries} (hes : (es.map (·.1)).Nodup)
    (h : ∀ e ∈ es, ReadsName (writeName e.1) e.1 ∧ IsText e.2) :
    readEntries (objectBody es) = es := by
  have hfound : found (objectBody es) = es :=
    (found_of_isBlank isBlank_space _).trans (found_writeBody h)
  have hread : readEntries (objectBody es) = ofPairs (found (objectBody es)) := rfl
  rw [hread, hfound, ofPairs_of_nodup hes]

/-! ### What the reader takes -/

theorem entryEnd?_split {s r : List Char} (h : entryEnd? s = some r) : ∃ after, s = after ++ r := by
  have hs : s.takeWhile isBlank ++ skipBlanks s = s := List.takeWhile_append_dropWhile
  rw [entryEnd?] at h
  split at h
  · next hskip =>
    obtain rfl := Option.some.inj h
    exact ⟨s, (List.append_nil s).symm⟩
  · next hskip =>
    obtain rfl := Option.some.inj h
    refine ⟨s.takeWhile isBlank ++ [','], ?_⟩
    rw [List.append_assoc, List.singleton_append, ← hskip, hs]
  · cases h

theorem plainValue_split {s v r : List Char} (h : plainValue s = some (v, r)) :
    ∃ after, s = v ++ (after ++ r) := by
  induction s generalizing v r with
  | nil => cases h
  | cons c s ih =>
    rw [plainValue] at h
    split at h
    · cases h
    · split at h
      · next hend =>
        obtain ⟨rfl, rfl⟩ := Prod.mk.inj (Option.some.inj h)
        obtain ⟨after, rfl⟩ := entryEnd?_split hend
        exact ⟨after, rfl⟩
      · obtain ⟨⟨v', r'⟩, hv, he⟩ := Option.map_eq_some_iff.1 h
        obtain ⟨rfl, rfl⟩ := Prod.mk.inj he
        obtain ⟨after, rfl⟩ := ih hv
        exact ⟨after, rfl⟩

theorem valueAt_split {s v r : List Char} (h : valueAt s = some (v, r)) :
    ∃ after, s = v ++ (after ++ r) := by
  rw [valueAt] at h
  split at h
  · next t rest ht =>
    split at h
    · next hend =>
      obtain ⟨rfl, rfl⟩ := Prod.mk.inj (Option.some.inj h)
      obtain ⟨-, rfl⟩ := textAt_eq_some_iff.1 ht
      obtain ⟨after, rfl⟩ := entryEnd?_split hend
      exact ⟨after, rfl⟩
    · exact plainValue_split h
  · exact plainValue_split h

theorem valueAfterColon_split {s v r : List Char} (h : valueAfterColon s = some (v, r)) :
    ∃ before after, s = before ++ (v ++ (after ++ r)) := by
  have hs : s.takeWhile isBlank ++ skipBlanks s = s := List.takeWhile_append_dropWhile
  rw [valueAfterColon] at h
  split at h
  · next found hv =>
    obtain rfl := Option.some.inj h
    obtain ⟨after, hafter⟩ := valueAt_split hv
    exact ⟨_, after, by rw [← hafter, hs]⟩
  · split at h
    · next b hb =>
      obtain ⟨r', hend, he⟩ := Option.map_eq_some_iff.1 h
      obtain ⟨rfl, rfl⟩ := Prod.mk.inj he
      obtain ⟨after, hafter⟩ := entryEnd?_split hend
      obtain ⟨before, hbefore⟩ := List.getLast?_eq_some_iff.1 hb
      exact ⟨before, after, by rw [← hafter, ← List.append_assoc, ← hbefore, hs]⟩
    · cases h

theorem nameAt_split {s name r : List Char} (h : nameAt s = some (name, r)) :
    ∃ text, ReadsName text name ∧ s = text ++ r := by
  unfold nameAt at h
  split at h
  · cases h
  · next c rest =>
    split at h
    · next first =>
      rw [List.span_eq_takeWhile_dropWhile] at h
      obtain ⟨rfl, rfl⟩ := Prod.mk.inj (Option.some.inj h)
      refine ⟨_, .word first List.all_takeWhile, ?_⟩
      rw [List.cons_append, List.takeWhile_append_dropWhile]
    · split at h
      · next hquote =>
        obtain ⟨once, rfl⟩ := untilQuote_eq_some h
        exact ⟨_, .quoted (by simpa using hquote) once, by simp⟩
      · cases h

/-- The reader takes the text of a name, and behind it that of the value. -/
theorem entryAt_split {s : List Char} {e : List Char × List Char} {n : Nat}
    (h : entryAt s = some (e, n)) : ∃ text between value after,
      ReadsName text e.1 ∧ trim value = e.2 ∧
      s.take n = text ++ (between ++ (value ++ after)) := by
  unfold entryAt at h
  split at h
  · cases h
  · next name rest hname =>
    obtain ⟨text, hreads, rfl⟩ := nameAt_split hname
    split at h
    · next rest' hcolon =>
      split at h
      · next value r hvalue =>
        obtain ⟨rfl, rfl⟩ := Prod.mk.inj (Option.some.inj h)
        obtain ⟨before, after, rfl⟩ := valueAfterColon_split hvalue
        have hrest : rest =
            rest.takeWhile isBlank ++ ':' :: (before ++ (value ++ (after ++ r))) := by
          rw [← hcolon]
          exact List.takeWhile_append_dropWhile.symm
        refine ⟨text, rest.takeWhile isBlank ++ ':' :: before, value, after, hreads, rfl, ?_⟩
        have hsplit : text ++ rest = (text ++ ((rest.takeWhile isBlank ++ ':' :: before) ++
            (value ++ after))) ++ r := by
          conv => lhs; rw [hrest]
          simp
        rw [hsplit, List.length_append, Nat.add_sub_cancel, List.take_left]
      · cases h
    · cases h

/-! ### Counting -/

variable {p : Char → Bool}

/-- What is found costs no more than the text has of what it is paid with, if each find costs no
more than what it takes has. -/
theorem sum_hits_le {α : Type} {test : Option Char → List Char → Option (α × Nat)}
    {cost : α → Nat}
    (h : ∀ prev s a n, test prev s = some (a, n) → cost a ≤ (s.take n).countP p)
    (prev : Option Char) (skip : Nat) (s : List Char) :
    ((hits test prev skip s).map cost).sum ≤ (s.drop skip).countP p := by
  induction s generalizing prev skip with
  | nil => simp [hits]
  | cons c s ih =>
    cases skip with
    | succ k => exact ih (some c) k
    | zero =>
      rw [hits, List.drop_zero]
      split
      · next a n hn =>
        have hcost := h prev (c :: s) a n hn
        have hrest := ih (some c) (n - 1)
        have hsplit : (c :: s).countP p =
            ((c :: s).take n).countP p + ((c :: s).drop n).countP p := by
          rw [← List.countP_append, List.take_append_drop]
        have hdrop : (s.drop (n - 1)).countP p ≤ ((c :: s).drop n).countP p := by
          cases n with
          | zero => exact (List.sublist_cons_self c s).countP_le
          | succ n => exact Nat.le_refl _
        rw [List.map_cons, List.sum_cons]
        omega
      · have hrest := ih (some c) 0
        rw [List.drop_zero] at hrest
        exact hrest.trans (List.sublist_cons_self c s).countP_le

/-- What an entry costs that is found: what its text has, whichever text its name was read from. -/
theorem sum_found_le {cost : List Char → Nat}
    (h : ∀ text k, ReadsName text k → cost k ≤ text.countP p) (body : List Char) :
    ((found body).map fun e => cost e.1 + e.2.countP p).sum ≤ body.countP p := by
  refine sum_hits_le (fun prev s e n hn => ?_) none 0 body
  obtain ⟨text, between, value, after, hreads, htrim, htake⟩ := entryAt_split hn
  have hname := h text e.1 hreads
  have hvalue : e.2.countP p ≤ value.countP p := by
    rw [← htrim]
    exact (trim_sublist value).countP_le
  rw [htake, List.countP_append, List.countP_append, List.countP_append]
  omega

/-- What is written of entries has what their names and values have, apart from what stands between
them. -/
theorem countP_objectBody (hcolon : p ':' = false) (hspace : p ' ' = false)
    (hcomma : p ',' = false) (es : Entries) : (objectBody es).countP p =
      (es.map fun e => (writeName e.1).countP p + e.2.countP p).sum := by
  have hbody : (writeBody es).countP p =
      (es.map fun e => (writeName e.1).countP p + e.2.countP p).sum := by
    induction es with
    | nil => rfl
    | cons e es ih =>
      cases es with
      | nil => simp [writeBody, hcolon, hspace]
      | cons e' es =>
        rw [writeBody_cons, List.map_cons, List.sum_cons, ← ih]
        simp [hcolon, hspace, hcomma]
        omega
  simp [objectBody, hspace, hbody]

/-- Where an object is read back no name costs more to read than it has when it is written. -/
theorem cost_le_of_read {es : Entries} (hes : (es.map (·.1)).Nodup)
    (hread : readEntries (objectBody es) = es) (cost : List Char → Nat)
    (hcost : ∀ text k, ReadsName text k → cost k ≤ text.countP p)
    (hwritten : ∀ k, (writeName k).countP p ≤ cost k)
    (hcolon : p ':' = false) (hspace : p ' ' = false) (hcomma : p ',' = false) :
    ∀ e ∈ es, cost e.1 ≤ (writeName e.1).countP p := by
  have hsub : es ⊆ found (objectBody es) := by
    intro e he
    rw [← hread] at he
    exact mem_of_mem_ofPairs he
  have hfound := sum_found_le hcost (objectBody es)
  rw [countP_objectBody hcolon hspace hcomma] at hfound
  obtain ⟨es', hperm, hsublist⟩ := hes.of_map.subperm hsub
  have hpart : (es.map fun e => cost e.1 + e.2.countP p).sum ≤
      (es.map fun e => (writeName e.1).countP p + e.2.countP p).sum := by
    rw [← (hperm.map _).sum_eq]
    exact ((hsublist.map _).sum_le_sum fun _ _ => Nat.zero_le _).trans hfound
  by_contra hmore
  push Not at hmore
  obtain ⟨e, he, hlt⟩ := hmore
  refine Nat.not_lt.2 hpart (List.sum_lt_sum _ _ (fun e _ => ?_) ⟨e, he, ?_⟩)
  · have hle := hwritten e.1
    omega
  · omega

/-- A name with a single quote in it is read between double quotes alone, and these are not
written around it. -/
theorem quote_notMem_of_read {es : Entries} (hes : (es.map (·.1)).Nodup)
    (hread : readEntries (objectBody es) = es) : ∀ e ∈ es, '\'' ∉ e.1 := by
  have hwritten (k : List Char) : (writeName k).countP (· == '"') = k.countP (· == '"') := by
    unfold writeName
    split <;> simp
  have hcost : ∀ text k, ReadsName text k →
      (if '\'' ∈ k then 2 else 0) + k.countP (· == '"') ≤ text.countP (· == '"') := by
    intro text k h
    cases h with
    | @word c w first rest =>
      have hnone : '\'' ∉ c :: w := by
        intro hmem
        rcases List.mem_cons.1 hmem with rfl | hmem
        · exact absurd first (by decide)
        · exact absurd (List.all_eq_true.1 rest _ hmem) (by decide)
      rw [if_neg hnone, Nat.zero_add]
    | @quoted q _ quote once =>
      rcases quote with rfl | rfl
      · simp [once]
      · have htext : ('"' :: k ++ ['"']).countP (· == '"') = k.countP (· == '"') + 2 := by simp
        rw [htext]
        split <;> omega
  intro e he hquote
  have hle := cost_le_of_read hes hread (fun k => (if '\'' ∈ k then 2 else 0) +
    k.countP (· == '"')) hcost (fun k => by rw [hwritten]; omega) rfl rfl rfl e he
  simp only [hwritten, hquote, if_true] at hle
  omega

/-- The quotes that may stand around a name. -/
def isNameQuote (c : Char) : Bool := c == '\'' || c == '"'

/-- A name that is no word is read between quotes of some kind alone. -/
theorem feed_of_read {es : Entries} (hes : (es.map (·.1)).Nodup)
    (hread : readEntries (objectBody es) = es) :
    ∀ e ∈ es, isIdentifier e.1 = true → e.1.getLast? ≠ some '\n' := by
  have hquoted {q : Char} (hq : isNameQuote q = true) (k : List Char) :
      (q :: k ++ [q]).countP isNameQuote = 2 + k.countP isNameQuote := by
    simp only [List.cons_append, List.countP_cons_of_pos hq, List.countP_append, List.countP_nil]
    omega
  have hwritten (k : List Char) : (writeName k).countP isNameQuote =
      (if isIdentifier k = true then 0 else 2) + k.countP isNameQuote := by
    unfold writeName
    split
    · rw [Nat.zero_add]
    · exact hquoted rfl k
  have hcost : ∀ text k, ReadsName text k →
      (if isIdentifier k = true ∧ k.getLast? ≠ some '\n' then 0 else 2) +
        k.countP isNameQuote ≤ text.countP isNameQuote := by
    intro text k h
    cases h with
    | word first rest =>
      rw [if_pos (reads_self_iff.1 (.word first rest)), Nat.zero_add]
    | @quoted q _ quote once =>
      have hq : isNameQuote q = true := by simpa [isNameQuote] using quote
      rw [hquoted hq]
      split <;> omega
  have hatLeast (k : List Char) : (writeName k).countP isNameQuote ≤
      (if isIdentifier k = true ∧ k.getLast? ≠ some '\n' then 0 else 2) +
        k.countP isNameQuote := by
    rw [hwritten]
    by_cases hk : isIdentifier k = true
    · rw [if_pos hk]
      omega
    · rw [if_neg hk, if_neg fun h => hk h.1]
  intro e he hname hlast
  have hle := cost_le_of_read hes hread _ hcost hatLeast rfl rfl rfl e he
  rw [hwritten, if_pos hname, if_neg fun h => h.2 hlast] at hle
  omega

/-! ### Requested declarations -/

/-- Requested declarations come to entries with different names, and their values in quotes. -/
theorem entries_of_entriesOf {ds : Declarations} {es : Entries} (h : entriesOf ds = .ok es) :
    (es.map (·.1)).Nodup ∧ ∀ e ∈ es, ∃ value, e.2 = writeValue value := by
  obtain ⟨pairs, hpairs, rfl⟩ := map_eq_ok.1 h
  refine ⟨nodup_ofPairs pairs, fun e he => ?_⟩
  obtain ⟨d, -, hd⟩ := exists_mem_of_forall₂ (mapM_eq_ok.1 hpairs).flip (mem_of_mem_ofPairs he)
  unfold entryOf at hd
  split at hd
  · obtain rfl := Except.ok.inj hd
    exact ⟨_, rfl⟩
  · cases hd

/-- An object of requested declarations is read back, with all names and values and in their order,
if each name can be told, and only then. -/
theorem readEntries_eq_iff {ds : Declarations} {es : Entries} (h : entriesOf ds = .ok es)
    {body : List Char}
    (hbody : writeObject es = "\x7b\x7b".toList ++ (body ++ "\x7d\x7d".toList)) :
    readEntries body = es ↔ ∀ e ∈ es, IsTellable e.1 := by
  obtain ⟨hes, hvalues⟩ := entries_of_entriesOf h
  obtain rfl : objectBody es = body := by
    rw [writeObject_eq] at hbody
    exact List.append_cancel_right (List.append_cancel_left hbody)
  constructor
  · intro hread e he
    exact ⟨quote_notMem_of_read hes hread e he, feed_of_read hes hread e he⟩
  · intro htellable
    refine readEntries_written hes fun e he => ⟨(htellable e he).reads, ?_⟩
    obtain ⟨value, hvalue⟩ := hvalues e he
    exact hvalue ▸ isText_writeValue value

/-- A custom property, a name that needs quotes, one with a backslash and double quotes, and values
with quotes, commas and braces. -/
def hardStyles : Declarations :=
  [(.text "--main-color", .str "it's \\ \"x\", \x7b\x7d"), (.text "font-size", .int 3),
    (.text "a \"b\"\\", .str "', top: '0"), (.text "", .str "\n")]

def hardBody : List Char :=
  " '--main-color': 'it\\'s \\\\ \"x\", \x7b\x7d', fontSize: '3', 'a \"b\"\\': '\\', top: \\'0', '': '\n' ".toList

theorem readEntries_eq_iff_hard : ∃ es, entriesOf hardStyles = .ok es ∧
    writeObject es = "\x7b\x7b".toList ++ (hardBody ++ "\x7d\x7d".toList) ∧ es.length = 4 ∧
    readEntries hardBody = es := by
  have hvalues : (entriesOf hardStyles).toOption.any (fun es =>
      writeObject es == "\x7b\x7b".toList ++ (hardBody ++ "\x7d\x7d".toList) &&
        es.length == 4 && es.all fun e => decide (IsTellable e.1)) = true := by
    decide +kernel
  cases h : entriesOf hardStyles with
  | error f =>
    rw [h] at hvalues
    cases hvalues
  | ok es =>
    rw [h] at hvalues
    simp only [Except.toOption, Option.any_some, Bool.and_eq_true, beq_iff_eq, List.all_eq_true,
      decide_eq_true_eq] at hvalues
    obtain ⟨⟨hbody, hlength⟩, htellable⟩ := hvalues
    exact ⟨es, rfl, hbody, hlength, (readEntries_eq_iff h hbody).2 htellable⟩

/-- A name with single quotes can add an entry and be lost itself, and a line feed behind a word is
lost. -/
theorem readEntries_adds :
    (∃ es, entriesOf [(.text "x': 0, 'top", .str "1px")] = .ok es ∧
      writeObject es = "\x7b\x7b 'x': 0, 'top': '1px' \x7d\x7d".toList ∧
      readEntries " 'x': 0, 'top': '1px' ".toList =
        [("x".toList, "0".toList), ("top".toList, "'1px'".toList)] ∧
      readEntries " 'x': 0, 'top': '1px' ".toList ≠ es) ∧
    ∃ es, entriesOf [(.text "a\n", .str "red")] = .ok es ∧
      writeObject es = "\x7b\x7b a\n: 'red' \x7d\x7d".toList ∧
      readEntries " a\n: 'red' ".toList = [("a".toList, "'red'".toList)] ∧
      readEntries " a\n: 'red' ".toList ≠ es := by
  refine ⟨⟨[("x': 0, 'top".toList, "'1px'".toList)], rfl, ?_⟩, [("a\n".toList, "'red'".toList)],
    rfl, ?_⟩ <;> decide +kernel

end Restyle.Style
