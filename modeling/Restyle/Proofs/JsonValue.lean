import Restyle.Proofs.IntText
import Restyle.Proofs.JsonString
import Restyle.Proofs.Pairs

/-!
Values that are read back from their text, in whatever layout it is written: as they are, but for
halves that follow one another in their texts.
-/
namespace Restyle

namespace Value

open Number Text

/-! ### Layouts -/

def isJsonBlank (c : Char) : Bool := c == ' ' || c == '\t' || c == '\n' || c == '\r'

/-- A layout puts nothing but blanks between the parts and the signs that belong there. -/
structure Layout.IsBlank (l : Layout) : Prop where
  before : ∀ n, ∀ c ∈ l.before n, isJsonBlank c
  between : ∀ n, ∃ bs, l.between n = ',' :: bs ∧ ∀ c ∈ bs, isJsonBlank c
  after : ∀ n, ∀ c ∈ l.after n, isJsonBlank c

theorem Layout.indented_isBlank : Layout.indented.IsBlank := by
  have line (n : Nat) : ∀ c ∈ '\n' :: List.replicate (2 * n) ' ', isJsonBlank c := by
    intro c hc
    rcases List.mem_cons.1 hc with rfl | hc
    · rfl
    · rw [List.eq_of_mem_replicate hc]
      rfl
  exact ⟨fun n => line (n + 1), fun n => ⟨_, rfl, line (n + 1)⟩, line⟩

theorem skipJsonBlanks_append {bs : List Char} (h : ∀ c ∈ bs, isJsonBlank c) (s : List Char) :
    skipJsonBlanks (bs ++ s) = skipJsonBlanks s := by
  induction bs with
  | nil => rfl
  | cons c bs ih =>
    have hc := h c List.mem_cons_self
    unfold isJsonBlank at hc
    have hrest := ih fun c hc => h c (List.mem_cons_of_mem _ hc)
    unfold skipJsonBlanks at hrest ⊢
    rw [List.cons_append, List.dropWhile_cons, if_pos hc, hrest]

theorem skipJsonBlanks_cons {c : Char} (h : isJsonBlank c = false) (s : List Char) :
    skipJsonBlanks (c :: s) = c :: s := by
  unfold isJsonBlank at h
  unfold skipJsonBlanks
  rw [List.dropWhile_cons, if_neg (by simp [h])]

theorem endsNumber_cons {c : Char} (h : isJsonBlank c ∨ c = ',' ∨ c = ']' ∨ c = '\x7d')
    (s : List Char) : EndsNumber (c :: s) := by
  intro d hd
  obtain rfl := Option.some.inj hd
  unfold isJsonBlank at h
  have hc : c = ' ' ∨ c = '\t' ∨ c = '\n' ∨ c = '\r' ∨ c = ',' ∨ c = ']' ∨ c = '\x7d' := by
    simpa [or_assoc] using h
  rcases hc with rfl | rfl | rfl | rfl | rfl | rfl | rfl <;> decide

theorem endsNumber_append {bs : List Char} (h : ∀ c ∈ bs, isJsonBlank c) {s : List Char}
    (hs : EndsNumber s) : EndsNumber (bs ++ s) := by
  cases bs with
  | nil => exact hs
  | cons c bs => exact endsNumber_cons (.inl (h c List.mem_cons_self)) _

/-! ### What is read back -/

mutual

/-- Texts, numbers that are not too long, and lists and tables of such values. -/
def IsReadable : Value → Prop
  | null => True
  | bool _ => True
  | int n => (decimalDigits n.natAbs).length ≤ maxDigits
  | str _ => True
  | list items => AreReadable items
  | tableOf .spread fields => (fields.map (·.1)).Nodup ∧ HaveReadable fields
  | _ => False

def AreReadable : List Value → Prop
  | [] => True
  | v :: rest => IsReadable v ∧ AreReadable rest

def HaveReadable : List (String × Value) → Prop
  | [] => True
  | (k, v) :: rest => IsPaired k.toList ∧ IsReadable v ∧ HaveReadable rest

end

mutual

/-- The value with halves that follow one another in its texts joined. -/
def joined : Value → Value
  | str s => str (Text.joined s)
  | list items => list (joinedItems items)
  | tableOf form fields => tableOf form (joinedFields fields)
  | v => v

def joinedItems : List Value → List Value
  | [] => []
  | v :: rest => joined v :: joinedItems rest

def joinedFields : List (String × Value) → List (String × Value)
  | [] => []
  | (k, v) :: rest => (k, joined v) :: joinedFields rest

end

theorem joined_str {s : String} (h : IsPaired s.toList) : (str s).joined = str s := by
  rw [joined, joined_of_isPaired h]

/-- What is read back of a readable value can itself be written and read. -/
theorem IsReadable.joined {v : Value} (h : v.IsReadable) (hheight : v.height = 0) :
    v.joined.IsReadable ∧ v.joined.height = 0 := by
  cases v with
  | str s => exact ⟨trivial, rfl⟩
  | list items => simp [height] at hheight
  | tableOf form fields => simp [height] at hheight
  | _ => exact ⟨h, hheight⟩

theorem map_fst_joinedFields (fs : List (String × Value)) :
    (joinedFields fs).map (·.1) = fs.map (·.1) := by
  induction fs with
  | nil => rfl
  | cons x fs ih => rw [joinedFields, List.map_cons, List.map_cons, ih]

/-- A written value starts with a sign that nothing skips and that closes nothing. -/
theorem write_cons (l : Layout) (depth : Nat) {v : Value} (h : v.IsReadable) :
    ∃ c cs, write l depth v = c :: cs ∧ isJsonBlank c = false ∧ c ≠ ']' ∧ c ≠ '\x7d' := by
  cases v with
  | null => exact ⟨'n', _, rfl, by decide⟩
  | bool b => cases b <;> exact ⟨_, _, rfl, by decide⟩
  | int n =>
    obtain ⟨c, cs, e, hc⟩ := decimalDigits_cons n.natAbs
    simp only [write, intText, e]
    split
    · exact ⟨'-', _, rfl, by decide⟩
    · refine ⟨c, cs, rfl, ?_, ?_, ?_⟩
      · cases hb : isJsonBlank c with
        | false => rfl
        | true =>
          unfold isJsonBlank at hb
          have hb : c = ' ' ∨ c = '\t' ∨ c = '\n' ∨ c = '\r' := by simpa [or_assoc] using hb
          rcases hb with rfl | rfl | rfl | rfl <;> revert hc <;> decide
      · rintro rfl
        revert hc
        decide
      · rintro rfl
        revert hc
        decide
  | real x => exact absurd h (by simp [IsReadable])
  | str s => exact ⟨'"', _, rfl, by decide⟩
  | list items => cases items <;> exact ⟨'[', _, rfl, by decide⟩
  | tableOf form fields =>
    cases fields with
    | nil => exact ⟨'\x7b', _, by rw [write], by decide⟩
    | cons x fields => exact ⟨'\x7b', _, by rw [write]; rfl, by decide⟩
  | moment m => exact absurd h (by simp [IsReadable])

theorem readWord_null (rest : List Char) : readWord ("null".toList ++ rest) = some (null, rest) :=
  rfl

theorem readWord_bool (b : Bool) (rest : List Char) :
    readWord ((if b then "true".toList else "false".toList) ++ rest) = some (bool b, rest) := by
  cases b <;> rfl

/-- No word starts like a number. -/
theorem readWord_intText (n : Int) (rest : List Char) : readWord (intText n ++ rest) = none := by
  have none_of {c : Char} (hc : c = '-' ∨ c.isDigit) (cs : List Char) :
      readWord (c :: cs) = none := by
    have away (d : Char) (hd : d ≠ '-' ∧ d.isDigit = false) : (d == c) = false := by
      refine beq_eq_false_iff_ne.2 fun e => ?_
      subst e
      rcases hc with rfl | hc
      · exact hd.1 rfl
      · rw [hd.2] at hc
        cases hc
    have hn := away 'n' (by decide)
    have ht := away 't' (by decide)
    have hf := away 'f' (by decide)
    have hN := away 'N' (by decide)
    have hI := away 'I' (by decide)
    simp [readWord, after?, afterBy?, hn, ht, hf, hN, hI]
  obtain ⟨c, cs, e, hc⟩ := decimalDigits_cons n.natAbs
  unfold intText
  rw [e]
  split
  · exact none_of (.inl rfl) _
  · exact none_of (.inr hc) _

/-! ### Reading back -/

variable {l : Layout}

/-- Whether values that are nested no deeper than `room` are read back with their halves joined. -/
def ReadsBack (l : Layout) (room : Nat) : Prop :=
  ∀ (v : Value) (depth fuel : Nat) (rest : List Char), v.IsReadable → v.height ≤ room →
    (write l depth v).length < fuel → EndsNumber rest →
    read fuel room (write l depth v ++ rest) = .ok (v.joined, rest)

theorem skipJsonBlanks_write (depth : Nat) {v : Value} (h : v.IsReadable) (s : List Char) :
    skipJsonBlanks (write l depth v ++ s) = write l depth v ++ s := by
  obtain ⟨c, cs, e, hc, -⟩ := write_cons l depth h
  rw [e, List.cons_append, skipJsonBlanks_cons hc]

theorem skipJsonBlanks_space (depth : Nat) {v : Value} (h : v.IsReadable) (s : List Char) :
    skipJsonBlanks (' ' :: (write l depth v ++ s)) = write l depth v ++ s := by
  have hspace : ∀ c ∈ [' '], isJsonBlank c := by simp [isJsonBlank]
  exact (skipJsonBlanks_append hspace _).trans (skipJsonBlanks_write depth h s)

theorem skipJsonBlanks_after (hl : l.IsBlank) (depth : Nat) {c : Char}
    (hc : isJsonBlank c = false) (rest : List Char) :
    skipJsonBlanks (l.after depth ++ c :: rest) = c :: rest := by
  rw [skipJsonBlanks_append (hl.after depth)]
  exact skipJsonBlanks_cons hc rest

/-- Between two parts there is a comma, and behind the last the sign that closes. -/
theorem endsNumber_items (hl : l.IsBlank) (depth : Nat) (vs : List Value) (rest : List Char) :
    EndsNumber (writeItems l depth vs ++ (l.after depth ++ ']' :: rest)) := by
  cases vs with
  | nil => exact endsNumber_append (hl.after depth) (endsNumber_cons (by simp) rest)
  | cons w vs =>
    obtain ⟨bs, e, -⟩ := hl.between depth
    simp only [writeItems, e, List.cons_append]
    exact endsNumber_cons (by simp) _

theorem endsNumber_fields (hl : l.IsBlank) (depth : Nat) (fs : List (String × Value))
    (rest : List Char) :
    EndsNumber (writeFields l depth fs ++ (l.after depth ++ '\x7d' :: rest)) := by
  cases fs with
  | nil => exact endsNumber_append (hl.after depth) (endsNumber_cons (by simp) rest)
  | cons x fs =>
    obtain ⟨bs, e, -⟩ := hl.between depth
    simp only [writeFields, e, List.cons_append]
    exact endsNumber_cons (by simp) _

theorem readItems_write (hl : l.IsBlank) {room : Nat} (hback : ReadsBack l room) (depth : Nat)
    (vs : List Value) (rest : List Char) :
    ∀ (v : Value) (fuel : Nat) (acc : List Value), v.IsReadable → AreReadable vs →
      v.height ≤ room → itemsHeight vs ≤ room →
      (write l (depth + 1) v ++ writeItems l depth vs).length + 1 < fuel →
      readItems fuel room acc
        (write l (depth + 1) v ++ (writeItems l depth vs ++ (l.after depth ++ ']' :: rest))) =
        .ok (list (acc.reverse ++ v.joined :: joinedItems vs), rest) := by
  induction vs with
  | nil =>
    intro v fuel acc hv _ hheight _ hfuel
    obtain ⟨fuel, rfl⟩ : ∃ k, fuel = k + 1 := ⟨fuel - 1, by omega⟩
    rw [List.length_append] at hfuel
    have hread := hback v (depth + 1) fuel _ hv hheight (by omega)
      (endsNumber_items hl depth [] rest)
    have hskip : skipJsonBlanks (writeItems l depth [] ++ (l.after depth ++ ']' :: rest)) =
        ']' :: rest := skipJsonBlanks_after hl depth rfl rest
    rw [readItems, hread]
    simp only [bind, Except.bind, hskip]
    simp [pure, Except.pure, joinedItems]
  | cons w vs ih =>
    intro v fuel acc hv hvs hheight hheights hfuel
    obtain ⟨fuel, rfl⟩ : ∃ k, fuel = k + 1 := ⟨fuel - 1, by omega⟩
    obtain ⟨bs, hbetween, hblank⟩ := hl.between depth
    obtain ⟨hw, hvs⟩ : w.IsReadable ∧ AreReadable vs := by simpa [AreReadable] using hvs
    obtain ⟨hwheight, hheights⟩ : w.height ≤ room ∧ itemsHeight vs ≤ room := by
      rw [itemsHeight] at hheights
      omega
    have htext : writeItems l depth (w :: vs) ++ (l.after depth ++ ']' :: rest) =
        ',' :: (bs ++ (write l (depth + 1) w ++
          (writeItems l depth vs ++ (l.after depth ++ ']' :: rest)))) := by
      simp [writeItems, hbetween, List.append_assoc]
    have hlength : (writeItems l depth (w :: vs)).length =
        1 + bs.length + (write l (depth + 1) w ++ writeItems l depth vs).length := by
      simp only [writeItems, hbetween, List.length_append, List.length_cons]
      omega
    rw [List.length_append, hlength] at hfuel
    have hread := hback v (depth + 1) fuel _ hv hheight (by omega)
      (endsNumber_items hl depth (w :: vs) rest)
    rw [readItems, hread]
    simp only [bind, Except.bind, htext, skipJsonBlanks_cons (c := ',') rfl,
      skipJsonBlanks_append hblank, skipJsonBlanks_write (depth + 1) hw]
    rw [ih w fuel (v.joined :: acc) hw hvs hwheight hheights (by omega)]
    simp [joinedItems]

theorem readFields_write (hl : l.IsBlank) {room : Nat} (hback : ReadsBack l room) (depth : Nat)
    (fs : List (String × Value)) (rest : List Char) :
    ∀ (k : String) (v : Value) (fuel : Nat) (acc : List (String × Value)), IsPaired k.toList →
      v.IsReadable → HaveReadable fs → v.height ≤ room → fieldsHeight fs ≤ room →
      (quote k ++ ':' :: ' ' :: write l (depth + 1) v ++ writeFields l depth fs).length + 1 <
        fuel →
      readFields fuel room acc
        (quote k ++ ':' :: ' ' :: (write l (depth + 1) v ++
          (writeFields l depth fs ++ (l.after depth ++ '\x7d' :: rest)))) =
        .ok (table (ofPairs (acc.reverse ++ (k, v.joined) :: joinedFields fs)), rest) := by
  induction fs with
  | nil =>
    intro k v fuel acc hk hv _ hheight _ hfuel
    obtain ⟨fuel, rfl⟩ : ∃ k, fuel = k + 1 := ⟨fuel - 1, by omega⟩
    simp only [List.length_append, List.length_cons] at hfuel
    obtain ⟨body, hquote, hkey⟩ := readString_quote k (':' :: ' ' :: (write l (depth + 1) v ++
      (writeFields l depth [] ++ (l.after depth ++ '\x7d' :: rest)))) (fuel + 1) (by omega)
    have hread := hback v (depth + 1) fuel _ hv hheight (by omega)
      (endsNumber_fields hl depth [] rest)
    have hskip : skipJsonBlanks (writeFields l depth [] ++ (l.after depth ++ '\x7d' :: rest)) =
        '\x7d' :: rest := skipJsonBlanks_after hl depth rfl rest
    rw [joined_of_isPaired hk] at hkey
    rw [hquote, List.cons_append, readFields, hkey]
    simp only [skipJsonBlanks_cons (c := ':') rfl, skipJsonBlanks_space (depth + 1) hv, hread, bind,
      Except.bind, hskip]
    simp [pure, Except.pure, joinedFields]
  | cons x fs ih =>
    obtain ⟨k', w⟩ := x
    intro k v fuel acc hk hv hfs hheight hheights hfuel
    obtain ⟨fuel, rfl⟩ : ∃ k, fuel = k + 1 := ⟨fuel - 1, by omega⟩
    obtain ⟨bs, hbetween, hblanks⟩ := hl.between depth
    obtain ⟨hk', hw, hfs⟩ : IsPaired k'.toList ∧ w.IsReadable ∧ HaveReadable fs := by
      simpa [HaveReadable] using hfs
    obtain ⟨hwheight, hheights⟩ : w.height ≤ room ∧ fieldsHeight fs ≤ room := by
      rw [fieldsHeight] at hheights
      omega
    have htext : writeFields l depth ((k', w) :: fs) ++ (l.after depth ++ '\x7d' :: rest) =
        ',' :: (bs ++ (quote k' ++ ':' :: ' ' :: (write l (depth + 1) w ++
          (writeFields l depth fs ++ (l.after depth ++ '\x7d' :: rest))))) := by
      simp [writeFields, hbetween, List.append_assoc]
    have hlength : (writeFields l depth ((k', w) :: fs)).length = 1 + bs.length +
        (quote k' ++ ':' :: ' ' :: write l (depth + 1) w ++ writeFields l depth fs).length := by
      simp only [writeFields, hbetween, List.length_append, List.length_cons]
      omega
    rw [List.length_append, hlength] at hfuel
    simp only [List.length_append, List.length_cons] at hfuel
    obtain ⟨body, hquote, hkey⟩ := readString_quote k (':' :: ' ' :: (write l (depth + 1) v ++
      (writeFields l depth ((k', w) :: fs) ++ (l.after depth ++ '\x7d' :: rest)))) (fuel + 1)
      (by omega)
    have hread := hback v (depth + 1) fuel _ hv hheight (by omega)
      (endsNumber_fields hl depth ((k', w) :: fs) rest)
    have hstart (s : List Char) : skipJsonBlanks (quote k' ++ s) = quote k' ++ s :=
      skipJsonBlanks_cons (c := '"') rfl _
    rw [joined_of_isPaired hk] at hkey
    rw [hquote, List.cons_append, readFields, hkey]
    simp only [skipJsonBlanks_cons (c := ':') rfl, skipJsonBlanks_space (depth + 1) hv, hread, bind,
      Except.bind]
    simp only [htext, skipJsonBlanks_cons (c := ',') rfl, skipJsonBlanks_append hblanks, hstart]
    rw [ih k' w fuel ((k, v.joined) :: acc) hk' hw hfs hwheight hheights (by
      simp only [List.length_append, List.length_cons]
      omega)]
    simp [joinedFields]

/-- A value that holds no others. -/
theorem read_plain {v : Value} {depth fuel room : Nat} {rest : List Char} (hv : v.IsReadable)
    (hheight : v.height = 0) (hfuel : (write l depth v).length < fuel) (hrest : EndsNumber rest) :
    read fuel room (write l depth v ++ rest) = .ok (v.joined, rest) := by
  obtain ⟨fuel, rfl⟩ : ∃ k, fuel = k + 1 := ⟨fuel - 1, by omega⟩
  have word {s : List Char} (hw : readWord s = some (v, rest) ∨
      readWord s = none ∧ readNumber s = some (v, rest))
      (hs : s.head? ≠ some '"' ∧ s.head? ≠ some '[' ∧ s.head? ≠ some '\x7b') :
      read (fuel + 1) room s = .ok (v, rest) := by
    rw [read.eq_def]
    simp only
    split
    · exact absurd rfl hs.1
    · exact absurd rfl hs.2.1
    · exact absurd rfl hs.2.2
    · rcases hw with hw | ⟨hw, hn⟩
      · rw [hw]
        rfl
      · rw [hw, hn]
        rfl
  cases v with
  | null => exact word (.inl (readWord_null rest)) (by simp [write])
  | bool b => exact word (.inl (readWord_bool b rest)) (by cases b <;> simp [write])
  | int n =>
    refine word (.inr ⟨readWord_intText n rest, readNumber_intText hv hrest⟩) ?_
    obtain ⟨c, cs, e, hc⟩ := decimalDigits_cons n.natAbs
    simp only [write, intText, e]
    split
    · simp
    · refine ⟨?_, ?_, ?_⟩ <;> intro h <;> cases h <;> revert hc <;> decide
  | real x => exact absurd hv (by simp [IsReadable])
  | str s =>
    obtain ⟨body, e, hread⟩ := readString_quote s rest (fuel + 1)
      (by rw [write] at hfuel; omega)
    rw [write, e, List.cons_append, read, hread]
    rfl
  | list items => simp [height] at hheight
  | tableOf form fields => simp [height] at hheight
  | moment m => exact absurd hv (by simp [IsReadable])

theorem read_list {fuel room : Nat} {c : Char} {s : List Char} (hb : isJsonBlank c = false)
    (hc : c ≠ ']') {bs : List Char} (hbs : ∀ c ∈ bs, isJsonBlank c) :
    read (fuel + 1) (room + 1) ('[' :: (bs ++ c :: s)) = readItems fuel room [] (c :: s) := by
  rw [read]
  simp only [skipJsonBlanks_append hbs, skipJsonBlanks_cons hb]
  split
  · next e => exact absurd (List.cons.inj e).1 hc
  · rfl

theorem read_table {fuel room : Nat} {s : List Char} {bs : List Char}
    (hbs : ∀ c ∈ bs, isJsonBlank c) (k : String) :
    read (fuel + 1) (room + 1) ('\x7b' :: (bs ++ (quote k ++ s))) =
      readFields fuel room [] (quote k ++ s) := by
  have hk : skipJsonBlanks (quote k ++ s) = quote k ++ s := skipJsonBlanks_cons (c := '"') rfl _
  rw [read]
  simp only [skipJsonBlanks_append hbs, hk]
  rfl

theorem readsBack (hl : l.IsBlank) (room : Nat) : ReadsBack l room := by
  induction room with
  | zero =>
    intro v depth fuel rest hv hheight hfuel hrest
    exact read_plain hv (Nat.le_zero.1 hheight) hfuel hrest
  | succ room ih =>
    intro v depth fuel rest hv hheight hfuel hrest
    cases v with
    | list items =>
      obtain ⟨fuel, rfl⟩ : ∃ k, fuel = k + 1 := ⟨fuel - 1, by omega⟩
      cases items with
      | nil => rfl
      | cons v vs =>
        obtain ⟨hv, hvs⟩ : v.IsReadable ∧ AreReadable vs := by
          simpa [IsReadable, AreReadable] using hv
        obtain ⟨hheight, hheights⟩ : v.height ≤ room ∧ itemsHeight vs ≤ room := by
          rw [height, itemsHeight] at hheight
          omega
        obtain ⟨c, cs, e, hb, hc, -⟩ := write_cons l (depth + 1) hv
        have hitems := readItems_write hl ih depth vs rest v fuel [] hv hvs hheight hheights (by
          simp only [write, List.cons_append, List.length_append, List.length_cons] at hfuel
          simp only [List.length_append]
          omega)
        rw [e, List.cons_append] at hitems
        have htext : write l depth (list (v :: vs)) ++ rest = '[' :: (l.before depth ++
            c :: (cs ++ (writeItems l depth vs ++ (l.after depth ++ ']' :: rest)))) := by
          simp [write, e, List.append_assoc]
        rw [htext, read_list hb hc (hl.before depth), hitems]
        rfl
    | tableOf form fields =>
      obtain ⟨fuel, rfl⟩ : ∃ k, fuel = k + 1 := ⟨fuel - 1, by omega⟩
      cases form with
      | inline => exact absurd hv (by simp [IsReadable])
      | spread =>
        cases fields with
        | nil =>
          rw [write]
          rfl
        | cons x fs =>
          obtain ⟨k, v⟩ := x
          obtain ⟨hkeys, hk, hv, hfs⟩ : ((((k, v) :: fs).map (·.1)).Nodup ∧ IsPaired k.toList ∧
              v.IsReadable ∧ HaveReadable fs) := by
            simpa only [IsReadable, HaveReadable] using hv
          obtain ⟨hheight, hheights⟩ : v.height ≤ room ∧ fieldsHeight fs ≤ room := by
            rw [height, fieldsHeight] at hheight
            omega
          have hfields := readFields_write hl ih depth fs rest k v fuel [] hk hv hfs hheight
            hheights (by
              simp only [write, List.cons_append, List.length_append, List.length_cons] at hfuel
              simp only [List.length_append, List.length_cons]
              omega)
          have htext : write l depth (table ((k, v) :: fs)) ++ rest = '\x7b' ::
              (l.before depth ++ (quote k ++ ':' :: ' ' :: (write l (depth + 1) v ++
                (writeFields l depth fs ++ (l.after depth ++ '\x7d' :: rest))))) := by
            simp [write, List.append_assoc]
          have hpairs : ofPairs ((k, v.joined) :: joinedFields fs) =
              joinedFields ((k, v) :: fs) := by
            refine ofPairs_of_nodup ?_
            rwa [← map_fst_joinedFields] at hkeys
          rw [htext, read_table (hl.before depth), hfields, List.reverse_nil, List.nil_append,
            hpairs]
          rfl
    | _ => exact read_plain hv (by simp [height]) hfuel hrest

/-- A value that can be read back is, with one part on a line, read back with its halves joined. -/
theorem ofJson_toLines {v : Value} (h : v.IsReadable) (hheight : v.height ≤ maxNesting) :
    ofJson v.toLines.toList = .ok v.joined := by
  have hread := readsBack Layout.indented_isBlank maxNesting v 0
    (2 * (write .indented 0 v).length + 2) [] h hheight (by omega) (fun c hc => by cases hc)
  have hskip := skipJsonBlanks_write (l := .indented) 0 h []
  rw [List.append_nil] at hread hskip
  unfold ofJson toLines
  rw [String.toList_ofList, hskip, hread]
  rfl

end Value

end Restyle
