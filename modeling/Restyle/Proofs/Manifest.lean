import Restyle.Proofs.BackupStore
import Restyle.Proofs.JsonValue

/-!
Records as the store makes them, and the manifest that gives them back, but for halves that follow
one another in a reason. A record is about a file at a place; its copy is where the store puts
copies of that file; and the timestamps of a file rise.
-/
namespace Restyle

open Value Text

namespace Text

theorem isPaired_append_slash {a b : List Char} (ha : IsPaired a) (hb : IsPaired b) :
    IsPaired (a ++ '/' :: b) := by
  have hslash : isLeading '/'.toNat = false ∧ isTrailing '/'.toNat = false := by decide
  unfold IsPaired at ha hb ⊢
  rw [codes_eq] at ha hb ⊢
  rw [codesFrom_append_cons (by decide)]
  refine List.isChain_append.2 ⟨ha, List.isChain_cons.2 ⟨?_, hb⟩, ?_⟩
  · rintro n - ⟨hl, -⟩
    rw [hslash.1] at hl
    cases hl
  · rintro m - n hn ⟨-, ht⟩
    obtain rfl := Option.some.inj hn
    rw [hslash.2] at ht
    cases ht

/-- The halves that are let through in names of files are no leading ones. -/
theorem isPaired_of_nameFault? {s : String} (h : nameFault? s = none) : IsPaired s.toList := by
  have scan : ∀ (ns : List Nat) (place : Nat), strayHalves isByte place ns = none →
      ∀ n ∈ ns, isLeading n = false := by
    intro ns
    induction ns with
    | nil => intro place _ n hn; cases hn
    | cons m ns ih =>
      intro place hs n hn
      rw [strayHalves] at hs
      split at hs
      · cases hs
      · next hm =>
        rcases List.mem_cons.1 hn with rfl | hn
        · simp only [isHalf, isByte, isLeading, Bool.and_eq_true, Bool.not_eq_true',
            Bool.and_eq_false_iff, decide_eq_true_eq, decide_eq_false_iff_not] at hm ⊢
          omega
        · exact ih _ hs n hn
  unfold nameFault? at h
  exact isPaired_of_leading (scan _ 0 (Option.map_eq_none_iff.1 h))

end Text

namespace Path

theorem isPaired_slashed {p : Path} (h : ∀ n ∈ p, IsPaired n.toList) :
    IsPaired (slashed p).toList := by
  unfold slashed
  rw [String.toList_ofList]
  induction p with
  | nil => exact isPaired_of_notMem (by simp)
  | cons n p ih =>
    have hn := h n List.mem_cons_self
    have hp := ih fun m hm => h m (List.mem_cons_of_mem _ hm)
    cases p with
    | nil => simpa using hn
    | cons m p =>
      have e : ['/'].intercalate ((n :: m :: p).map String.toList) =
          n.toList ++ '/' :: ['/'].intercalate ((m :: p).map String.toList) := by
        simp
      rw [e]
      exact isPaired_append_slash hn hp

/-- The text of a path that can be asked for is read back from quotes. -/
theorem isPaired_text {p : Path} (h : p.refusal? = none) : IsPaired p.text.toList := by
  have hnames : ∀ n ∈ p, IsPaired n.toList := by
    intro n hn
    refine isPaired_of_nameFault? ?_
    unfold refusal? at h
    split at h
    · cases h
    · next hh =>
      unfold hasHalf at hh
      cases hf : nameFault? n with
      | none => rfl
      | some f => exact absurd (List.any_eq_true.2 ⟨n, hn, by simp [hf]⟩) hh
  unfold text
  split
  · exact isPaired_of_notMem (by decide)
  · rw [String.toList_append]
    have e : "/".toList ++ (slashed p).toList = [] ++ '/' :: (slashed p).toList := rfl
    rw [e]
    exact isPaired_append_slash (isPaired_of_notMem (by simp)) (isPaired_slashed hnames)

end Path

namespace Tree

variable {t : Tree}

theorem refusal?_of_find_ok {p q : Path} {n : Option Node} (h : t.find p = .ok (q, n)) :
    p.refusal? = none := by
  unfold find follow at h
  split at h
  · next hf =>
    split at hf
    · cases hf
    · next hr => exact hr
  · cases h

theorem walk_short {here p q : Path} (h : t.walk here p = .ok q) :
    ∀ n ∈ p, n ≠ ".." → n.utf8ByteSize ≤ maxNameBytes := by
  induction p generalizing here with
  | nil => intro n hn; cases hn
  | cons m p ih =>
    intro n hn hup
    rw [walk] at h
    split at h
    · cases h
    · cases h
    · split at h
      · next e =>
        rcases List.mem_cons.1 hn with rfl | hn
        · exact absurd e hup
        · exact ih h n hn hup
      · split at h
        · next e =>
          rcases List.mem_cons.1 hn with rfl | hn
          · rw [e]
            exact Nat.zero_le _
          · exact ih h n hn hup
        · split at h
          · cases h
          · next hlong =>
            rcases List.mem_cons.1 hn with rfl | hn
            · exact Nat.le_of_not_lt hlong
            · exact ih h n hn hup

theorem short_of_find {p q : Path} {n : Option Node} (h : t.find p = .ok (q, n)) :
    ∀ n ∈ p, n ≠ ".." → n.utf8ByteSize ≤ maxNameBytes := by
  unfold find follow at h
  split at h
  · next hf =>
    split at hf
    · cases hf
    · split at hf
      · cases hf
      · exact walk_short hf
  · cases h

end Tree

theorem length_le_utf8ByteSize (s : String) : s.toList.length ≤ s.utf8ByteSize := by
  have encoded (l : List Char) : l.length ≤ l.utf8Encode.size := by
    induction l with
    | nil => exact Nat.zero_le _
    | cons c l ih =>
      have hc := c.utf8Size_pos
      rw [List.utf8Encode_cons, ByteArray.size_append, List.length_cons]
      simp only [List.utf8Encode_singleton, List.size_toByteArray, String.length_utf8EncodeChar]
      omega
  have h := encoded s.toList
  rwa [String.utf8Encode_toList] at h

/-! ### Records that are read back -/

namespace BackupEntry

/-- The record with halves that follow one another in its reason joined. -/
def joined (e : BackupEntry) : BackupEntry := { e with reason := e.reason.joined }

/-- Whether a record is another one but for the reason, and that too unless halves follow one
another in it. -/
structure IsAlike (e e' : BackupEntry) : Prop where
  same : e' = { e with reason := e'.reason }
  reason : e.reason.joined = e.reason → e'.reason = e.reason

namespace IsAlike

theorem refl (e : BackupEntry) : e.IsAlike e := ⟨rfl, fun _ => rfl⟩

theorem joined (e : BackupEntry) : e.IsAlike e.joined := ⟨rfl, fun h => h⟩

theorem timestamp {e e' : BackupEntry} (h : e.IsAlike e') : e'.timestamp = e.timestamp := by
  rw [h.same]

theorem hash {e e' : BackupEntry} (h : e.IsAlike e') : e'.hash = e.hash := by
  rw [h.same]

theorem expected {e e' : BackupEntry} (h : e.IsAlike e') : e'.expected = e.expected := by
  rw [h.same]
  rfl

end IsAlike

/-- Whether records are alike one by one. -/
abbrev AreAlike : List BackupEntry → List BackupEntry → Prop := List.Forall₂ IsAlike

theorem areAlike_refl (es : List BackupEntry) : AreAlike es es :=
  List.forall₂_same.2 fun e _ => .refl e

theorem areAlike_joined (es : List BackupEntry) : AreAlike es (es.map joined) :=
  List.forall₂_map_right_iff.2 (List.forall₂_same.2 fun e _ => .joined e)

/-- The newest of records that are alike are alike. -/
theorem rel_getLast? {es es' : List BackupEntry} (h : AreAlike es es') :
    Option.Rel IsAlike es.getLast? es'.getLast? := by
  rw [List.getLast?_eq_head?_reverse, List.getLast?_eq_head?_reverse]
  have hreverse := List.forall₂_reverse_iff.2 h
  revert hreverse
  generalize es.reverse = rs
  generalize es'.reverse = rs'
  intro hreverse
  cases hreverse with
  | nil => exact .none
  | cons halike _ => exact .some halike

end BackupEntry

/-- The index with halves that follow one another in its reasons joined. -/
def BackupIndex.joined (index : BackupIndex) : BackupIndex :=
  index.map fun x => (x.1, x.2.map BackupEntry.joined)

namespace Backups

open BackupIndex

variable {b b' : Backups} {t : Tree}

/-! ### Records as the store makes them -/

/-- A record of a copy of a file. -/
structure IsRecord (b : Backups) (file : Path) (e : BackupEntry) : Prop where
  copy : e.copy = .str (b.copyPath file e.timestamp).text
  askable : (b.copyPath file e.timestamp).refusal? = none
  digits : (Number.decimalDigits e.timestamp.natAbs).length ≤ Number.maxDigits
  readable : ∀ v ∈ [e.file, e.hash, e.reason, e.written], v.IsReadable ∧ v.height = 0
  paired : ∀ v ∈ [e.file, e.hash, e.written], v.joined = v

/-- An index that the store made: each key is the text of a place, and the records under it are of
copies of that file, from the oldest to the newest. -/
structure IsSound (b : Backups) (index : BackupIndex) : Prop where
  keys : (index.map (·.1)).Nodup
  files : ∀ x ∈ index, ∃ file : Path, file.IsPlace ∧ x.1 = file.text ∧ IsPaired x.1.toList ∧
    ∀ e ∈ x.2, b.IsRecord file e
  rising : ∀ x ∈ index, x.2.Pairwise fun e e' => e.timestamp < e'.timestamp

theorem copyPath_congr (hr : b'.root = b.root) (hd : b'.directory = b.directory) :
    b'.copyPath = b.copyPath := by
  funext file timestamp
  unfold copyPath
  rw [hr, hd]

theorem IsRecord.congr {file : Path} {e : BackupEntry} (h : b.IsRecord file e)
    (hr : b'.root = b.root) (hd : b'.directory = b.directory) : b'.IsRecord file e where
  copy := by rw [copyPath_congr hr hd]; exact h.copy
  askable := by rw [copyPath_congr hr hd]; exact h.askable
  digits := h.digits
  readable := h.readable
  paired := h.paired

theorem IsSound.congr {index : BackupIndex} (h : b.IsSound index) (hr : b'.root = b.root)
    (hd : b'.directory = b.directory) : b'.IsSound index where
  keys := h.keys
  files x hx := by
    obtain ⟨file, hf, hkey, hpaired, hrecords⟩ := h.files x hx
    exact ⟨file, hf, hkey, hpaired, fun e he => (hrecords e he).congr hr hd⟩
  rising := h.rising

theorem isSound_nil (b : Backups) : b.IsSound [] where
  keys := List.nodup_nil
  files _ hx := absurd hx List.not_mem_nil
  rising _ hx := absurd hx List.not_mem_nil

theorem IsSound.assign {index : BackupIndex} (h : b.IsSound index) {file : Path}
    (hf : file.IsPlace) (hpaired : IsPaired file.text.toList) {es : List BackupEntry}
    (hes : ∀ e ∈ es, b.IsRecord file e)
    (hrising : es.Pairwise fun e e' => e.timestamp < e'.timestamp) :
    b.IsSound (assign file.text es index) where
  keys := nodup_assign h.keys _ _
  files x hx := by
    rcases mem_assign hx with rfl | hx
    · exact ⟨file, hf, rfl, hpaired, hes⟩
    · exact h.files x hx
  rising x hx := by
    rcases mem_assign hx with rfl | hx
    · exact hrising
    · exact h.rising x hx

theorem IsSound.filter {index : BackupIndex} (h : b.IsSound index)
    (p : String × List BackupEntry → Bool) : b.IsSound (index.filter p) where
  keys := (List.filter_sublist.map _).nodup h.keys
  files x hx := h.files x (List.mem_filter.1 hx).1
  rising x hx := h.rising x (List.mem_filter.1 hx).1

/-- The records of a file in an index. -/
def recordsOf (index : BackupIndex) (file : Path) : List BackupEntry :=
  (index.lookup file.text).getD []

theorem history_eq {file : Path} (hf : file.IsPlace) :
    b.history file = recordsOf b.index file := by
  unfold history recordsOf
  rw [Path.resolve_of_isPlace hf]

theorem recordsOf_cases (index : BackupIndex) (file : Path) :
    recordsOf index file = [] ∨ (file.text, recordsOf index file) ∈ index := by
  unfold recordsOf
  cases hl : index.lookup file.text with
  | none => exact .inl rfl
  | some es => exact .inr (mem_of_lookup hl)

theorem IsSound.isRecord {index : BackupIndex} (h : b.IsSound index) {file : Path}
    (hf : file.IsPlace) {e : BackupEntry} (he : e ∈ recordsOf index file) :
    b.IsRecord file e := by
  rcases recordsOf_cases index file with hnil | hmem
  · rw [hnil] at he
    cases he
  · obtain ⟨file', hf', hkey, -, hrecords⟩ := h.files _ hmem
    obtain rfl := Path.text_injective hf.isPlain.isLegible hf'.isPlain.isLegible hkey
    exact hrecords e he

theorem IsSound.pairwise {index : BackupIndex} (h : b.IsSound index) (file : Path) :
    (recordsOf index file).Pairwise fun e e' => e.timestamp < e'.timestamp := by
  rcases recordsOf_cases index file with hnil | hmem
  · rw [hnil]
    exact .nil
  · exact h.rising _ hmem

theorem recordsOf_assign {index : BackupIndex} {file file' : Path} (hf : file.IsPlace)
    (hf' : file'.IsPlace) (es : List BackupEntry) :
    recordsOf (assign file.text es index) file' =
      if file' = file then es else recordsOf index file' := by
  unfold recordsOf
  rw [lookup_assign]
  by_cases e : file' = file
  · simp [e]
  · have hne : (file'.text == file.text) = false := beq_eq_false_iff_ne.2 fun ht =>
      e (Path.text_injective hf'.isPlain.isLegible hf.isPlain.isLegible ht)
    simp [e, hne]

theorem recordsOf_filter {index : BackupIndex} (hkeys : (index.map (·.1)).Nodup)
    {p : String × List BackupEntry → Bool} (hp : ∀ x ∈ index, p x = false → x.2 = [])
    (file : Path) : recordsOf (index.filter p) file = recordsOf index file := by
  unfold recordsOf
  induction index with
  | nil => rfl
  | cons x index ih =>
    obtain ⟨k, es⟩ := x
    rw [List.map_cons, List.nodup_cons] at hkeys
    have ih := ih hkeys.2 fun x hx => hp x (List.mem_cons_of_mem _ hx)
    cases hk : file.text == k with
    | false => cases h : p (k, es) <;> simp [h, List.lookup_cons, hk, ih]
    | true =>
      cases h : p (k, es) with
      | true => simp [h, List.lookup_cons, hk]
      | false =>
        have hes : es = [] := hp (k, es) List.mem_cons_self h
        have hnone : (index.filter p).lookup file.text = none := by
          cases hl : (index.filter p).lookup file.text with
          | none => rfl
          | some es' =>
            have hm := List.mem_map_of_mem (f := (·.1))
              (List.mem_filter.1 (mem_of_lookup hl)).1
            rw [eq_of_beq hk] at hm
            exact absurd hm hkeys.1
        rw [List.filter_cons_of_neg (by simp [h]), hnone, List.lookup_cons, hk, hes]
        rfl

theorem recordsOf_withoutEmpty (h : b.IsSound b.index) (key : String) (file : Path) :
    recordsOf (b.withoutEmpty key).index file = recordsOf b.index file := by
  refine recordsOf_filter h.keys ?_ file
  intro x _ hx
  simp only [Bool.not_eq_false', Bool.and_eq_true, List.isEmpty_iff] at hx
  exact hx.2

/-! ### The manifest -/

theorem mem_toDigits {c : Char} {n : Nat} (h : c ∈ Nat.toDigits 16 n) :
    ∃ k : Fin 16, c = Nat.digitChar k := by
  induction n using Nat.strongRecOn with
  | _ n ih =>
    rw [Nat.toDigits_eq_if (by decide)] at h
    split at h
    · next hn => exact ⟨⟨n, hn⟩, List.mem_singleton.1 h⟩
    · rcases List.mem_append.1 h with h | h
      · exact ih (n / 16) (by omega) h
      · exact ⟨⟨n % 16, by omega⟩, List.mem_singleton.1 h⟩

theorem isPaired_short (bytes : ByteArray) : IsPaired (Digest.short bytes).toList := by
  have digit : ∀ k : Fin 16, Nat.digitChar k ≠ halfMark := by decide
  have word (w : UInt32) : halfMark ∉ Digest.hexWord w := by
    intro h
    rcases List.mem_append.1 h with h | h
    · exact absurd (List.eq_of_mem_replicate h) (by decide)
    · obtain ⟨k, hk⟩ := mem_toDigits h
      exact digit k hk.symm
  refine isPaired_of_notMem ?_
  rw [Digest.short, String.toList_ofList, List.mem_append, not_or]
  exact ⟨word _, word _⟩

/-- A copy that can be asked for gives a record. -/
theorem isRecord_entryFor {file : Path} (hask : file.refusal? = none) {timestamp : Int}
    {q : Path} {n : Option Node} (hcopy : t.find (b.copyPath file timestamp) = .ok (q, n))
    (reason : String) (bytes : ByteArray) :
    b.IsRecord file (b.entryFor file timestamp reason bytes) where
  copy := rfl
  askable := Tree.refusal?_of_find_ok hcopy
  digits := by
    have hname : copyName file timestamp ∈ b.copyPath file timestamp := by
      rw [copyPath_eq]
      exact List.mem_append_right _ (List.mem_append_right _ (List.mem_singleton_self _))
    have hshort := Tree.short_of_find hcopy _ hname (by
      intro e
      have hl := congrArg (List.length ∘ String.toList) e
      simp [toList_copyName] at hl
      omega)
    have hlength := length_le_utf8ByteSize (copyName file timestamp)
    have hint : (Number.decimalDigits timestamp.natAbs).length ≤ (intText timestamp).length := by
      unfold intText
      split <;> simp
    rw [toList_copyName] at hlength
    simp only [List.length_append, List.length_cons] at hlength
    have hmax : Tree.maxNameBytes ≤ Number.maxDigits := by decide
    have hdigits : (Number.decimalDigits timestamp.natAbs).length ≤ Tree.maxNameBytes := by omega
    exact Nat.le_trans hdigits hmax
  readable := by
    intro v hv
    simp only [entryFor, List.mem_cons, List.not_mem_nil, or_false] at hv
    rcases hv with rfl | rfl | rfl | rfl
    · exact ⟨trivial, rfl⟩
    · exact ⟨trivial, rfl⟩
    · exact ⟨trivial, rfl⟩
    · exact ⟨trivial, rfl⟩
  paired := by
    intro v hv
    simp only [entryFor, List.mem_cons, List.not_mem_nil, or_false] at hv
    rcases hv with rfl | rfl | rfl
    · exact joined_str (Path.isPaired_text hask)
    · exact joined_str (isPaired_short bytes)
    · rfl

theorem IsRecord.written {file : Path} {e : BackupEntry} (h : b.IsRecord file e)
    (bytes : ByteArray) : b.IsRecord file { e with written := .str (Digest.short bytes) } where
  copy := h.copy
  askable := h.askable
  digits := h.digits
  readable := by
    intro v hv
    simp only [List.mem_cons, List.not_mem_nil, or_false] at hv
    rcases hv with rfl | rfl | rfl | rfl
    · exact h.readable _ (by simp)
    · exact h.readable _ (by simp)
    · exact h.readable _ (by simp)
    · exact ⟨trivial, rfl⟩
  paired := by
    intro v hv
    simp only [List.mem_cons, List.not_mem_nil, or_false] at hv
    rcases hv with rfl | rfl | rfl
    · exact h.paired _ (by simp)
    · exact h.paired _ (by simp)
    · exact joined_str (isPaired_short bytes)

theorem IsRecord.joined {file : Path} {e : BackupEntry} (h : b.IsRecord file e) :
    b.IsRecord file e.joined where
  copy := h.copy
  askable := h.askable
  digits := h.digits
  readable := by
    intro v hv
    simp only [BackupEntry.joined, List.mem_cons, List.not_mem_nil, or_false] at hv
    rcases hv with rfl | rfl | rfl | rfl
    · exact h.readable _ (by simp)
    · exact h.readable _ (by simp)
    · obtain ⟨hreadable, hheight⟩ := h.readable e.reason (by simp)
      exact hreadable.joined hheight
    · exact h.readable _ (by simp)
  paired := h.paired

theorem IsRecord.toValue {file : Path} {e : BackupEntry} (h : b.IsRecord file e) :
    e.toValue.IsReadable ∧ e.toValue.height = 1 := by
  have hf := h.readable e.file (by simp)
  have hh := h.readable e.hash (by simp)
  have hr := h.readable e.reason (by simp)
  have hw := h.readable e.written (by simp)
  have hc : e.copy.IsReadable := by
    rw [h.copy]
    trivial
  have hn (s : String) (hs : halfMark ∉ s.toList) : IsPaired s.toList := isPaired_of_notMem hs
  constructor
  · refine ⟨by simp, ?_⟩
    simp only [HaveReadable]
    exact ⟨hn _ (by decide), hf.1, hn _ (by decide), hc, hn _ (by decide), h.digits,
      hn _ (by decide), hh.1, hn _ (by decide), hr.1, hn _ (by decide), hw.1, trivial⟩
  · simp [BackupEntry.toValue, height, fieldsHeight, hf.2, hh.2, hr.2, hw.2, h.copy]

theorem IsSound.haveReadable {index : BackupIndex} (h : b.IsSound index) :
    HaveReadable (index.map fun x => (x.1, list (x.2.map BackupEntry.toValue))) ∧
      fieldsHeight (index.map fun x => (x.1, list (x.2.map BackupEntry.toValue))) ≤ 2 := by
  have entries (file : Path) (es : List BackupEntry) (hes : ∀ e ∈ es, b.IsRecord file e) :
      AreReadable (es.map BackupEntry.toValue) ∧
        itemsHeight (es.map BackupEntry.toValue) ≤ 1 := by
    induction es with
    | nil => exact ⟨trivial, Nat.zero_le _⟩
    | cons e es ih =>
      obtain ⟨hread, hheight⟩ := (hes e List.mem_cons_self).toValue
      obtain ⟨hreads, hheights⟩ := ih fun e he => hes e (List.mem_cons_of_mem _ he)
      refine ⟨⟨hread, hreads⟩, ?_⟩
      simp only [List.map_cons, itemsHeight, hheight]
      omega
  have files (m : BackupIndex) (hm : ∀ x ∈ m, x ∈ index) :
      HaveReadable (m.map fun x => (x.1, list (x.2.map BackupEntry.toValue))) ∧
        fieldsHeight (m.map fun x => (x.1, list (x.2.map BackupEntry.toValue))) ≤ 2 := by
    induction m with
    | nil => exact ⟨trivial, Nat.zero_le _⟩
    | cons x m ih =>
      obtain ⟨file, -, -, hpaired, hrecords⟩ := h.files x (hm x List.mem_cons_self)
      obtain ⟨hes, hesHeight⟩ := entries file x.2 hrecords
      obtain ⟨hreads, hheights⟩ := ih fun x hx => hm x (List.mem_cons_of_mem _ hx)
      refine ⟨⟨hpaired, hes, hreads⟩, ?_⟩
      simp only [List.map_cons, fieldsHeight, height]
      omega
  exact files index fun _ hx => hx

theorem IsSound.toManifest {index : BackupIndex} (h : b.IsSound index) :
    (BackupIndex.toManifest index).IsReadable ∧
      (BackupIndex.toManifest index).height ≤ maxNesting := by
  obtain ⟨hread, hheight⟩ := h.haveReadable
  have hkeys : ((index.map fun x =>
      (x.1, list (x.2.map BackupEntry.toValue))).map (·.1)).Nodup := by
    rw [List.map_map]
    exact h.keys
  constructor
  · exact ⟨by simp, isPaired_of_notMem (by decide),
      (by decide : (Number.decimalDigits 1).length ≤ Number.maxDigits),
      isPaired_of_notMem (by decide),
      ⟨hkeys, hread⟩, trivial⟩
  · simp only [BackupIndex.toManifest, height, fieldsHeight, maxNesting]
    omega

theorem IsRecord.toValue_joined {file : Path} {e : BackupEntry} (h : b.IsRecord file e) :
    e.toValue.joined = e.joined.toValue := by
  have hfile := h.paired e.file (by simp)
  have hhash := h.paired e.hash (by simp)
  have hwritten := h.paired e.written (by simp)
  have hcopy : e.copy.joined = e.copy := by
    rw [h.copy]
    exact joined_str (Path.isPaired_text h.askable)
  simp [BackupEntry.toValue, BackupEntry.joined, Value.joined, joinedFields, hfile, hhash, hwritten,
    hcopy]

/-- What is read back of a manifest is the manifest of what is read back of its index. -/
theorem IsSound.toManifest_joined {index : BackupIndex} (h : b.IsSound index) :
    (BackupIndex.toManifest index).joined = BackupIndex.toManifest index.joined := by
  have entries (file : Path) (es : List BackupEntry) (hes : ∀ e ∈ es, b.IsRecord file e) :
      joinedItems (es.map BackupEntry.toValue) =
        (es.map BackupEntry.joined).map BackupEntry.toValue := by
    induction es with
    | nil => rfl
    | cons e es ih =>
      have hrest := ih fun e he => hes e (List.mem_cons_of_mem _ he)
      rw [List.map_cons, joinedItems, hrest, (hes e List.mem_cons_self).toValue_joined]
      rfl
  have files (m : BackupIndex) (hm : ∀ x ∈ m, x ∈ index) :
      joinedFields (m.map fun x => (x.1, list (x.2.map BackupEntry.toValue))) =
        m.joined.map fun x => (x.1, list (x.2.map BackupEntry.toValue)) := by
    induction m with
    | nil => rfl
    | cons x m ih =>
      obtain ⟨file, -, -, -, hrecords⟩ := h.files x (hm x List.mem_cons_self)
      have hrest := ih fun x hx => hm x (List.mem_cons_of_mem _ hx)
      rw [List.map_cons, joinedFields, hrest, Value.joined, entries file x.2 hrecords]
      rfl
  have hfiles := files index fun _ hx => hx
  simp only [BackupIndex.toManifest, Value.joined, joinedFields, hfiles]

theorem IsSound.joined {index : BackupIndex} (h : b.IsSound index) : b.IsSound index.joined where
  keys := by
    have hkeys : index.joined.map (·.1) = index.map (·.1) := by
      unfold BackupIndex.joined
      rw [List.map_map]
      rfl
    rw [hkeys]
    exact h.keys
  files x hx := by
    obtain ⟨y, hy, rfl⟩ := List.mem_map.1 hx
    obtain ⟨file, hf, hkey, hpaired, hrecords⟩ := h.files y hy
    refine ⟨file, hf, hkey, hpaired, fun e he => ?_⟩
    obtain ⟨e', he', rfl⟩ := List.mem_map.1 he
    exact (hrecords e' he').joined
  rising x hx := by
    obtain ⟨y, hy, rfl⟩ := List.mem_map.1 hx
    exact List.pairwise_map.2 (h.rising y hy)

theorem recordsOf_joined (index : BackupIndex) (file : Path) :
    recordsOf index.joined file = (recordsOf index file).map BackupEntry.joined := by
  unfold recordsOf BackupIndex.joined
  rw [lookup_map_values]
  cases index.lookup file.text with
  | none => rfl
  | some es => rfl

theorem ofManifest_toManifest (index : BackupIndex) :
    ofManifest (toManifest index) = .ok index := by
  have entries (es : List BackupEntry) :
      (es.map BackupEntry.toValue).mapM BackupEntry.ofValue = .ok es := by
    induction es with
    | nil => rfl
    | cons e es ih =>
      rw [List.map_cons, List.mapM_cons, BackupEntry.ofValue_toValue, ih]
      rfl
  have files (m : BackupIndex) :
      filesOf (m.map fun x => (x.1, .list (x.2.map BackupEntry.toValue))) = .ok m := by
    induction m with
    | nil => rfl
    | cons x m ih =>
      obtain ⟨k, es⟩ := x
      simp only [List.map_cons, filesOf, entriesOf, items, bind, Except.bind, entries es, ih]
      rfl
  exact files index

/-- What the manifest of an index says, in bytes. -/
def manifestBytes (index : BackupIndex) : ByteArray := (BackupIndex.toManifest index).toLines.toUTF8

/-- A manifest gives back the index that it was written for, with its halves joined. -/
theorem loadIndex_manifest {index : BackupIndex} (h : b.IsSound index) {p q : Path}
    (hf : t.find p = .ok (q, some (.file (manifestBytes index)))) :
    loadIndex t p = .ok index.joined := by
  obtain ⟨hread, hheight⟩ := h.toManifest
  have hexists : t.exists? p = .ok true := Tree.exists?_of_find hf
  have htext : Component.readText t p = .ok (BackupIndex.toManifest index).toLines := by
    unfold Component.readText Tree.read
    rw [hf]
    simp only [manifestBytes, decode_encode]
  unfold loadIndex
  simp only [hexists, htext, ofJson_toLines hread hheight, h.toManifest_joined,
    ofManifest_toManifest]

/-- Without a file there is no index. -/
theorem loadIndex_of_not_file {p q : Path} {n : Option Node} (hf : t.find p = .ok (q, n))
    (hn : Node.bytes? n = none) : loadIndex t p = .ok [] := by
  have hexists := Tree.exists?_of_find hf
  have htext : ∃ f, Component.readText t p = .error f := by
    unfold Component.readText Tree.read
    rw [hf]
    rcases n with _ | _ | _
    · exact ⟨_, rfl⟩
    · cases hn
    · exact ⟨_, rfl⟩
  obtain ⟨f, htext⟩ := htext
  unfold loadIndex
  simp only [hexists, htext]

theorem saveIndex_find {n : Option Node} (hb : b.IsRooted)
    (hf : t.find b.manifestPath = .ok (b.manifestPath.resolve, n)) (hn : n ≠ some .directory) :
    (b.saveIndex t).find b.manifestPath =
      .ok (b.manifestPath.resolve, some (.file (manifestBytes b.index))) := by
  have hw := Tree.write_of_find hf hn (manifestBytes b.index)
  unfold saveIndex
  rw [← manifestBytes, hw]
  exact Tree.find_of_write (isLegible_manifestPath hb) hw

end Backups

end Restyle
