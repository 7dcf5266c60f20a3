import Restyle.Proofs.LoadedStore
import Restyle.Proofs.ResolvedPath
import Restyle.Proofs.ReadValue

/-!
What a manifest of any bytes comes to when a store is opened. The documents that describe an index
give it back, among them each that the store writes; almost all others are passed over. What opening
the store ends in a fault for is told as exactly.
-/
namespace Restyle

open Value Text

/-- Whether the reading of a manifest ends in a fault for which it is not passed over. -/
def Halts {α : Type} (x : Except Fault α) : Prop :=
  ∃ f, x = .error f ∧ BackupIndex.isUnreadable f = false

section Halts

variable {α β : Type}

theorem halts_bind {x : Except Fault α} {g : α → Except Fault β} :
    Halts (x >>= g) ↔ Halts x ∨ ∃ a, x = .ok a ∧ Halts (g a) := by
  cases x <;> simp [Halts, bind, Except.bind]

theorem not_halts_ok (a : α) : ¬ Halts (.ok a) := by
  rintro ⟨f, ⟨⟩, -⟩

theorem halts_error {f : Fault} :
    Halts (.error f : Except Fault α) ↔ BackupIndex.isUnreadable f = false := by
  simp [Halts]

theorem halts_mapM {g : α → Except Fault β} {xs : List α} :
    Halts (xs.mapM g) ↔
      ∃ read x rest, xs = read ++ x :: rest ∧ (∀ y ∈ read, ∃ b, g y = .ok b) ∧ Halts (g x) := by
  constructor
  · rintro ⟨f, hf, hstops⟩
    obtain ⟨read, x, rest, hsplit, hread, hx⟩ := mapM_eq_error.1 hf
    exact ⟨read, x, rest, hsplit, hread, f, hx, hstops⟩
  · rintro ⟨read, x, rest, hsplit, hread, f, hx, hstops⟩
    exact ⟨f, mapM_eq_error.2 ⟨read, x, rest, hsplit, hread, hx⟩, hstops⟩

end Halts

/-- Of what is no whole number, only one without an end is not passed over. -/
theorem halts_toInt {v : Value} : Halts v.toInt ↔ ∃ negative, v = .real (.infinite negative) := by
  cases v with
  | real x => cases x <;> simp [toInt, binaryToInt, halts_error, not_halts_ok,
      BackupIndex.isUnreadable]
  | str s =>
    unfold toInt
    simp only
    split <;> simp [halts_error, not_halts_ok, BackupIndex.isUnreadable]
  | int n => simp [toInt, not_halts_ok]
  | bool b => simp [toInt, not_halts_ok]
  | null => simp [toInt, halts_error, BackupIndex.isUnreadable]
  | list items => simp [toInt, halts_error, BackupIndex.isUnreadable]
  | tableOf form fields => simp [toInt, halts_error, BackupIndex.isUnreadable]
  | moment m => simp [toInt, halts_error, BackupIndex.isUnreadable]

theorem Value.get_of_not_has {v : Value} {key : String} (h : v.has key = false) :
    v.get key = .null := by
  cases v with
  | tableOf form fields =>
    change (fields.lookup key).isSome = false at h
    rw [Option.isSome_eq_false_iff, Option.isNone_iff_eq_none] at h
    simp [Value.get, h]
  | _ => rfl

/-- Only a text without characters has no points. -/
theorem Text.eq_empty_of_points {s : String} (h : points s.toList = []) : s = "" := by
  refine String.toList_eq_nil_iff.1 ?_
  cases hs : s.toList with
  | nil => rfl
  | cons c cs =>
    rw [hs] at h
    unfold points at h
    split at h
    · cases cs with
      | nil => cases h
      | cons d cs =>
        unfold pointsFrom at h
        split at h <;> cases h
    · cases h

/-- What cannot be gone through is passed over. -/
theorem not_halts_items (v : Value) : ¬ Halts v.items := by
  cases v <;> simp [items, halts_error, not_halts_ok, BackupIndex.isUnreadable]

namespace BackupEntry

/-- A table with the fields of a record. The timestamp is whatever has a whole part; the reason and
the hash of what was written may be left out. -/
structure IsToldBy (e : BackupEntry) (v : Value) : Prop where
  table : ∃ fields, v = .table fields
  file : v.has "original_path" ∧ v.get "original_path" = e.file
  copy : v.has "backup_path" ∧ v.get "backup_path" = e.copy
  timestamp : v.has "timestamp" ∧ (v.get "timestamp").toInt = .ok e.timestamp
  hash : v.has "hash" ∧ v.get "hash" = e.hash
  reason : (if v.has "reason" then v.get "reason" else .str "") = e.reason
  written : v.get "written_hash" = e.written

/-- A table with the paths of a record, and a timestamp that never comes. -/
structure IsEndless (v : Value) : Prop where
  table : ∃ fields, v = .table fields
  file : v.has "original_path"
  copy : v.has "backup_path"
  timestamp : ∃ negative, v.get "timestamp" = .real (.infinite negative)

theorem required_table (fields : List (String × Value)) (key : String) :
    required (.table fields) key =
      if (Value.table fields).has key then .ok ((Value.table fields).get key)
      else .error (.missingKey key) := by
  cases h : fields.lookup key <;> simp [required, Value.has, Value.get, h]

theorem required_eq_ok {v x : Value} {key : String} :
    required v key = .ok x ↔ (∃ fields, v = .table fields) ∧ v.has key ∧ v.get key = x := by
  by_cases hv : ∃ fields, v = .table fields
  · obtain ⟨fields, rfl⟩ := hv
    rw [required_table]
    split <;> simp_all
  · have hfault : required v key = .error (.notIndexable v.kind) := by
      unfold required
      split
      · exact absurd ⟨_, rfl⟩ hv
      · rfl
    simp [hfault, hv]

theorem ofValue_eq_ok {v : Value} {e : BackupEntry} : ofValue v = .ok e ↔ e.IsToldBy v := by
  simp only [ofValue, bind_eq_ok, required_eq_ok, pure, Except.pure, Except.ok.injEq]
  constructor
  · rintro ⟨file, ⟨ht, hfile⟩, copy, ⟨-, hcopy⟩, x, ⟨-, hstamp, hx⟩, n, hn, hash, ⟨-, hhash⟩, rfl⟩
    exact ⟨ht, hfile, hcopy, ⟨hstamp, hx ▸ hn⟩, hhash, rfl, rfl⟩
  · intro h
    refine ⟨e.file, ⟨h.table, h.file⟩, e.copy, ⟨h.table, h.copy⟩, _,
      ⟨h.table, h.timestamp.1, rfl⟩, e.timestamp, h.timestamp.2, e.hash, ⟨h.table, h.hash⟩, ?_⟩
    rw [h.reason, h.written]

theorem not_halts_required (v : Value) (key : String) : ¬ Halts (required v key) := by
  unfold required
  split
  · split <;> simp [halts_error, not_halts_ok, BackupIndex.isUnreadable]
  · simp [halts_error, BackupIndex.isUnreadable]

theorem halts_ofValue {v : Value} : Halts (ofValue v) ↔ IsEndless v := by
  simp only [ofValue, halts_bind, not_halts_required, required_eq_ok, halts_toInt, pure,
    Except.pure, not_halts_ok, false_or, and_false, exists_false, or_false]
  constructor
  · rintro ⟨file, ⟨ht, hfile, -⟩, copy, ⟨-, hcopy, -⟩, x, ⟨-, -, hx⟩, negative, hstamp⟩
    exact ⟨ht, hfile, hcopy, negative, hx.trans hstamp⟩
  · intro h
    obtain ⟨negative, hstamp⟩ := h.timestamp
    have hthere : v.has "timestamp" := by
      cases hv : v.has "timestamp" with
      | true => rfl
      | false =>
        rw [get_of_not_has hv] at hstamp
        cases hstamp
    exact ⟨_, ⟨h.table, h.file, rfl⟩, _, ⟨h.table, h.copy, rfl⟩, _, ⟨h.table, hthere, rfl⟩,
      negative, hstamp⟩

end BackupEntry

namespace BackupIndex

open BackupEntry

/-- The records of one file: a list of them, or else a text or a table that has nothing in it. -/
inductive AreToldBy : List BackupEntry → Value → Prop
  | list {es : List BackupEntry} {vs : List Value} :
    List.Forall₂ (fun v e => IsToldBy e v) vs es → AreToldBy es (.list vs)
  | text : AreToldBy [] (.str "")
  | table (form : TableForm) : AreToldBy [] (.tableOf form [])

/-- A document that describes an index: a table, with a table of the records of files in it. Without
the latter the index is empty. -/
structure IsToldBy (index : BackupIndex) (v : Value) : Prop where
  table : ∃ fields, v = .table fields
  absent : v.has "files" = false → index = []
  files : v.has "files" → ∃ files, v.get "files" = .table files ∧
    List.Forall₂ (fun f x => x.1 = f.1 ∧ AreToldBy x.2 f.2) files index

/-- A document that stops the work of who opens it: it is no table, or its files are none, or it has
a timestamp that never comes before anything else that is amiss. -/
inductive Stops : Value → Prop
  | document {v : Value} : (∀ fields, v ≠ .table fields) → Stops v
  | files {fields : List (String × Value)} : (Value.table fields).has "files" →
    (∀ files, (Value.table fields).get "files" ≠ .table files) → Stops (.table fields)
  | timestamp {fields told rest : List (String × Value)} {file : String} {x : Value}
      {before after : List Value} :
    (Value.table fields).get "files" =
      .table (told ++ (file, .list (before ++ x :: after)) :: rest) →
    (∀ f ∈ told, ∃ es, AreToldBy es f.2) → (∀ v ∈ before, ∃ e, BackupEntry.IsToldBy e v) →
    IsEndless x → Stops (.table fields)

theorem entriesOf_eq_ok {v : Value} {es : List BackupEntry} :
    entriesOf v = .ok es ↔ AreToldBy es v := by
  have hstrings {vs : List Value} (hvs : ∀ v ∈ vs, ∃ s, v = .str s) :
      vs.mapM ofValue = .ok es ↔ vs = [] ∧ es = [] := by
    rw [mapM_eq_ok]
    cases vs with
    | nil => simp [List.forall₂_nil_left_iff]
    | cons v vs =>
      obtain ⟨s, rfl⟩ := hvs v List.mem_cons_self
      simp only [List.forall₂_cons_left_iff, ofValue_eq_ok]
      constructor
      · rintro ⟨e, es', he, -⟩
        obtain ⟨fields, hfields⟩ := he.table
        cases hfields
      · rintro ⟨⟨⟩, -⟩
  unfold entriesOf
  rw [bind_eq_ok]
  constructor
  · rintro ⟨vs, hvs, hes⟩
    cases v with
    | list items =>
      cases hvs
      rw [mapM_eq_ok] at hes
      exact .list (hes.imp fun _ _ h => ofValue_eq_ok.1 h)
    | str s =>
      cases hvs
      obtain ⟨hnil, rfl⟩ := (hstrings (by simp)).1 hes
      obtain rfl := Text.eq_empty_of_points (List.map_eq_nil_iff.1 hnil)
      exact .text
    | tableOf form fields =>
      cases hvs
      have hkeys : ∀ v ∈ fields.map fun f => str f.1, ∃ s, v = .str s := by
        intro v hv
        obtain ⟨f, -, rfl⟩ := List.mem_map.1 hv
        exact ⟨f.1, rfl⟩
      obtain ⟨hnil, rfl⟩ := (hstrings hkeys).1 hes
      obtain rfl := List.map_eq_nil_iff.1 hnil
      exact .table form
    | null => cases hvs
    | bool b => cases hvs
    | int n => cases hvs
    | real x => cases hvs
    | moment m => cases hvs
  · intro h
    cases h with
    | list h => exact ⟨_, rfl, mapM_eq_ok.2 (h.imp fun _ _ h => ofValue_eq_ok.2 h)⟩
    | text => exact ⟨[], rfl, rfl⟩
    | table form => exact ⟨[], rfl, rfl⟩

theorem halts_entriesOf {v : Value} :
    Halts (entriesOf v) ↔ ∃ before x after, v = .list (before ++ x :: after) ∧
      (∀ y ∈ before, ∃ e, BackupEntry.IsToldBy e y) ∧ IsEndless x := by
  simp only [entriesOf, halts_bind, not_halts_items, false_or, halts_mapM, ofValue_eq_ok,
    halts_ofValue]
  constructor
  · rintro ⟨vs, hvs, before, x, after, rfl, hbefore, hx⟩
    obtain ⟨fields, rfl⟩ := hx.table
    -- Texts and tables have items too, but no tables among them.
    have htexts (ss : List String) (h : ss.map .str = before ++ .table fields :: after) :
        False := by
      have hmem : Value.table fields ∈ ss.map .str := h ▸ by simp
      obtain ⟨s, -, hs⟩ := List.mem_map.1 hmem
      cases hs
    cases v with
    | list items =>
      cases hvs
      exact ⟨before, _, after, rfl, hbefore, hx⟩
    | str s =>
      refine absurd (Except.ok.inj hvs) fun h =>
        htexts ((Text.points s.toList).map String.ofList) ?_
      rw [← h, List.map_map]
      rfl
    | tableOf form entries =>
      refine absurd (Except.ok.inj hvs) fun h => htexts (entries.map (·.1)) ?_
      rw [← h, List.map_map]
      rfl
    | null => cases hvs
    | bool b => cases hvs
    | int n => cases hvs
    | real x => cases hvs
    | moment m => cases hvs
  · rintro ⟨before, x, after, rfl, hbefore, hx⟩
    exact ⟨_, rfl, before, x, after, rfl, hbefore, hx⟩

theorem filesOf_eq_mapM (files : List (String × Value)) :
    filesOf files = files.mapM fun f => (entriesOf f.2).map (f.1, ·) := by
  induction files with
  | nil => rfl
  | cons f files ih =>
    obtain ⟨k, v⟩ := f
    rw [List.mapM_cons, filesOf, ih]
    cases entriesOf v <;> rfl

theorem filesOf_eq_ok {files : List (String × Value)} {index : BackupIndex} :
    filesOf files = .ok index ↔
      List.Forall₂ (fun f x => x.1 = f.1 ∧ AreToldBy x.2 f.2) files index := by
  have hone (f : String × Value) (x : String × List BackupEntry) :
      (entriesOf f.2).map (f.1, ·) = .ok x ↔ x.1 = f.1 ∧ AreToldBy x.2 f.2 := by
    rw [map_eq_ok]
    constructor
    · rintro ⟨es, hes, rfl⟩
      exact ⟨rfl, entriesOf_eq_ok.1 hes⟩
    · rintro ⟨hkey, hes⟩
      exact ⟨x.2, entriesOf_eq_ok.2 hes, Prod.ext hkey.symm rfl⟩
  simp only [filesOf_eq_mapM, mapM_eq_ok, hone]

theorem halts_filesOf {files : List (String × Value)} :
    Halts (filesOf files) ↔ ∃ told file before x after rest,
      files = told ++ (file, .list (before ++ x :: after)) :: rest ∧
      (∀ f ∈ told, ∃ es, AreToldBy es f.2) ∧ (∀ v ∈ before, ∃ e, BackupEntry.IsToldBy e v) ∧
      IsEndless x := by
  have hone (f : String × Value) : (∃ x, (entriesOf f.2).map (f.1, ·) = .ok x) ↔
      ∃ es, AreToldBy es f.2 := by
    simp only [map_eq_ok, entriesOf_eq_ok]
    constructor
    · rintro ⟨-, es, hes, -⟩
      exact ⟨es, hes⟩
    · rintro ⟨es, hes⟩
      exact ⟨_, es, hes, rfl⟩
  have hmap (f : String × Value) :
      Halts ((entriesOf f.2).map (f.1, ·)) ↔ Halts (entriesOf f.2) := by
    cases entriesOf f.2 <;> simp [Halts, Except.map]
  simp only [filesOf_eq_mapM, halts_mapM, hone, hmap, halts_entriesOf]
  constructor
  · rintro ⟨told, ⟨file, v⟩, rest, rfl, htold, before, x, after, rfl, hbefore, hx⟩
    exact ⟨told, file, before, x, after, rest, rfl, htold, hbefore, hx⟩
  · rintro ⟨told, file, before, x, after, rest, rfl, htold, hbefore, hx⟩
    exact ⟨told, _, rest, rfl, htold, before, x, after, rfl, hbefore, hx⟩

theorem ofManifest_of_not_table {v : Value} (hv : ¬ ∃ fields, v = .table fields) :
    ofManifest v = .error (.noMember v.kind "get") := by
  unfold ofManifest
  split
  · exact absurd ⟨_, rfl⟩ hv
  · rfl

theorem ofManifest_eq_ok {v : Value} {index : BackupIndex} :
    ofManifest v = .ok index ↔ IsToldBy index v := by
  by_cases hv : ∃ fields, v = .table fields
  case neg =>
    rw [ofManifest_of_not_table hv]
    constructor
    · rintro ⟨⟩
    · exact fun h => absurd h.table hv
  obtain ⟨fields, rfl⟩ := hv
  cases hhas : (Value.table fields).has "files" with
  | false =>
    simp only [ofManifest, hhas, Bool.false_eq_true, if_false, filesOf, Except.ok.injEq]
    constructor
    · rintro rfl
      exact ⟨⟨fields, rfl⟩, fun _ => rfl, by simp [hhas]⟩
    · exact fun h => (h.absent hhas).symm
  | true =>
    simp only [ofManifest, hhas, if_true]
    split
    · next files hfiles =>
      rw [filesOf_eq_ok]
      constructor
      · exact fun h => ⟨⟨fields, rfl⟩, by simp [hhas], fun _ => ⟨files, hfiles, h⟩⟩
      · intro h
        obtain ⟨files', hfiles', htold⟩ := h.files hhas
        rw [hfiles] at hfiles'
        cases hfiles'
        exact htold
    · next hfiles =>
      refine ⟨fun h => (by cases h), fun h => ?_⟩
      obtain ⟨files, htable, -⟩ := h.files hhas
      exact absurd htable (hfiles files)

theorem halts_ofManifest {v : Value} : Halts (ofManifest v) ↔ Stops v := by
  by_cases hv : ∃ fields, v = .table fields
  case neg =>
    rw [ofManifest_of_not_table hv, halts_error]
    exact ⟨fun _ => .document fun fields h => hv ⟨fields, h⟩, fun _ => rfl⟩
  obtain ⟨fields, rfl⟩ := hv
  cases hhas : (Value.table fields).has "files" with
  | false =>
    simp only [ofManifest, hhas, Bool.false_eq_true, if_false, filesOf, not_halts_ok, false_iff]
    intro h
    cases h with
    | document hne => exact hne fields rfl
    | files hthere => rw [hhas] at hthere; cases hthere
    | timestamp hfiles => rw [Value.get_of_not_has hhas] at hfiles; cases hfiles
  | true =>
    simp only [ofManifest, hhas, if_true]
    split
    · next files hfiles =>
      rw [halts_filesOf]
      constructor
      · rintro ⟨told, file, before, x, after, rest, rfl, htold, hbefore, hx⟩
        exact .timestamp hfiles htold hbefore hx
      · intro h
        cases h with
        | document hne => exact absurd rfl (hne fields)
        | files _ hne => exact absurd hfiles (hne files)
        | timestamp hfiles' htold hbefore hx =>
          rw [hfiles] at hfiles'
          cases hfiles'
          exact ⟨_, _, _, _, _, _, rfl, htold, hbefore, hx⟩
    · next hfiles =>
      rw [halts_error]
      exact ⟨fun _ => .files hhas fun files h => hfiles files h, fun _ => rfl⟩

end BackupIndex

theorem Path.text_le (p : Path) : p.text.utf8ByteSize ≤ byteSize p + 1 := by
  have hslash : "/".utf8ByteSize = 1 := by decide
  unfold text
  split
  · next h =>
    subst h
    decide
  · rw [String.utf8ByteSize_append, hslash]
    cases p with
    | nil => decide
    | cons n p => rw [← utf8ByteSize_slashed]; omega

namespace Tree

variable {t : Tree}

/-- The way to a path leads by every path above it. -/
theorem walk_split {here p q r : Path} (h : t.walk here (p ++ q) = .ok r) :
    ∃ s, t.walk here p = .ok s ∧ t.walk s q = .ok r := by
  cases hp : t.walk here p with
  | ok s => exact ⟨s, rfl, by rwa [walk_append hp] at h⟩
  | error e =>
    refine absurd h ?_
    clear h
    induction p generalizing here with
    | nil => cases hp
    | cons n p ih =>
      rw [walk] at hp
      rw [List.cons_append, walk]
      split at hp
      · simp
      · simp
      · split at hp
        · next e => rw [if_pos e]; exact ih hp
        · next e =>
          rw [if_neg e]
          split at hp
          · next e => rw [if_pos e]; exact ih hp
          · next e =>
            rw [if_neg e]
            split at hp
            · next e => simp [e]
            · next e => rw [if_neg e]; exact ih hp

/-- What is found in a directory was looked for in one. -/
theorem find_above {p q : Path} {n : String} {node : Option Node}
    (h : t.find (p ++ [n]) = .ok (q, node)) : ∃ r, t.find p = .ok (r, some .directory) := by
  obtain ⟨hp, -⟩ := refusal?_append.1 (refusal?_of_find_ok h)
  obtain ⟨r, hr, hlast⟩ := walk_split (walk_of_find h)
  have hd : t.node? r = some .directory := by
    rw [walk] at hlast
    split at hlast
    · cases hlast
    · cases hlast
    · next hd => exact hd
  have hshort : ¬ maxPathBytes < p.text.utf8ByteSize := by
    have hlong : ¬ maxPathBytes < (Path.text (p ++ [n])).utf8ByteSize := by
      unfold find follow at h
      rw [refusal?_of_find_ok h] at h
      intro hlong
      simp only [if_pos hlong] at h
      cases h
    have h1 := Path.text_le p
    have h2 := Path.byteSize_le_text (p ++ [n])
    rw [Path.byteSize_append] at h2
    simp only [Path.byteSize] at h2
    omega
  unfold find follow
  rw [hp]
  simp only [if_neg hshort, hr, hd]
  exact ⟨r, rfl⟩

theorem ensureDirectory_of_find {p q : Path} (h : t.find p = .ok (q, some .directory)) :
    t.ensureDirectory p = (.ok (), t) := by
  have hmade : t.makeDirectory p = .error ⟨.alreadyThere, p⟩ := by
    unfold makeDirectory
    rw [h]
  have hthere : t.isDirectory p = true := by
    unfold isDirectory
    rw [h]
  unfold ensureDirectory ensureDirectoryFrom
  simp [hmade, hthere]

end Tree

namespace Backups

/-- Whether the bytes of a manifest describe an index. -/
def Describes (bytes : ByteArray) (index : BackupIndex) : Prop :=
  ∃ s v, Text.decode bytes = .ok s ∧ Value.ofJson s.toList = .ok v ∧ index.IsToldBy v

/-- Whether the bytes of a manifest stop who opens the store: its lists and tables lie too deep in
each other, or it is a document that does. -/
def Blocks (bytes : ByteArray) : Prop :=
  ∃ s, Text.decode bytes = .ok s ∧
    ((∃ table, Value.ofJson s.toList = .error (.tooDeep table)) ∨
      ∃ v, Value.ofJson s.toList = .ok v ∧ BackupIndex.Stops v)

/-- A store whose directory is there. -/
def opened (root : Path) (settings : Settings) (name : String) (index : BackupIndex) : Backups :=
  { root, settings, directory := root.join name, available := true, index }

variable {t : Tree} {p q : Path} {bytes : ByteArray}

/-- Reading a manifest that is a file: bytes that are no text and texts that are no document are
passed over. -/
theorem loadIndex_of_file (hf : t.find p = .ok (q, some (.file bytes))) :
    loadIndex t p =
      match Text.decode bytes with
      | .error _ => .ok []
      | .ok s =>
        match Value.ofJson s.toList with
        | .error .malformed => .ok []
        | .error (.tooDeep inTable) => .error (.nestedTooDeep inTable)
        | .ok v =>
          match BackupIndex.ofManifest v with
          | .ok index => .ok index
          | .error f => if BackupIndex.isUnreadable f then .ok [] else .error f := by
  have hexists : t.exists? p = .ok true := Tree.exists?_of_find hf
  have hread : t.read p = .ok bytes := by
    unfold Tree.read
    rw [hf]
  unfold loadIndex Component.readText
  simp only [hexists, hread]
  cases Text.decode bytes <;> rfl

theorem loadIndex_of_described (hf : t.find p = .ok (q, some (.file bytes))) {index : BackupIndex}
    (h : Describes bytes index) : loadIndex t p = .ok index := by
  obtain ⟨s, v, hs, hv, hindex⟩ := h
  simp only [loadIndex_of_file hf, hs, hv, BackupIndex.ofManifest_eq_ok.2 hindex]

theorem loadIndex_of_blocks (hf : t.find p = .ok (q, some (.file bytes))) (h : Blocks bytes) :
    ∃ f, loadIndex t p = .error f := by
  obtain ⟨s, hs, ⟨table, hdeep⟩ | ⟨v, hv, hstops⟩⟩ := h
  · exact ⟨.nestedTooDeep table, by simp only [loadIndex_of_file hf, hs, hdeep]⟩
  · obtain ⟨f, hfault, hunreadable⟩ := BackupIndex.halts_ofManifest.2 hstops
    refine ⟨f, ?_⟩
    simp only [loadIndex_of_file hf, hs, hv, hfault]
    rw [if_neg (by simp [hunreadable])]

theorem loadIndex_of_neither (hf : t.find p = .ok (q, some (.file bytes)))
    (hno : ¬ ∃ index, Describes bytes index) (hfree : ¬ Blocks bytes) :
    loadIndex t p = .ok [] := by
  rw [loadIndex_of_file hf]
  cases hs : Text.decode bytes with
  | error f => rfl
  | ok s =>
    cases hv : Value.ofJson s.toList with
    | error f =>
      cases f with
      | malformed => simp only [hv]
      | tooDeep table => exact absurd ⟨s, hs, .inl ⟨table, hv⟩⟩ hfree
    | ok v =>
      simp only [hv]
      cases hindex : BackupIndex.ofManifest v with
      | ok index => exact absurd ⟨index, s, v, hs, hv, BackupIndex.ofManifest_eq_ok.1 hindex⟩ hno
      | error f =>
        refine if_pos ?_
        cases hunreadable : BackupIndex.isUnreadable f with
        | true => rfl
        | false =>
          have hstops := BackupIndex.halts_ofManifest.1 ⟨f, hindex, hunreadable⟩
          exact absurd ⟨s, hs, .inr ⟨v, hv, hstops⟩⟩ hfree

/-- A manifest that is a file is read where it is, and nothing is made. -/
theorem load_of_file {root : Path} {settings : Settings} {name : String}
    (hname : settings.value "backup_directory" = .str name)
    (hf : t.find (root.join name ++ [manifestName]) = .ok (q, some (.file bytes))) :
    load t root settings =
      (loadIndex t (root.join name ++ [manifestName])).map fun index =>
        (opened root settings name index, t) := by
  obtain ⟨hask, -⟩ := Tree.refusal?_append.1 (Tree.refusal?_of_find_ok hf)
  obtain ⟨r, hr⟩ := Tree.find_above hf
  unfold load
  simp only [hname, checked_eq_ok.2 ⟨hask, rfl⟩, Tree.ensureDirectory_of_find hr, bind,
    Except.bind, pure, Except.pure]
  cases loadIndex t (root.join name ++ [manifestName]) <;> rfl

theorem describes_toManifest {s : String} {index : BackupIndex} (hs : Text.decode bytes = .ok s)
    (hv : Value.ofJson s.toList = .ok (BackupIndex.toManifest index)) : Describes bytes index :=
  ⟨s, _, hs, hv, BackupIndex.ofManifest_eq_ok.1 (ofManifest_toManifest index)⟩

/-- What a store writes describes its index, with halves joined. -/
theorem describes_manifestBytes {b : Backups} {index : BackupIndex} (h : b.IsSound index) :
    Describes (manifestBytes index) index.joined := by
  obtain ⟨hread, hheight⟩ := h.toManifest
  have hdecode : Text.decode (manifestBytes index) =
      .ok (BackupIndex.toManifest index).toLines := by
    simp only [manifestBytes, Text.decode_encode]
  refine describes_toManifest hdecode ?_
  rw [ofJson_toLines hread hheight, h.toManifest_joined]

/-- What opening a store comes to, by the bytes of its manifest. An index that they describe is
there again, and the document and the bytes that the store writes for an index describe it. Other
bytes give the empty index unless they stop the opening; and there is no other fault. -/
theorem load_by_manifest {root : Path} {settings : Settings} {name : String}
    (hname : settings.value "backup_directory" = .str name)
    (hf : t.find (root.join name ++ [manifestName]) = .ok (q, some (.file bytes))) :
    (∀ index, Describes bytes index →
      load t root settings = .ok (opened root settings name index, t)) ∧
    ((¬ ∃ index, Describes bytes index) → ¬ Blocks bytes →
      load t root settings = .ok (opened root settings name [], t)) ∧
    ((∃ f, load t root settings = .error f) ↔ Blocks bytes) ∧
    (∀ s index, Text.decode bytes = .ok s →
      Value.ofJson s.toList = .ok (BackupIndex.toManifest index) → Describes bytes index) ∧
    ∀ (b : Backups) index, b.IsSound index → bytes = manifestBytes index →
      Describes bytes index.joined := by
  have hdescribed (index : BackupIndex) (h : Describes bytes index) :
      load t root settings = .ok (opened root settings name index, t) := by
    rw [load_of_file hname hf, loadIndex_of_described hf h]
    rfl
  have hneither (hno : ¬ ∃ index, Describes bytes index) (hfree : ¬ Blocks bytes) :
      load t root settings = .ok (opened root settings name [], t) := by
    rw [load_of_file hname hf, loadIndex_of_neither hf hno hfree]
    rfl
  refine ⟨hdescribed, hneither, ⟨?_, fun hblocks => ?_⟩, ?_, ?_⟩
  · rintro ⟨f, hfault⟩
    by_contra hfree
    by_cases h : ∃ index, Describes bytes index
    · obtain ⟨index, hindex⟩ := h
      rw [hdescribed index hindex] at hfault
      cases hfault
    · rw [hneither h hfree] at hfault
      cases hfault
  · obtain ⟨f, hfault⟩ := loadIndex_of_blocks hf hblocks
    exact ⟨f, by rw [load_of_file hname hf, hfault]; rfl⟩
  · exact fun s index hs hv => describes_toManifest hs hv
  · rintro b index hsound rfl
    exact describes_manifestBytes hsound

/-- A project without files, whose store has a manifest of the bytes given. -/
def storeTree (manifest : ByteArray) : Tree :=
  ⟨[(["w"], .directory), (["w", ".sourcelens-backups"], .directory),
    (["w", ".sourcelens-backups", "manifest.json"], .file manifest)]⟩

theorem storeTree_find (manifest : ByteArray) :
    (storeTree manifest).find (Path.join ["w"] ".sourcelens-backups" ++ [manifestName]) =
      .ok (["w", ".sourcelens-backups", "manifest.json"], some (.file manifest)) := by
  rfl

/-- The record of one copy, the content of which was written over since. -/
def copiedEntry : BackupEntry where
  file := .str "/w/a.js"
  copy := .str "/w/.sourcelens-backups/a.js.1700000000000.backup"
  timestamp := 1700000000000
  hash := .str "0f773f3b8236c26d"
  reason := .str "style"
  written := .str "80c7c14fc4b20e82"

def copiedIndex : BackupIndex := [("/w/a.js", [copiedEntry])]

theorem copiedIndex_isSound :
    (opened ["w"] Section.modification.defaults ".sourcelens-backups" []).IsSound copiedIndex := by
  have hplace : Path.IsPlace ["w", "a.js"] := by decide
  have hpaired : IsPaired (Path.text ["w", "a.js"]).toList := isPaired_of_notMem (by decide)
  refine (isSound_nil _).assign hplace hpaired (fun e he => ?_) (List.pairwise_singleton _ _)
  obtain rfl := List.mem_singleton.1 he
  refine ⟨by decide +kernel, by decide +kernel, by decide +kernel, ?_, ?_⟩
  · simp [copiedEntry, IsReadable, height]
  · have hplain : ∀ s ∈ ["/w/a.js", "0f773f3b8236c26d", "80c7c14fc4b20e82"],
        (Value.str s).joined = .str s := fun s hs =>
      joined_str (isPaired_of_notMem (by revert s; decide))
    simpa [copiedEntry] using hplain

theorem load_by_manifest_own_and_list :
    Section.modification.defaults.value "backup_directory" = .str ".sourcelens-backups" ∧
    Describes (manifestBytes copiedIndex) copiedIndex ∧ Blocks "[]".toUTF8 ∧
    load (storeTree (manifestBytes copiedIndex)) ["w"] Section.modification.defaults =
      .ok (opened ["w"] Section.modification.defaults ".sourcelens-backups" copiedIndex,
        storeTree (manifestBytes copiedIndex)) ∧
    ∃ f, load (storeTree "[]".toUTF8) ["w"] Section.modification.defaults = .error f := by
  have hname : Section.modification.defaults.value "backup_directory" =
      .str ".sourcelens-backups" := rfl
  have hjoined : copiedIndex.joined = copiedIndex := by
    have hreason : Value.joined (.str "style") = .str "style" :=
      joined_str (isPaired_of_notMem (by decide))
    simp [copiedIndex, BackupIndex.joined, BackupEntry.joined, copiedEntry, hreason]
  have hdescribes : Describes (manifestBytes copiedIndex) copiedIndex := by
    have h := describes_manifestBytes copiedIndex_isSound
    rwa [hjoined] at h
  have hblocks : Blocks "[]".toUTF8 :=
    ⟨"[]", rfl, .inr ⟨.list [], rfl, .document fun fields h => by cases h⟩⟩
  exact ⟨hname, hdescribes, hblocks,
    (load_by_manifest hname (storeTree_find _)).1 _ hdescribes,
    (load_by_manifest hname (storeTree_find _)).2.2.1.2 hblocks⟩

/-- A manifest that is a list stops who opens the store. -/
theorem load_stopped_by_list :
    load (storeTree "[]".toUTF8) ["w"] Section.modification.defaults =
      .error (.noMember "list" "get") := by
  rfl

end Backups

end Restyle
