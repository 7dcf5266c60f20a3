import Restyle.Proofs.LayeredFields

/-!
Settings that are saved are in force when they are read again. On the way to the file settings
without a value are left out, and on the way back each of them is given its default; the two undo
each other since only a setting whose default is no value can be without one.
-/
namespace Restyle

namespace Settings

open Component

variable {s : Section} {u : Settings} {name : String} {v : Value}

/-! ### Settings that a group can have -/

/-- Whether settings are such as come about in a group: with its names, with values that are allowed,
and with a value wherever there is one by default. -/
structure IsFull (s : Section) (u : Settings) : Prop where
  names : u.map (·.1) = s.fields
  allowed : ∀ name v, u.lookup name = some v → allowed name v
  null : ∀ name, u.lookup name = some .null → s.defaults.lookup name = some .null

theorem isFull_defaults (s : Section) : IsFull s s.defaults where
  names := rfl
  allowed := by
    intro name v h
    have hall : ∀ s : Section, ∀ x ∈ s.defaults, Settings.allowed x.1 x.2 := by decide
    exact hall s _ (mem_of_lookup h)
  null _ h := h

theorem nodup_fields (s : Section) : s.fields.Nodup := by
  revert s
  decide

theorem name_ne_of_ne {s s' : Section} (h : s ≠ s') : s.name ≠ s'.name := by
  revert s s'
  decide

theorem mem_names_of_lookup (h : u.lookup name = some v) : name ∈ u.map (·.1) :=
  List.mem_map.2 ⟨_, mem_of_lookup h, rfl⟩

/-- A setting has its value from what is put over the settings, or from before. -/
theorem lookup_apply_cases {values : List (String × Value)}
    (h : (u.apply values).lookup name = some v) :
    (∃ key, (key, v) ∈ values ∧ allowed name v) ∨ u.lookup name = some v := by
  have hname : name ∈ u.map (·.1) := map_fst_apply u values ▸ mem_names_of_lookup h
  rw [lookup_apply u values hname, Option.or_eq_some_iff] at h
  rcases h with h | ⟨-, h⟩
  · left
    obtain ⟨hlookup, hallowed⟩ := Option.filter_eq_some_iff.1 h
    obtain ⟨x, hx, he⟩ := List.mem_map.1 (List.mem_reverse.1 (mem_of_lookup hlookup))
    obtain ⟨-, rfl⟩ := Prod.mk.inj he
    exact ⟨x.1, hx, hallowed⟩
  · exact .inr h

theorem IsFull.apply (h : IsFull s u) {values : List (String × Value)}
    (hvalues : ∀ x ∈ values, x.2 ≠ .null) : IsFull s (u.apply values) where
  names := (map_fst_apply u values).trans h.names
  allowed := by
    intro name v hv
    rcases lookup_apply_cases hv with ⟨key, -, hallowed⟩ | hv
    · exact hallowed
    · exact h.allowed name v hv
  null := by
    intro name hv
    rcases lookup_apply_cases hv with ⟨key, hmem, -⟩ | hv
    · exact absurd rfl (hvalues _ hmem)
    · exact h.null name hv

theorem map_snakeCase_toTable (hnames : u.map (·.1) = s.fields) :
    (u.toTable.map fun x => (snakeCase x.1, x.2)) = u.toTable := by
  rw [List.map_congr_left (g := id), List.map_id]
  intro x hx
  have hname : x.1 ∈ s.fields := by
    rw [← hnames]
    exact List.mem_map_of_mem (List.mem_of_mem_filter hx)
  rw [(snakeCase_spellings hname).1]
  rfl

/-- Whether a value is one. -/
def isValue : Value → Bool
  | .null => false
  | _ => true

theorem isValue_of_ne (h : v ≠ .null) : isValue v := by
  cases v <;> first | rfl | exact absurd rfl h

/-- What is written of settings, put over the defaults, gives a setting the value it had, if that is
one and allowed. -/
theorem lookup_apply_toTable (hnames : u.map (·.1) = s.fields) (hname : name ∈ s.fields) :
    (s.defaults.apply u.toTable).lookup name =
      ((u.lookup name).filter fun v => isValue v && allowed name v).or (s.defaults.lookup name) := by
  have hnodup : (u.map (·.1)).Nodup := hnames ▸ nodup_fields s
  have hnodup' : (u.toTable.map (·.1)).Nodup := hnodup.sublist (List.filter_sublist.map _)
  have htable : u.toTable = u.filter fun x => isValue x.2 := rfl
  rw [lookup_apply s.defaults _ hname, map_snakeCase_toTable hnames, lookup_reverse hnodup', htable,
    lookup_filter hnodup, Option.filter_filter]

/-- What is written of settings gives them again, put over the defaults. -/
theorem IsFull.apply_toTable (h : IsFull s u) : s.defaults.apply u.toTable = u := by
  have hnames : (s.defaults.apply u.toTable).map (·.1) = u.map (·.1) := by
    rw [map_fst_apply, h.names]
    rfl
  have hnodup : (u.map (·.1)).Nodup := h.names ▸ nodup_fields s
  apply eq_of_lookup hnames hnodup
  intro name hname
  obtain ⟨⟨name, v⟩, hmem, rfl⟩ := List.mem_map.1 hname
  have hv : u.lookup name = some v := (mem_iff_lookup hnodup).1 hmem
  rw [lookup_apply_toTable h.names (h.names ▸ hname), hv]
  by_cases hnull : v = .null
  · -- A setting that is left out is one that has no value by default.
    subst hnull
    rw [h.null name hv]
    rfl
  · simp [isValue_of_ne hnull, h.allowed name v hv]

/-! ### Files that are written -/

/-- An entry of a file, whatever way it is written if it is a table. -/
def spread : Value → Value
  | .tableOf _ fields => .table fields
  | v => v

/-- Whether two files have the same under a name. -/
def Agree (name : String) (a b : Toml.Table) : Prop :=
  (a.lookup name).map spread = (b.lookup name).map spread

/-- Whether what is written of tables is read as the same tables. -/
def ReadsBack (lib : Toml.Library) (tables : Toml.Table) : Prop :=
  ∀ text, lib.write tables = .ok text →
    ∃ back, lib.read text = .ok back ∧ ∀ name, Agree name back tables

/-- The characters of what is written of tables. -/
def charsOf (tables : Toml.Table) : Except Toml.Defect (List Char) := do
  let bound := 2 * Value.fieldsHeight tables + 2
  let w ← Toml.writeSettings bound [] tables
  Toml.writeLevels bound w.text w.sections

theorem write_eq_charsOf (tables : Toml.Table) :
    Toml.write tables = (charsOf tables).map String.ofList := by
  unfold Toml.write charsOf
  simp only [bind, Except.bind, pure, Except.pure]
  cases Toml.writeSettings (2 * Value.fieldsHeight tables + 2) [] tables with
  | error d => rfl
  | ok w =>
    simp only
    cases Toml.writeLevels (2 * Value.fieldsHeight tables + 2) w.text w.sections <;> rfl

/-- What is read of a text with these characters. -/
def ofChars (cs : List Char) : Except Toml.Defect Toml.Table := do
  let r ← (← Toml.layout (Toml.plainLines cs)).foldlM Toml.Reading.step .start
  match r.root with
  | .tableOf _ t => return t
  | _ => return []

theorem read_ofList (cs : List Char) : Toml.read (String.ofList cs) = ofChars cs := by
  rw [Toml.read, String.toList_ofList]
  rfl

theorem readsBack_of_round {tables : Toml.Table}
    (h : charsOf tables >>= ofChars = .ok tables) : ReadsBack Toml.library tables := by
  intro text htext
  obtain ⟨cs, hcs, hread⟩ := bind_eq_ok.1 h
  change Toml.write tables = .ok text at htext
  rw [write_eq_charsOf, hcs] at htext
  obtain rfl := Except.ok.inj htext
  exact ⟨tables, (read_ofList cs).trans hread, fun _ => rfl⟩

theorem valuesIn_eq (layer : Toml.Table) (s : Section) :
    valuesIn layer s = match (layer.lookup s.name).map spread with
      | some (.tableOf _ values) => values
      | _ => [] := by
  unfold valuesIn
  cases layer.lookup s.name with
  | none => rfl
  | some v => cases v <;> rfl

theorem Agree.valuesIn_eq {a b : Toml.Table} (h : Agree s.name a b) :
    valuesIn a s = valuesIn b s := by
  rw [Settings.valuesIn_eq, Settings.valuesIn_eq, h]

theorem all_isTable_eq (layer : Toml.Table) (name : String) :
    (layer.lookup name).all Toml.isTable = ((layer.lookup name).map spread).all Toml.isTable := by
  cases layer.lookup name with
  | none => rfl
  | some v => cases v <;> rfl

theorem Agree.all_isTable {a b : Toml.Table} (h : Agree name a b) :
    (a.lookup name).all Toml.isTable = (b.lookup name).all Toml.isTable := by
  rw [all_isTable_eq, all_isTable_eq, h]

/-! ### Saving -/

variable {lib : Toml.Library} {t t' : Tree} {userFile : Path} {values : List (String × Value)}
  {before tables : Toml.Table}

/-- The settings of one group that a file puts into force. -/
def settled (layer : Toml.Table) (s : Section) : Settings := s.defaults.apply (valuesIn layer s)

theorem updatedTables_eq_ok (hbefore : tablesOf lib t userFile = .ok before)
    (h : updatedTables lib t userFile s values = .ok tables) :
    tables = assign s.name (.table ((settled before s).apply values).toTable) before := by
  obtain ⟨full, hfull, h⟩ := bind_eq_ok.1 h
  obtain ⟨current, hcurrent, h⟩ := bind_eq_ok.1 h
  obtain rfl := Except.ok.inj (hbefore.symm.trans hfull)
  obtain ⟨entries, hentries, rfl⟩ := map_eq_ok.1 hcurrent
  rw [inLayer_eq_ok hentries] at h
  exact (Except.ok.inj h).symm

theorem isTable_of_updatedTables (hbefore : tablesOf lib t userFile = .ok before)
    (h : updatedTables lib t userFile s values = .ok tables) :
    (before.lookup s.name).all Toml.isTable := by
  obtain ⟨full, hfull, h⟩ := bind_eq_ok.1 h
  obtain ⟨current, hcurrent, h⟩ := bind_eq_ok.1 h
  obtain rfl := Except.ok.inj (hbefore.symm.trans hfull)
  obtain ⟨entries, hentries, rfl⟩ := map_eq_ok.1 hcurrent
  exact (all_isTable_iff before s.name).2 ((inLayer_ok_iff before s).1 ⟨entries, hentries⟩)

/-- What is saved lies in the file as it was written. -/
theorem save_eq_true (hp : userFile.IsLegible) (h : save lib t userFile s values = (.ok true, t')) :
    ∃ tables text, updatedTables lib t userFile s values = .ok tables ∧
      lib.write tables = .ok text ∧ t'.read userFile = .ok text.toUTF8 := by
  unfold save at h
  split at h
  · cases h
  · next tables htables =>
    split at h
    · cases h
    · split at h
      · cases h
      · next opened hopened =>
        split at h
        · cases h
        · next text htext =>
          obtain ⟨-, rfl⟩ := Prod.mk.inj h
          obtain ⟨-, hplace, hfind⟩ := Tree.write_eq_ok hopened
          have hwrite := Tree.write_of_find hfind hplace text.toUTF8
          refine ⟨tables, text, htables, htext, ?_⟩
          rw [hwrite]
          exact Tree.read_eq_ok.2 (Tree.find_of_write hp hwrite)

theorem exists_of_fst_save (h : (save lib t userFile s values).1 = .ok true) :
    ∃ t', save lib t userFile s values = (.ok true, t') := by
  generalize save lib t userFile s values = saved at h
  obtain ⟨r, t'⟩ := saved
  exact ⟨t', congrArg (·, t') h⟩

theorem readsBack_of_updatedTables
    (h : (updatedTables lib t userFile s values).toOption.all fun tables =>
      charsOf tables >>= ofChars = .ok tables) :
    ∀ tables, updatedTables lib t userFile s values = .ok tables →
      ReadsBack Toml.library tables := by
  intro tables htables
  rw [htables] at h
  exact readsBack_of_round (of_decide_eq_true h)

theorem tablesOf_of_read {text : String} (hread : t.read userFile = .ok text.toUTF8)
    (htables : lib.read text = .ok tables) : tablesOf lib t userFile = .ok tables := by
  have hthere : t.exists? userFile = .ok true := Tree.exists?_of_find (Tree.read_eq_ok.1 hread)
  have htext : readText t userFile = .ok text := by
    simp only [readText, hread, Text.decode_encode]
  simp only [tablesOf, hthere, htext, htables]

theorem of_over_defaults (layer : Toml.Table) (s : Section) :
    (Both.defaults.over layer).of s = settled layer s := by
  rw [of_over, of_defaults, settled]

theorem map_fst_settled (layer : Toml.Table) (s : Section) :
    (settled layer s).map (·.1) = s.fields :=
  map_fst_apply s.defaults _

/-- A user without a project has what the own file puts into force. -/
theorem load_user_eq_ok (hbefore : tablesOf lib t userFile = .ok before) {b : Both} :
    load lib t userFile none .null = .ok b ↔ HasTables before ∧ b = Both.defaults.over before := by
  rw [load_eq_ok]
  constructor
  · rintro ⟨user, huser, own, ⟨⟩, caller, ⟨⟩, htables, rfl⟩
    obtain rfl := Except.ok.inj (hbefore.symm.trans huser)
    exact ⟨htables before List.mem_cons_self, rfl⟩
  · rintro ⟨htables, rfl⟩
    refine ⟨before, hbefore, [], rfl, [], rfl, ?_, rfl⟩
    simpa using htables

/-- What a file says when values of one group were saved in it. -/
structure IsSavedOver (s : Section) (values : List (String × Value)) (before after : Toml.Table) :
    Prop where
  own : (after.lookup s.name).map spread = some (.table ((settled before s).apply values).toTable)
  others : ∀ name, name ≠ s.name → Agree name after before

section IsSavedOver

variable {after : Toml.Table}

/-- What is saved is read again, if what is written is read back. -/
theorem exists_isSavedOver (hp : userFile.IsLegible) (hbefore : tablesOf lib t userFile = .ok before)
    (hback : ∀ tables, updatedTables lib t userFile s values = .ok tables → ReadsBack lib tables)
    (hsave : save lib t userFile s values = (.ok true, t')) :
    ∃ after, tablesOf lib t' userFile = .ok after ∧ IsSavedOver s values before after := by
  obtain ⟨tables, text, hupdated, hwrite, hread⟩ := save_eq_true hp hsave
  obtain ⟨after, hafter, hagree⟩ := hback tables hupdated text hwrite
  obtain rfl := updatedTables_eq_ok hbefore hupdated
  refine ⟨after, tablesOf_of_read hread hafter, ?_, ?_⟩
  · have hlookup := hagree s.name
    unfold Agree at hlookup
    rwa [lookup_assign, if_pos (beq_self_eq_true s.name)] at hlookup
  · intro name hname
    have hlookup := hagree name
    unfold Agree at hlookup ⊢
    rwa [lookup_assign, if_neg (by simpa using hname)] at hlookup

theorem IsSavedOver.valuesIn_own (h : IsSavedOver s values before after) :
    valuesIn after s = ((settled before s).apply values).toTable := by
  rw [valuesIn_eq, h.own]

theorem IsSavedOver.settled_other (h : IsSavedOver s values before after) {other : Section}
    (hne : other ≠ s) : settled after other = settled before other := by
  rw [settled, settled, (h.others other.name (name_ne_of_ne hne)).valuesIn_eq]

theorem IsSavedOver.hasTables_iff (h : IsSavedOver s values before after)
    (hown : (before.lookup s.name).all Toml.isTable) : HasTables after ↔ HasTables before := by
  rw [Settings.hasTables_iff, Settings.hasTables_iff]
  refine forall_congr' fun other => ?_
  by_cases hne : other = s
  · subst hne
    rw [all_isTable_eq, h.own, hown]
    rfl
  · rw [(h.others other.name (name_ne_of_ne hne)).all_isTable]

end IsSavedOver

/-- What is saved is in force when it is read again, if what is written is read back. The other group
stays in force as it was, and what else is in the file stays there. -/
theorem load_saved (hp : userFile.IsLegible) (hbefore : tablesOf lib t userFile = .ok before)
    (htables : HasTables before) (hfile : ∀ x ∈ valuesIn before s, x.2 ≠ .null)
    (hvalues : ∀ x ∈ values, x.2 ≠ .null)
    (hback : ∀ tables, updatedTables lib t userFile s values = .ok tables → ReadsBack lib tables)
    (hsave : save lib t userFile s values = (.ok true, t')) :
    (∃ after, tablesOf lib t' userFile = .ok after ∧
      ∀ name, name ≠ s.name → Agree name after before) ∧
    ∃ b b', load lib t userFile none .null = .ok b ∧ load lib t' userFile none .null = .ok b' ∧
      b'.of s = (b.of s).apply values ∧ ∀ other, other ≠ s → b'.of other = b.of other := by
  obtain ⟨after, hafter, hsaved⟩ := exists_isSavedOver hp hbefore hback hsave
  have htables' : HasTables after :=
    (hsaved.hasTables_iff ((hasTables_iff before).1 htables s)).2 htables
  refine ⟨⟨after, hafter, hsaved.others⟩, _, _, (load_user_eq_ok hbefore).2 ⟨htables, rfl⟩,
    (load_user_eq_ok hafter).2 ⟨htables', rfl⟩, ?_, ?_⟩
  · have hfull : IsFull s ((settled before s).apply values) :=
      ((isFull_defaults s).apply hfile).apply hvalues
    rw [of_over_defaults, of_over_defaults, settled, hsaved.valuesIn_own]
    exact hfull.apply_toTable
  · intro other hne
    rw [of_over_defaults, of_over_defaults, hsaved.settled_other hne]

/-- A user whose settings file has one of the two groups. -/
def userTree : Tree :=
  ⟨[(["home"], .directory),
    (["home", "config.toml"], .file "[resolution]\nmaxDepth = 4\n".toUTF8)]⟩

theorem tablesOf_userTree : tablesOf Toml.library userTree ["home", "config.toml"] =
    .ok [("resolution", .table [("maxDepth", .int 4)])] := by
  decide +kernel

def sheetValues : List (String × Value) :=
  [("classStylesheet", .str "a.css"), ("backup_directory", .str "b")]

theorem load_saved_sheet :
    ∃ t' b b', save Toml.library userTree ["home", "config.toml"] .modification sheetValues =
        (.ok true, t') ∧
      load Toml.library userTree ["home", "config.toml"] none .null = .ok b ∧
      load Toml.library t' ["home", "config.toml"] none .null = .ok b' ∧
      b'.of .modification = (b.of .modification).apply sheetValues ∧
      b'.of .resolution = b.of .resolution := by
  have hp : Path.IsLegible ["home", "config.toml"] :=
    (show Path.IsPlace ["home", "config.toml"] by decide).isPlain.isLegible
  obtain ⟨t', hsave⟩ := exists_of_fst_save (show (save Toml.library userTree ["home", "config.toml"]
    .modification sheetValues).1 = .ok true by decide +kernel)
  have hback := readsBack_of_updatedTables (show (updatedTables Toml.library userTree
    ["home", "config.toml"] .modification sheetValues).toOption.all fun tables =>
      charsOf tables >>= ofChars = .ok tables by decide +kernel)
  obtain ⟨-, b, b', hb, hb', hown, hother⟩ := load_saved hp tablesOf_userTree (by decide)
    (by decide) (by decide) hback hsave
  exact ⟨t', b, b', hsave, hb, hb', hown, hother .resolution (by decide)⟩

end Settings

end Restyle
