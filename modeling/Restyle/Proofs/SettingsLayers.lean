import Restyle.Settings.Files
import Restyle.Proofs.Pairs
import Restyle.Proofs.ReadValue
import Restyle.Proofs.TreeChange

/-!
What settings are in force. A setting has the value that the last layer gives it, and its default
if none does; a file that is missing or breaks the rules is no layer, and a value that is not
allowed is not given. Which files keep the settings from being read at all is told as exactly.
-/
namespace Restyle

namespace Settings

open Component

/-- The tables of a file that can be read as settings. -/
def tables? (lib : Toml.Library) (t : Tree) (p : Path) : Option Toml.Table :=
  match readText t p with
  | .ok s => (lib.read s).toOption
  | .error _ => none

/-- What a layer says of a group of settings; what is no table says nothing. -/
def valuesIn (layer : List (String × Value)) (s : Section) : List (String × Value) :=
  match layer.lookup s.name with
  | some (.tableOf _ values) => values
  | _ => []

/-- The value that a layer gives a setting: of its last entry for the setting, if it is allowed. -/
def given (s : Section) (name : String) (layer : List (String × Value)) : Option Value :=
  (((valuesIn layer s).map fun x => (snakeCase x.1, x.2)).reverse.lookup name).filter (allowed name)

/-- The layer that the caller gives. -/
def overridesOf (v : Value) : List (List (String × Value)) :=
  match v with
  | .table layer => [layer]
  | _ => []

/-- The layers that count: those of the files that can be read, and what the caller gives. -/
def layersOf (lib : Toml.Library) (t : Tree) (userFile : Path) (project : Option Path)
    (overrides : Value) : List (List (String × Value)) :=
  (tables? lib t userFile).toList ++
    (project.bind fun root => tables? lib t (root ++ [projectFileName])).toList ++
    overridesOf overrides

def Both.of (b : Both) : Section → Settings
  | .resolution => b.resolution
  | .modification => b.modification

/-- Whether each group that a layer speaks of is a table there. -/
def HasTables (layer : List (String × Value)) : Prop :=
  ∀ (s : Section) v, layer.lookup s.name = some v → ∃ form values, v = .tableOf form values

instance {p : Section → Prop} [DecidablePred p] : Decidable (∀ s, p s) :=
  decidable_of_iff (p .resolution ∧ p .modification)
    ⟨fun h s => by cases s with
      | resolution => exact h.1
      | modification => exact h.2, fun h => ⟨h _, h _⟩⟩

theorem all_isTable_iff (layer : List (String × Value)) (name : String) :
    (layer.lookup name).all Toml.isTable ↔
      ∀ v, layer.lookup name = some v → ∃ form values, v = .tableOf form values := by
  cases layer.lookup name with
  | none => simp
  | some v => cases v <;> simp [Toml.isTable]

theorem hasTables_iff (layer : List (String × Value)) :
    HasTables layer ↔ ∀ s : Section, (layer.lookup s.name).all Toml.isTable :=
  forall_congr' fun s => (all_isTable_iff layer s.name).symm

instance (layer : List (String × Value)) : Decidable (HasTables layer) :=
  decidable_of_iff' _ (hasTables_iff layer)

/-- Whether a path keeps no one from reading settings: it is short enough, and what lies there is no
file, or a text that is read to its end or breaks the rules, with tables for the groups. -/
structure IsPassable (lib : Toml.Library) (t : Tree) (p : Path) : Prop where
  short : ∀ e, t.find p = .error e → e.refusal ≠ .nameTooLong
  text : ∀ bytes, t.read p = .ok bytes → ∃ s, Text.decode bytes = .ok s
  whole : ∀ s d, readText t p = .ok s → lib.read s = .error d → d = .malformed
  tables : ∀ tables, tables? lib t p = some tables → HasTables tables

/-! ### One layer -/

theorem mem_fields_of_accepted {fields : List String} {values : List (String × Value)}
    {x : String × Value} (h : x ∈ accepted fields values) : x.1 ∈ fields := by
  have hknown := mem_of_mem_ofPairs (List.mem_filter.1 h).1
  simpa using (List.mem_filter.1 hknown).2

/-- Settings keep their names and the order of them. -/
theorem map_fst_apply (s : Settings) (values : List (String × Value)) :
    (s.apply values).map (·.1) = s.map (·.1) :=
  map_fst_foldl_assign fun _ hx => mem_fields_of_accepted hx

/-- A setting takes the last value given for its name, if that is allowed. -/
theorem lookup_apply (s : Settings) (values : List (String × Value)) {name : String}
    (hname : name ∈ s.map (·.1)) :
    (s.apply values).lookup name =
      (((values.map fun x => (snakeCase x.1, x.2)).reverse.lookup name).filter (allowed name)).or
        (s.lookup name) := by
  have hkeys : ((accepted (s.map (·.1)) values).map (·.1)).Nodup :=
    (nodup_ofPairs _).sublist (List.filter_sublist.map _)
  have happly : s.apply values =
      (accepted (s.map (·.1)) values).foldl (fun m x => assign x.1 x.2 m) s := rfl
  have hknown : (known (s.map (·.1)) values).lookup name =
      (values.map fun x => (snakeCase x.1, x.2)).reverse.lookup name := by
    have hlast := lookup_ofPairs ((values.map fun x => (snakeCase x.1, x.2)).filter
      fun x => (s.map (·.1)).contains x.1) name
    rw [← List.filter_reverse, lookup_filter_fst (by simpa using hname)] at hlast
    exact hlast
  have hallowed : (accepted (s.map (·.1)) values).lookup name =
      ((known (s.map (·.1)) values).lookup name).filter (allowed name) :=
    lookup_filter (nodup_ofPairs _) (fun x => allowed x.1 x.2) name
  rw [happly, lookup_foldl_assign, lookup_reverse hkeys, hallowed, hknown]

/-! ### All layers -/

/-- Puts a layer over the settings, as far as it gives any. -/
def Both.over (b : Both) (layer : List (String × Value)) : Both :=
  ⟨b.resolution.apply (valuesIn layer .resolution),
    b.modification.apply (valuesIn layer .modification)⟩

theorem of_over (b : Both) (layer : List (String × Value)) (s : Section) :
    (b.over layer).of s = (b.of s).apply (valuesIn layer s) := by
  cases s <;> rfl

/-- The layers one over the other: names stay, and a setting has the last value given. -/
theorem of_layers (layers : List (List (String × Value))) (b : Both) (s : Section) :
    ((layers.foldl Both.over b).of s).map (·.1) = (b.of s).map (·.1) ∧
      ∀ name ∈ (b.of s).map (·.1), ((layers.foldl Both.over b).of s).value name =
        ((layers.filterMap (given s name)).getLast?).getD ((b.of s).value name) := by
  induction layers generalizing b with
  | nil => simp
  | cons layer layers ih =>
    obtain ⟨hnames, hvalues⟩ := ih (b.over layer)
    rw [of_over, map_fst_apply] at hnames
    refine ⟨hnames, fun name hname => ?_⟩
    have hlast := hvalues name (by rwa [of_over, map_fst_apply])
    have hvalue : ((b.over layer).of s).value name =
        (given s name layer).getD ((b.of s).value name) := by
      unfold value given
      rw [of_over, lookup_apply _ _ hname]
      cases Option.filter (allowed name) _ <;> rfl
    rw [List.foldl_cons, hlast, hvalue, List.filterMap_cons]
    cases given s name layer with
    | none => rfl
    | some v =>
      rw [List.getLast?_cons]
      rfl

theorem inLayer_ok_iff (layer : List (String × Value)) (s : Section) :
    (∃ values, inLayer layer s = .ok values) ↔
      ∀ v, layer.lookup s.name = some v → ∃ form values, v = .tableOf form values := by
  unfold inLayer
  split
  · next h => simp [h]
  · next form values h => simp [h]
  · next v hne h =>
    constructor
    · rintro ⟨values, ⟨⟩⟩
    · intro htable
      obtain ⟨form, values, rfl⟩ := htable v h
      exact absurd rfl (hne form values)

theorem inLayer_eq_ok {layer values : List (String × Value)} {s : Section}
    (h : inLayer layer s = .ok values) : values = valuesIn layer s := by
  unfold inLayer at h
  unfold valuesIn
  split at h
  · next hl =>
    cases h
    simp [hl]
  · next hl =>
    cases h
    simp [hl]
  · cases h

theorem applyLayer_eq_ok {b b' : Both} {layer : List (String × Value)} :
    applyLayer b layer = .ok b' ↔ HasTables layer ∧ b' = b.over layer := by
  simp only [applyLayer, bind_eq_ok, pure, Except.pure, Except.ok.injEq]
  constructor
  · rintro ⟨r, hr, m, hm, rfl⟩
    refine ⟨fun s => ?_, by rw [inLayer_eq_ok hr, inLayer_eq_ok hm]; rfl⟩
    cases s with
    | resolution => exact (inLayer_ok_iff layer .resolution).1 ⟨r, hr⟩
    | modification => exact (inLayer_ok_iff layer .modification).1 ⟨m, hm⟩
  · rintro ⟨htables, rfl⟩
    obtain ⟨r, hr⟩ := (inLayer_ok_iff layer .resolution).2 (htables .resolution)
    obtain ⟨m, hm⟩ := (inLayer_ok_iff layer .modification).2 (htables .modification)
    refine ⟨r, hr, m, hm, ?_⟩
    rw [inLayer_eq_ok hr, inLayer_eq_ok hm]
    rfl

theorem applyLayers_eq_ok {b b' : Both} {layers : List (List (String × Value))} :
    applyLayers b layers = .ok b' ↔
      (∀ layer ∈ layers, HasTables layer) ∧ b' = layers.foldl Both.over b := by
  induction layers generalizing b with
  | nil => simp [applyLayers, eq_comm]
  | cons layer layers ih =>
    simp only [applyLayers, bind_eq_ok, applyLayer_eq_ok, ih, List.forall_mem_cons, List.foldl_cons]
    constructor
    · rintro ⟨_, ⟨hlayer, rfl⟩, hlayers, rfl⟩
      exact ⟨⟨hlayer, hlayers⟩, rfl⟩
    · rintro ⟨⟨hlayer, hlayers⟩, rfl⟩
      exact ⟨_, ⟨hlayer, rfl⟩, hlayers, rfl⟩

/-! ### Files -/

theorem exists?_eq_ok {t : Tree} {p : Path} :
    (∃ there, t.exists? p = .ok there) ↔ ∀ e, t.find p = .error e → e.refusal ≠ .nameTooLong := by
  unfold Tree.exists?
  cases h : t.find p with
  | ok found => simp
  | error e => by_cases hlong : e.refusal = .nameTooLong <;> simp [hlong]

/-- A file that is no layer is taken for one that says nothing. -/
theorem tablesOf_eq_ok {lib : Toml.Library} {t : Tree} {p : Path} {tables : Toml.Table} :
    tablesOf lib t p = .ok tables ↔
      (∀ e, t.find p = .error e → e.refusal ≠ .nameTooLong) ∧
      (∀ bytes, t.read p = .ok bytes → ∃ s, Text.decode bytes = .ok s) ∧
      (∀ s d, readText t p = .ok s → lib.read s = .error d → d = .malformed) ∧
      tables = (tables? lib t p).getD [] := by
  cases hread : t.read p with
  | error e =>
    have htext : readText t p = .error (.tree e) := by simp only [readText, hread]
    rw [← exists?_eq_ok]
    cases hthere : t.exists? p with
    | error e => simp [tablesOf, hthere]
    | ok there => cases there <;> simp [tablesOf, hthere, htext, tables?, eq_comm]
  | ok bytes =>
    have hfind := Tree.read_eq_ok.1 hread
    have hthere : t.exists? p = .ok true := Tree.exists?_of_find hfind
    cases hdecode : Text.decode bytes with
    | error f => simp [tablesOf, hthere, readText, hread, hdecode]
    | ok s =>
      have htext : readText t p = .ok s := by simp only [readText, hread, hdecode]
      have hwhole : (∀ s d, readText t p = .ok s → lib.read s = .error d → d = .malformed) ↔
          ∀ d, lib.read s = .error d → d = .malformed := by
        rw [htext]
        exact ⟨fun h d hd => h s d rfl hd, fun h s' d hs hd => h d (Except.ok.inj hs ▸ hd)⟩
      have hnamed : ∀ e, t.find p = .error e → e.refusal ≠ .nameTooLong := by simp [hfind]
      rw [hwhole, iff_true_intro hnamed]
      cases htables : lib.read s with
      | ok tables' => simp [tablesOf, hthere, htext, hdecode, htables, tables?, Except.toOption,
          eq_comm]
      | error d => cases d <;> simp [tablesOf, hthere, htext, hdecode, htables, tables?,
          Except.toOption, eq_comm]

theorem hasTables_nil : HasTables [] := by
  rintro s v ⟨⟩

/-- A path keeps no one from reading settings if it gives a layer that does not. -/
theorem isPassable_iff (lib : Toml.Library) (t : Tree) (p : Path) :
    IsPassable lib t p ↔ ∃ tables, tablesOf lib t p = .ok tables ∧ HasTables tables := by
  simp only [tablesOf_eq_ok]
  constructor
  · intro h
    refine ⟨_, ⟨h.short, h.text, h.whole, rfl⟩, ?_⟩
    cases htables : tables? lib t p with
    | none => exact hasTables_nil
    | some tables => exact h.tables tables htables
  · rintro ⟨_, ⟨hshort, htext, hwhole, rfl⟩, htables⟩
    refine ⟨hshort, htext, hwhole, fun tables h => ?_⟩
    rw [h] at htables
    exact htables

theorem overrideLayer_ok_iff (v : Value) :
    (∃ layers, overrideLayer v = .ok layers ∧ ∀ layer ∈ layers, HasTables layer) ↔
      (v.isTruthy → ∃ layer, v = .table layer ∧ HasTables layer) := by
  unfold overrideLayer
  cases h : v.isTruthy with
  | false => simp
  | true =>
    simp only [if_true, forall_const]
    split
    · simp
    · next hne =>
      constructor
      · rintro ⟨layers, ⟨⟩, -⟩
      · rintro ⟨layer, hv, -⟩
        exact absurd hv (hne layer)

/-! ### What the layers give -/

theorem over_nil (b : Both) : b.over [] = b := rfl

theorem foldl_over_getD (tables : Option Toml.Table) (b : Both) :
    [tables.getD []].foldl Both.over b = tables.toList.foldl Both.over b := by
  cases tables <;> rfl

/-- A caller who says nothing changes nothing. -/
theorem foldl_over_overrideLayer {v : Value} {layers : List (List (String × Value))}
    (h : overrideLayer v = .ok layers) (b : Both) :
    layers.foldl Both.over b = (overridesOf v).foldl Both.over b := by
  unfold overrideLayer at h
  split at h
  · split at h
    · cases h
      rfl
    · cases h
  · next hsilent =>
    cases h
    unfold overridesOf
    split
    · next layer =>
      cases layer with
      | nil => exact (over_nil b).symm
      | cons x layer => exact absurd rfl hsilent
    · rfl

/-- The layer of the project's own file, if settings are read for a project. -/
def ownLayer (lib : Toml.Library) (t : Tree) (project : Option Path) :
    Except Fault (List Toml.Table) :=
  match project with
  | none => .ok []
  | some root => (tablesOf lib t (root ++ [projectFileName])).map fun l => [l]

theorem ownLayer_ok_iff (lib : Toml.Library) (t : Tree) (project : Option Path) :
    (∃ layers, ownLayer lib t project = .ok layers ∧ ∀ layer ∈ layers, HasTables layer) ↔
      ∀ root, project = some root → IsPassable lib t (root ++ [projectFileName]) := by
  cases project with
  | none => simp [ownLayer]
  | some root =>
    simp only [ownLayer, map_eq_ok, Option.some.injEq, forall_eq', isPassable_iff]
    constructor
    · rintro ⟨_, ⟨tables, htables, rfl⟩, hlayers⟩
      exact ⟨tables, htables, hlayers tables List.mem_cons_self⟩
    · rintro ⟨tables, htables, hlayer⟩
      exact ⟨_, ⟨tables, htables, rfl⟩, by simpa using hlayer⟩

theorem foldl_over_ownLayer {lib : Toml.Library} {t : Tree} {project : Option Path}
    {layers : List Toml.Table} (h : ownLayer lib t project = .ok layers) (b : Both) :
    layers.foldl Both.over b =
      (project.bind fun root => tables? lib t (root ++ [projectFileName])).toList.foldl Both.over
        b := by
  cases project with
  | none =>
    cases h
    rfl
  | some root =>
    obtain ⟨tables, htables, rfl⟩ := map_eq_ok.1 h
    obtain ⟨-, -, -, rfl⟩ := tablesOf_eq_ok.1 htables
    exact foldl_over_getD _ b

theorem load_eq_ok {lib : Toml.Library} {t : Tree} {userFile : Path} {project : Option Path}
    {overrides : Value} {b : Both} :
    load lib t userFile project overrides = .ok b ↔
      ∃ user, tablesOf lib t userFile = .ok user ∧ ∃ own, ownLayer lib t project = .ok own ∧
        ∃ caller, overrideLayer overrides = .ok caller ∧
          (∀ layer ∈ user :: own ++ caller, HasTables layer) ∧
          b = (user :: own ++ caller).foldl Both.over .defaults := by
  have hload : load lib t userFile project overrides = (do
      let user ← tablesOf lib t userFile
      let own ← ownLayer lib t project
      let caller ← overrideLayer overrides
      applyLayers .defaults (user :: own ++ caller)) := by
    cases project <;> rfl
  simp only [hload, bind_eq_ok, applyLayers_eq_ok]

theorem load_ok_iff (lib : Toml.Library) (t : Tree) (userFile : Path) (project : Option Path)
    (overrides : Value) :
    (∃ b, load lib t userFile project overrides = .ok b) ↔
      IsPassable lib t userFile ∧
      (∀ root, project = some root → IsPassable lib t (root ++ [projectFileName])) ∧
      (overrides.isTruthy → ∃ layer, overrides = .table layer ∧ HasTables layer) := by
  rw [isPassable_iff, ← ownLayer_ok_iff, ← overrideLayer_ok_iff]
  simp only [load_eq_ok, List.cons_append, List.forall_mem_cons, List.forall_mem_append]
  constructor
  · rintro ⟨_, user, huser, own, hown, caller, hcaller, ⟨hu, ho, hc⟩, rfl⟩
    exact ⟨⟨user, huser, hu⟩, ⟨own, hown, ho⟩, caller, hcaller, hc⟩
  · rintro ⟨⟨user, huser, hu⟩, ⟨own, hown, ho⟩, caller, hcaller, hc⟩
    exact ⟨_, user, huser, own, hown, caller, hcaller, ⟨hu, ho, hc⟩, rfl⟩

/-- What is read is the defaults with the layers that count over them. -/
theorem eq_of_load {lib : Toml.Library} {t : Tree} {userFile : Path} {project : Option Path}
    {overrides : Value} {b : Both} (h : load lib t userFile project overrides = .ok b) :
    b = (layersOf lib t userFile project overrides).foldl Both.over .defaults := by
  obtain ⟨user, huser, own, hown, caller, hcaller, -, rfl⟩ := load_eq_ok.1 h
  obtain ⟨-, -, -, rfl⟩ := tablesOf_eq_ok.1 huser
  have hsplit : (tables? lib t userFile).getD [] :: own ++ caller =
      [(tables? lib t userFile).getD []] ++ own ++ caller := rfl
  simp only [hsplit, layersOf, List.foldl_append, foldl_over_getD, foldl_over_ownLayer hown,
    foldl_over_overrideLayer hcaller]

theorem of_defaults (s : Section) : Both.defaults.of s = s.defaults := by
  cases s <;> rfl

/-- The settings are read if nothing keeps one from reading them, and a setting has the last value
that a layer gives it, and else its default. -/
theorem load_by_layers (lib : Toml.Library) (t : Tree) (userFile : Path) (project : Option Path)
    (overrides : Value) :
    ((∃ b, load lib t userFile project overrides = .ok b) ↔
      IsPassable lib t userFile ∧
      (∀ root, project = some root → IsPassable lib t (root ++ [projectFileName])) ∧
      (overrides.isTruthy → ∃ layer, overrides = .table layer ∧ HasTables layer)) ∧
    ∀ b, load lib t userFile project overrides = .ok b → ∀ s,
      (b.of s).map (·.1) = s.fields ∧
      ∀ name ∈ s.fields, (b.of s).value name =
        (((layersOf lib t userFile project overrides).filterMap (given s name)).getLast?).getD
          (s.defaults.value name) := by
  refine ⟨load_ok_iff lib t userFile project overrides, fun b h s => ?_⟩
  obtain rfl := eq_of_load h
  have hof := of_layers (layersOf lib t userFile project overrides) .defaults s
  rwa [of_defaults] at hof

/-- A project whose own settings file has the bytes given. -/
def settingsTree (bytes : ByteArray) : Tree :=
  ⟨[(["w"], .directory), (["w", projectFileName], .file bytes)]⟩

/-- The fault that reading settings ends in. -/
def faultOf : Except Fault Both → Option Fault
  | .ok _ => none
  | .error f => some f

theorem eq_error_of_faultOf {x : Except Fault Both} {f : Fault} (h : faultOf x = some f) :
    x = .error f := by
  cases x with
  | ok b => cases h
  | error f' => exact congrArg Except.error (Option.some.inj h)

/-- A settings file that is no text, and one that has a number for a group, keep the settings from
being read. -/
theorem load_stopped :
    load Toml.library (settingsTree ⟨#[0xFF]⟩) ["home", "config.toml"] (some ["w"]) .null =
      .error (.undecodable (.badStart 0xFF 0)) ∧
    load Toml.library (settingsTree "resolution=5".toUTF8) ["home", "config.toml"] (some ["w"])
      .null = .error (.noMember "int" "items") :=
  ⟨eq_error_of_faultOf (by decide +kernel), eq_error_of_faultOf (by decide +kernel)⟩

end Settings

end Restyle
