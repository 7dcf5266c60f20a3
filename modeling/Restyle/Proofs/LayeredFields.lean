import Restyle.Proofs.SettingsLayers

/-!
Settings are layered field by field. The value in force is that of the last layer which gives the
setting one that is allowed; what else stands in a layer, a key that names no setting or a value that
is not allowed, might as well not be there.
-/
namespace Restyle

namespace Settings

open Component

variable {s : Section} {name : String} {v : Value}

/-- Whether no two keys of a layer name the same setting. -/
def NamesOnce (layer : List (String × Value)) : Prop :=
  ∀ s, (valuesIn layer s).Pairwise fun x y =>
    snakeCase x.1 ∈ s.fields → snakeCase x.1 ≠ snakeCase y.1

instance (layer : List (String × Value)) : Decidable (NamesOnce layer) :=
  inferInstanceAs (Decidable (∀ s, (valuesIn layer s).Pairwise _))

/-- Whether a layer gives a setting an allowed value, in whatever spelling. -/
def Gives (s : Section) (name : String) (layer : List (String × Value)) (v : Value) : Prop :=
  ∃ key, (key, v) ∈ valuesIn layer s ∧ snakeCase key = name ∧ allowed name v

/-- The value in force for a setting under layers, the last of which counts most. -/
inductive IsInForce (s : Section) (name : String) (layers : List (List (String × Value))) :
    Value → Prop
  | last {before layer after v} (hlayers : layers = before ++ layer :: after)
    (hgives : Gives s name layer v) (hlast : ∀ later ∈ after, ∀ w, ¬ Gives s name later w) :
    IsInForce s name layers v
  | default (hnone : ∀ layer ∈ layers, ∀ w, ¬ Gives s name layer w) :
    IsInForce s name layers (s.defaults.value name)

/-- Whether an entry of a group names a setting of it and has a value allowed for it. -/
def counts (s : Section) (x : String × Value) : Bool :=
  s.fields.contains (snakeCase x.1) && allowed (snakeCase x.1) x.2

/-- A layer without what does not count. -/
def essence (layer : List (String × Value)) : List (String × Value) :=
  [Section.resolution, .modification].map fun s =>
    (s.name, .table ((valuesIn layer s).filter (counts s)))

/-- A capital in place of each underscore and the letter behind it. -/
def humps : List Char → List Char
  | '_' :: c :: rest => c.toUpper :: humps rest
  | c :: rest => c :: humps rest
  | [] => []

/-- Both spellings of a setting name it: with underscores, and with capitals. -/
theorem snakeCase_spellings (hname : name ∈ s.fields) :
    snakeCase name = name ∧ snakeCase (String.ofList (humps name.toList)) = name := by
  have hall : ∀ s : Section, ∀ name ∈ s.fields, snakeCase name = name ∧
      snakeCase (String.ofList (humps name.toList)) = name := by
    decide +kernel
  exact hall s name hname

/-! ### One layer -/

/-- The entries of a layer that name a setting of a group, by the names of the settings. -/
def named (s : Section) (layer : List (String × Value)) : List (String × Value) :=
  ((valuesIn layer s).map fun x => (snakeCase x.1, x.2)).filter fun x => s.fields.contains x.1

variable {layer : List (String × Value)}

theorem NamesOnce.nodup_named (h : NamesOnce layer) (s : Section) :
    ((named s layer).map (·.1)).Nodup := by
  rw [List.Nodup, List.pairwise_map, named, List.pairwise_filter, List.pairwise_map]
  refine (h s).imp fun {x y} hne hx _ => ?_
  exact hne (by simpa using hx)

theorem mem_named_iff (hname : name ∈ s.fields) :
    (name, v) ∈ named s layer ↔ ∃ key, (key, v) ∈ valuesIn layer s ∧ snakeCase key = name := by
  simp [named, hname]

/-- Where no two keys name the same setting, what a layer gives is what it says. -/
theorem NamesOnce.given_eq_some_iff (h : NamesOnce layer) (hname : name ∈ s.fields) :
    given s name layer = some v ↔ Gives s name layer v := by
  have hlookup : ((valuesIn layer s).map fun x => (snakeCase x.1, x.2)).reverse.lookup name =
      (named s layer).lookup name := by
    rw [← lookup_reverse (h.nodup_named s), named, ← List.filter_reverse,
      lookup_filter_fst (by simpa using hname)]
  rw [given, hlookup, Option.filter_eq_some_iff, ← mem_iff_lookup (h.nodup_named s),
    mem_named_iff hname]
  constructor
  · rintro ⟨⟨key, hmem, hkey⟩, hallowed⟩
    exact ⟨key, hmem, hkey, hallowed⟩
  · rintro ⟨key, hmem, hkey, hallowed⟩
    exact ⟨⟨key, hmem, hkey⟩, hallowed⟩

theorem valuesIn_essence (layer : List (String × Value)) (s : Section) :
    valuesIn (essence layer) s = (valuesIn layer s).filter (counts s) := by
  cases s <;> rfl

theorem hasTables_essence (layer : List (String × Value)) : HasTables (essence layer) := by
  intro s v hv
  cases s with
  | resolution => exact ⟨.spread, _, (Option.some.inj hv).symm⟩
  | modification => exact ⟨.spread, _, (Option.some.inj hv).symm⟩

/-- What does not count is not accepted either. -/
theorem NamesOnce.accepted_essence (h : NamesOnce layer) (s : Section) :
    accepted s.fields (valuesIn (essence layer) s) = accepted s.fields (valuesIn layer s) := by
  have hleft : named s (essence layer) = (named s layer).filter fun x => allowed x.1 x.2 := by
    rw [named, valuesIn_essence, named, List.filter_map, List.filter_map, List.filter_map,
      List.filter_filter, List.filter_filter]
    congr 2
    funext x
    simp only [counts, Function.comp]
    cases s.fields.contains (snakeCase x.1) <;> cases allowed (snakeCase x.1) x.2 <;> rfl
  have hnodup := h.nodup_named s
  have hnodup' : (((named s layer).filter fun x => allowed x.1 x.2).map (·.1)).Nodup :=
    hnodup.sublist (List.filter_sublist.map _)
  change (ofPairs (named s (essence layer))).filter _ = (ofPairs (named s layer)).filter _
  rw [hleft, ofPairs_of_nodup hnodup', ofPairs_of_nodup hnodup, List.filter_filter]
  congr 1
  funext x
  exact Bool.and_self _

/-! ### All layers -/

variable {layers : List (List (String × Value))}

theorem NamesOnce.given_eq_none_iff (h : NamesOnce layer) (hname : name ∈ s.fields) :
    given s name layer = none ↔ ∀ w, ¬ Gives s name layer w := by
  rw [Option.eq_none_iff_forall_ne_some]
  exact forall_congr' fun w => not_congr (h.given_eq_some_iff hname)

/-- The value in force is the last one given. -/
theorem IsInForce.getD_eq (h : IsInForce s name layers v)
    (honce : ∀ layer ∈ layers, NamesOnce layer) (hname : name ∈ s.fields) :
    ((layers.filterMap (given s name)).getLast?).getD (s.defaults.value name) = v := by
  cases h with
  | @last before layer after v hlayers hgives hlast =>
    subst hlayers
    have hv : given s name layer = some v :=
      ((honce layer (by simp)).given_eq_some_iff hname).2 hgives
    have hafter : after.filterMap (given s name) = [] := by
      rw [List.filterMap_eq_nil_iff]
      intro later hlater
      exact ((honce later (by simp [hlater])).given_eq_none_iff hname).2 (hlast later hlater)
    rw [List.filterMap_append, List.filterMap_cons, hv, hafter, List.getLast?_concat]
    rfl
  | default hnone =>
    have hall : layers.filterMap (given s name) = [] := by
      rw [List.filterMap_eq_nil_iff]
      intro layer hlayer
      exact ((honce layer hlayer).given_eq_none_iff hname).2 (hnone layer hlayer)
    rw [hall]
    rfl

theorem isInForce_getD (honce : ∀ layer ∈ layers, NamesOnce layer) (hname : name ∈ s.fields) :
    IsInForce s name layers
      (((layers.filterMap (given s name)).getLast?).getD (s.defaults.value name)) := by
  rw [List.getLast?_filterMap]
  cases hlast : layers.reverse.findSome? (given s name) with
  | none =>
    rw [List.findSome?_eq_none_iff] at hlast
    apply IsInForce.default
    intro layer hlayer
    exact ((honce layer hlayer).given_eq_none_iff hname).1 (hlast layer (by simpa using hlayer))
  | some v =>
    obtain ⟨after, layer, before, hsplit, hv, hafter⟩ := List.findSome?_eq_some_iff.1 hlast
    have hlayers : layers = before.reverse ++ layer :: after.reverse := by
      rw [← List.reverse_reverse layers, hsplit]
      simp
    refine .last hlayers ?_ fun later hlater => ?_
    · exact ((honce layer (by simp [hlayers])).given_eq_some_iff hname).1 hv
    · have hlater' : later ∈ after := List.mem_reverse.1 hlater
      exact ((honce later (by simp [hlayers, hlater'])).given_eq_none_iff hname).1
        (hafter later hlater')

theorem apply_essence (h : NamesOnce layer) {settings : Settings}
    (hnames : settings.map (·.1) = s.fields) :
    settings.apply (valuesIn (essence layer) s) = settings.apply (valuesIn layer s) := by
  unfold apply
  rw [hnames, h.accepted_essence s]

/-- Without what does not count in them the layers come to the same. -/
theorem foldl_over_essence {b : Both} (honce : ∀ layer ∈ layers, NamesOnce layer)
    (hnames : ∀ s, (b.of s).map (·.1) = s.fields) :
    (layers.map essence).foldl Both.over b = layers.foldl Both.over b := by
  induction layers generalizing b with
  | nil => rfl
  | cons layer layers ih =>
    have hof (s : Section) : (b.over (essence layer)).of s = (b.over layer).of s := by
      rw [of_over, of_over, apply_essence (honce layer List.mem_cons_self) (hnames s)]
    have hlayer : b.over (essence layer) = b.over layer :=
      congrArg₂ Both.mk (hof .resolution) (hof .modification)
    rw [List.map_cons, List.foldl_cons, List.foldl_cons, hlayer]
    apply ih fun later hlater => honce later (List.mem_cons_of_mem _ hlater)
    intro s
    rw [of_over, map_fst_apply, hnames]

/-- Where each layer names a setting once at most, settings are read, and each has the value that the
last layer which gives it an allowed one gives it, and its default if there is none. They are the same
without the entries that name no setting or have a value that is not allowed. -/
theorem load_per_field (lib : Toml.Library) (t : Tree) (userFile : Path) (project : Option Path)
    (overrides : Value)
    (huser : IsPassable lib t userFile)
    (hproject : ∀ root, project = some root → IsPassable lib t (root ++ [projectFileName]))
    (hgiven : overrides.isTruthy → ∃ layer, overrides = .table layer ∧ HasTables layer)
    (honce : ∀ layer ∈ layersOf lib t userFile project overrides, NamesOnce layer) :
    ∃ b, load lib t userFile project overrides = .ok b ∧
      (∀ s, (b.of s).map (·.1) = s.fields ∧ ∀ name ∈ s.fields,
        (snakeCase name = name ∧ snakeCase (String.ofList (humps name.toList)) = name) ∧
        ∀ v, (b.of s).value name = v ↔
          IsInForce s name (layersOf lib t userFile project overrides) v) ∧
      applyLayers .defaults ((layersOf lib t userFile project overrides).map essence) = .ok b := by
  obtain ⟨b, hload⟩ := (load_ok_iff lib t userFile project overrides).2 ⟨huser, hproject, hgiven⟩
  have hb := eq_of_load hload
  have hdefaults (s : Section) : (Both.defaults.of s).map (·.1) = s.fields := by
    rw [of_defaults]
    rfl
  refine ⟨b, hload, fun s => ?_, ?_⟩
  · obtain ⟨hnames, hvalues⟩ :=
      of_layers (layersOf lib t userFile project overrides) .defaults s
    rw [← hb] at hnames hvalues
    rw [hdefaults] at hnames hvalues
    refine ⟨hnames, fun name hname => ⟨snakeCase_spellings hname, fun v => ?_⟩⟩
    rw [hvalues name hname, of_defaults]
    constructor
    · rintro rfl
      exact isInForce_getD honce hname
    · intro h
      exact h.getD_eq honce hname
  · rw [applyLayers_eq_ok]
    refine ⟨?_, ?_⟩
    · intro layer hlayer
      obtain ⟨layer, -, rfl⟩ := List.mem_map.1 hlayer
      exact hasTables_essence layer
    · rw [foldl_over_essence honce hdefaults, hb]

/-- A project whose settings file has a key that names no setting. -/
def wordedTree : Tree :=
  settingsTree "[resolution]\nsearchMode = \"best-match\"\ndepth = 3\n".toUTF8

/-- What that file says. -/
def fileLayer : List (String × Value) :=
  [("resolution", .table [("searchMode", .str "best-match"), ("depth", .int 3)])]

/-- What a caller gives who has a word that is not allowed. -/
def callerLayer : List (String × Value) :=
  [("resolution", .table [("maxDepth", .int 4), ("search_mode", .str "best")])]

/-- The word of the file stays in force, the number of the caller comes into force. -/
theorem load_per_field_worded :
    ∃ b, load Toml.library wordedTree ["home", "config.toml"] (some ["w"]) (.table callerLayer) =
        .ok b ∧
      (b.of .resolution).value "search_mode" = .str "best-match" ∧
      (b.of .resolution).value "max_depth" = .int 4 := by
  have hlayers : layersOf Toml.library wordedTree ["home", "config.toml"] (some ["w"])
      (.table callerLayer) = [fileLayer, callerLayer] := by
    decide +kernel
  have huser : tablesOf Toml.library wordedTree ["home", "config.toml"] = .ok [] := by
    decide +kernel
  have hown : tablesOf Toml.library wordedTree ["w", projectFileName] = .ok fileLayer := by
    decide +kernel
  have honce : NamesOnce callerLayer := by decide +kernel
  obtain ⟨b, hload, hvalues, -⟩ := load_per_field Toml.library wordedTree ["home", "config.toml"]
    (some ["w"]) (.table callerLayer) ((isPassable_iff _ _ _).2 ⟨_, huser, by decide⟩)
    (fun root hroot => Option.some.inj hroot ▸ (isPassable_iff _ _ _).2 ⟨_, hown, by decide⟩)
    (fun _ => ⟨_, rfl, by decide⟩) (by rw [hlayers]; decide +kernel)
  rw [hlayers] at hvalues
  refine ⟨b, hload, ?_, ?_⟩
  · have hsplit : [fileLayer, callerLayer] = [] ++ fileLayer :: [callerLayer] := rfl
    have hword : Gives .resolution "search_mode" fileLayer (.str "best-match") :=
      ⟨"searchMode", List.mem_cons_self, by decide, by decide⟩
    have hnone : ∀ v, ¬ Gives .resolution "search_mode" callerLayer v :=
      (honce.given_eq_none_iff (by decide)).1 (by decide +kernel)
    apply (((hvalues .resolution).2 "search_mode" (by decide)).2 _).2
    exact .last hsplit hword (by simpa using hnone)
  · have hsplit : [fileLayer, callerLayer] = [fileLayer] ++ callerLayer :: [] := rfl
    have hdepth : Gives .resolution "max_depth" callerLayer (.int 4) :=
      ⟨"maxDepth", List.mem_cons_self, by decide, by decide⟩
    apply (((hvalues .resolution).2 "max_depth" (by decide)).2 _).2
    exact .last hsplit hdepth (by simp)

end Settings

end Restyle
