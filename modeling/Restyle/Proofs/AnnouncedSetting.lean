import Restyle.CommandLine.Run
import Restyle.Proofs.SavedSettings
import Restyle.Proofs.TaggedLine

/-!
The command that sets a setting says what it did. When it ends well the value it shows is in force
for its user from then on, as far as there is such a setting and settings can be read at all; a name
that a group answers to although it is none of its settings is set all the same, and told of.
-/
namespace Restyle.CommandLine

open Console Settings

variable {site : Site} {t : Tree} {args : List String} {group key raw : String} {s : Section}
  {v : Value}

/-! ### Commands that end -/

theorem Stop.exit_ne_zero (stop : Stop) : stop.exit ≠ 0 := by
  cases stop <;> simp [Stop.exit]

namespace Run

variable {α β : Type} {d d' : Desk} {b : β}

/-- A run ends if its first part does, and what follows does from there. -/
theorem run_bind_eq_ok {x : Run α} {f : α → Run β} :
    (x >>= f).run d = (.ok b, d') ↔ ∃ a d₁, x.run d = (.ok a, d₁) ∧ (f a).run d₁ = (.ok b, d') := by
  have hbind : (x >>= f).run d = ExceptT.bindCont f (x.run d).1 (x.run d).2 := rfl
  rw [hbind]
  obtain ⟨r, d₁⟩ := x.run d
  cases r with
  | error stop =>
    constructor
    · rintro ⟨⟩
    · rintro ⟨a, d₂, ⟨⟩, -⟩
  | ok a =>
    constructor
    · intro h
      exact ⟨a, d₁, rfl, h⟩
    · rintro ⟨a', d₂, ⟨⟩, h⟩
      exact h

theorem tree_eq_ok {t : Tree} : tree.run d = (.ok t, d') ↔ d.tree = t ∧ d = d' := by
  change (Except.ok d.tree, d) = (Except.ok t, d') ↔ _
  simp

theorem ofFault_eq_ok {x : Except Fault α} {a : α} :
    (ofFault x).run d = (.ok a, d') ↔ x = .ok a ∧ d = d' := by
  cases x with
  | ok a' =>
    change (Except.ok a', d) = (Except.ok a, d') ↔ _
    simp
  | error f =>
    change (Except.error (Stop.fault f), d) = (Except.ok a, d') ↔ _
    simp

theorem ofMisuse_eq_ok {x : Except Misuse α} {a : α} :
    (ofMisuse x).run d = (.ok a, d') ↔ x = .ok a ∧ d = d' := by
  cases x with
  | ok a' =>
    change (Except.ok a', d) = (Except.ok a, d') ↔ _
    simp
  | error m =>
    change (Except.error (Stop.usage (some m)), d) = (Except.ok a, d') ↔ _
    simp

/-- What is said is printed behind the lines before. -/
theorem say_eq_ok {text : String} {u : Unit} :
    (say site text).run d = (.ok u, d') ↔
      ∃ ls, textLines site.width text = .ok ls ∧ d' = { d with out := d.out ++ ls } := by
  unfold say
  cases textLines site.width text with
  | ok ls =>
    change (Except.ok (), { d with out := d.out ++ ls }) = (Except.ok u, d') ↔ _
    simp [eq_comm]
  | error fault =>
    cases fault with
    | badTag =>
      change (Except.error Stop.badTag, d) = (Except.ok u, d') ↔ _
      simp
    | badColor =>
      change (Except.error (Stop.fault (.notInteger "")), d) = (Except.ok u, d') ↔ _
      simp

end Run

/-! ### Settings that arguments give -/

theorem valueOfText_ne_null {current : Value} (h : valueOfText current raw = .ok v) :
    v ≠ .null := by
  rintro rfl
  revert h
  fun_cases valueOfText current raw <;> rintro ⟨⟩

/-- What arguments set has a name that the group answers to, and a value that is one and allowed. -/
theorem settingOfText_eq_ok (h : settingOfText s key raw = .ok v) :
    (key ∈ s.fields ∨ key ∈ inertNames) ∧ allowed key v ∧ v ≠ .null := by
  unfold settingOfText at h
  split at h
  · next hkey =>
    refine ⟨by simpa using hkey, ?_⟩
    split at h
    · next words hwords =>
      split at h
      · next hraw =>
        obtain rfl := Except.ok.inj h
        simpa [allowed, hwords] using hraw
      · cases h
    · next hwords =>
      exact ⟨by simp [allowed, hwords], valueOfText_ne_null h⟩
  · cases h

/-- What is told of a setting that was set. -/
def toldLine (s : Section) (key : String) (v : Value) : String :=
  "[green]✓[/green] " ++ s.name ++ "." ++ key ++ " = " ++ String.ofList v.nested

theorem toList_toldLine (s : Section) (key : String) (v : Value) :
    (toldLine s key v).toList = "[green]✓[/green] ".toList ++ s.name.toList ++ ".".toList ++
      key.toList ++ " = ".toList ++ v.nested := by
  have hvalue : (String.ofList v.nested).toList = v.nested := String.toList_ofList
  unfold toldLine
  simp only [String.toList_append, hvalue]

/-- A setting is set with a good end just when it is saved and told. -/
theorem setSetting_eq_zero_iff {d d' : Desk} :
    (setSetting site group key raw).run d = (.ok 0, d') ↔
      ∃ s v t ls, Section.ofName? group = some s ∧ settingOfText s key raw = .ok v ∧
        save site.toml d.tree site.userFile s [(key, v)] = (.ok true, t) ∧
        textLines site.width (toldLine s key v) = .ok ls ∧
        d' = { tree := t, out := d.out ++ ls } := by
  unfold setSetting
  constructor
  · intro h
    cases hgroup : Section.ofName? group with
    | none =>
      rw [hgroup] at h
      cases h
    | some s =>
      rw [hgroup] at h
      obtain ⟨v, d₁, hread, hrest⟩ := Run.run_bind_eq_ok.1 h
      obtain ⟨hv, rfl⟩ := Run.ofMisuse_eq_ok.1 hread
      obtain ⟨t, d₂, htree, hrest⟩ := Run.run_bind_eq_ok.1 hrest
      obtain ⟨rfl, rfl⟩ := Run.tree_eq_ok.1 htree
      rcases hsave : save site.toml d.tree site.userFile s [(key, v)] with ⟨saved, t⟩
      rw [hsave] at hrest
      obtain ⟨_, _, hset, hrest⟩ := Run.run_bind_eq_ok.1 hrest
      cases hset
      obtain ⟨told, d₃, hsaved, hrest⟩ := Run.run_bind_eq_ok.1 hrest
      obtain ⟨rfl, rfl⟩ := Run.ofFault_eq_ok.1 hsaved
      cases told with
      | false =>
        obtain ⟨_, _, -, hone⟩ := Run.run_bind_eq_ok.1 hrest
        cases hone
      | true =>
        obtain ⟨_, _, hsay, hzero⟩ := Run.run_bind_eq_ok.1 hrest
        obtain ⟨ls, hls, rfl⟩ := Run.say_eq_ok.1 hsay
        cases hzero
        exact ⟨s, v, t, ls, rfl, hv, hsave, hls, rfl⟩
  · rintro ⟨s, v, t, ls, hgroup, hv, hsave, hls, rfl⟩
    rw [hgroup]
    refine Run.run_bind_eq_ok.2 ⟨v, d, Run.ofMisuse_eq_ok.2 ⟨hv, rfl⟩, ?_⟩
    refine Run.run_bind_eq_ok.2 ⟨d.tree, d, Run.tree_eq_ok.2 ⟨rfl, rfl⟩, ?_⟩
    rw [hsave]
    refine Run.run_bind_eq_ok.2 ⟨(), { d with tree := t }, rfl, ?_⟩
    refine Run.run_bind_eq_ok.2 ⟨true, _, Run.ofFault_eq_ok.2 ⟨rfl, rfl⟩, ?_⟩
    exact Run.run_bind_eq_ok.2 ⟨(), _, Run.say_eq_ok.2 ⟨ls, hls, rfl⟩, rfl⟩

theorem reply_of_saved
    (hargs : Command.ofArguments t site.here args = .ok (.setSetting group key raw))
    (hgroup : Section.ofName? group = some s) (hv : settingOfText s key raw = .ok v)
    {t' : Tree} (hsave : save site.toml t site.userFile s [(key, v)] = (.ok true, t'))
    {ls : List String} (hls : textLines site.width (toldLine s key v) = .ok ls) :
    reply site t args = { exit := 0, out := ls, stop := none, tree := t' } := by
  have hrun : (run site (.setSetting group key raw)).run { tree := t, out := [] } =
      (.ok 0, { tree := t', out := ls }) :=
    setSetting_eq_zero_iff.2 ⟨s, v, t', ls, hgroup, hv, hsave, hls, rfl⟩
  simp only [reply, hargs, hrun]

theorem saved_of_exit
    (hargs : Command.ofArguments t site.here args = .ok (.setSetting group key raw))
    (hexit : (reply site t args).exit = 0) :
    ∃ s v t' ls, Section.ofName? group = some s ∧ settingOfText s key raw = .ok v ∧
      save site.toml t site.userFile s [(key, v)] = (.ok true, t') ∧
      textLines site.width (toldLine s key v) = .ok ls := by
  rcases hrun : (run site (.setSetting group key raw)).run { tree := t, out := [] } with ⟨r, d⟩
  simp only [reply, hargs, hrun] at hexit
  cases r with
  | error stop => exact absurd hexit stop.exit_ne_zero
  | ok exit =>
    obtain rfl : exit = 0 := hexit
    obtain ⟨s, v, t', ls, hgroup, hv, hsave, hls, -⟩ := setSetting_eq_zero_iff.1 hrun
    exact ⟨s, v, t', ls, hgroup, hv, hsave, hls⟩

/-- Every group, name and text can be given: behind two hyphens nothing is an option. -/
theorem ofArguments_set (t : Tree) (here : Path) (group key raw : String) :
    Command.ofArguments t here ["config", "set", "--", group, key, raw] =
      .ok (.setSetting group key raw) := by
  rfl

/-! ### What is told is in force -/

/-- Whether a user without a project has a value for a setting. -/
def IsSetFor (lib : Toml.Library) (t : Tree) (userFile : Path) (s : Section) (key : String)
    (v : Value) : Prop :=
  ∃ b, load lib t userFile none .null = .ok b ∧ (b.of s).lookup key = some v

theorem isSetFor_iff {lib : Toml.Library} {userFile : Path} {tables : Toml.Table}
    (h : tablesOf lib t userFile = .ok tables) :
    IsSetFor lib t userFile s key v ↔ HasTables tables ∧ (settled tables s).lookup key = some v := by
  simp only [IsSetFor, load_user_eq_ok h, and_assoc, exists_and_left, exists_eq_left,
    of_over_defaults]

theorem mem_fields_of_lookup_settled {tables : Toml.Table}
    (h : (settled tables s).lookup key = some v) : key ∈ s.fields := by
  rw [← map_fst_settled tables s]
  exact mem_names_of_lookup h

/-- A value that was saved is found, of a setting of the group. -/
theorem lookup_settled_of_saved {before after : Toml.Table}
    (hsaved : IsSavedOver s [(key, v)] before after) (hallowed : allowed key v) (hv : v ≠ .null) :
    (settled after s).lookup key = some v ↔ key ∈ s.fields := by
  refine ⟨mem_fields_of_lookup_settled, fun hkey => ?_⟩
  have hnames := map_fst_settled before s
  have hown : ((settled before s).apply [(key, v)]).lookup key = some v := by
    rw [lookup_apply _ _ (hnames ▸ hkey), List.map_cons, (snakeCase_spellings hkey).1]
    simp [hallowed]
  rw [settled, hsaved.valuesIn_own, lookup_apply_toTable ((map_fst_apply _ _).trans hnames) hkey,
    hown]
  simp [isValue_of_ne hv, hallowed]

/-- What the command tells when it ends well is in force from then on just when it tells of a setting
and the settings could be read before. What it tells of else is a name that is no setting. -/
theorem setSetting_told_iff
    (hargs : Command.ofArguments t site.here args = .ok (.setSetting group key raw))
    (hp : site.userFile.IsLegible)
    (hback : ∀ s v tables, Section.ofName? group = some s → settingOfText s key raw = .ok v →
      updatedTables site.toml t site.userFile s [(key, v)] = .ok tables →
        ReadsBack site.toml tables)
    (hexit : (reply site t args).exit = 0) :
    ∃ s v, Section.ofName? group = some s ∧ settingOfText s key raw = .ok v ∧
      textLines site.width (toldLine s key v) = .ok (reply site t args).out ∧
      (key ∈ s.fields ∨ key ∈ inertNames) ∧
      (IsSetFor site.toml (reply site t args).tree site.userFile s key v ↔
        key ∈ s.fields ∧ ∃ b, load site.toml t site.userFile none .null = .ok b) := by
  obtain ⟨s, v, t', ls, hgroup, hv, hsave, htold⟩ := saved_of_exit hargs hexit
  obtain ⟨hkey, hallowed, hnull⟩ := settingOfText_eq_ok hv
  obtain ⟨tables, -, htables, -, -⟩ := save_eq_true hp hsave
  obtain ⟨before, hbefore, -⟩ := bind_eq_ok.1 htables
  obtain ⟨after, hafter, hsaved⟩ :=
    exists_isSavedOver hp hbefore (fun tables => hback s v tables hgroup hv) hsave
  have hload : (∃ b, load site.toml t site.userFile none .null = .ok b) ↔ HasTables after := by
    rw [hsaved.hasTables_iff (isTable_of_updatedTables hbefore htables)]
    simp [load_user_eq_ok hbefore]
  rw [reply_of_saved hargs hgroup hv hsave htold]
  refine ⟨s, v, hgroup, hv, htold, hkey, ?_⟩
  rw [isSetFor_iff hafter, lookup_settled_of_saved hsaved hallowed hnull, hload, and_comm]

/-- A user at a console of 80 cells. -/
def userSite : Site :=
  { here := ["home"], userFile := ["home", "config.toml"], toml := Toml.library, now := ⟨0⟩,
    width := 80 }

def backupsArguments : List String := ["config", "set", "modification", "max_backups", "4"]

theorem reply_backups :
    (reply userSite userTree backupsArguments).exit = 0 ∧
    (reply userSite userTree backupsArguments).out = ["✓ modification.max_backups = 4"] := by
  obtain ⟨t', hsave⟩ := exists_of_fst_save (show (save userSite.toml userTree userSite.userFile
    .modification [("max_backups", .int 4)]).1 = .ok true by decide +kernel)
  have hpieces : pieces (toldLine .modification "max_backups" (.int 4)).toList =
      [.text [], .opening "green".toList none, .text ['✓'], .closing "green".toList,
        .text " modification.max_backups = 4".toList] := by
    rw [toList_toldLine]
    decide +kernel
  have hfits : FitsLine 79 " modification.max_backups = 4".toList := by
    constructor <;> decide +kernel
  have hline := textLines_tagged isPlainWord_green hpieces (by decide +kernel) hfits.tick
  rw [backupsArguments, reply_of_saved rfl rfl rfl hsave hline]
  exact ⟨rfl, rfl⟩

theorem setSetting_told_backups :
    (reply userSite userTree backupsArguments).exit = 0 ∧
    IsSetFor userSite.toml (reply userSite userTree backupsArguments).tree
      userSite.userFile .modification "max_backups" (.int 4) := by
  have hp : userSite.userFile.IsLegible :=
    (show Path.IsPlace ["home", "config.toml"] by decide).isPlain.isLegible
  have hback : ∀ s v tables, Section.ofName? "modification" = some s →
      settingOfText s "max_backups" "4" = .ok v →
      updatedTables userSite.toml userTree userSite.userFile s [("max_backups", v)] = .ok tables →
      ReadsBack userSite.toml tables := by
    rintro s v tables ⟨⟩ ⟨⟩
    exact readsBack_of_updatedTables (by decide +kernel) tables
  obtain ⟨s, v, ⟨⟩, ⟨⟩, -, -, hset⟩ := setSetting_told_iff rfl hp hback reply_backups.1
  exact ⟨reply_backups.1, hset.2 ⟨by decide, _, (load_user_eq_ok tablesOf_userTree).2
    ⟨by decide, rfl⟩⟩⟩

theorem IsSetFor.mem_fields {lib : Toml.Library} {userFile : Path}
    (h : IsSetFor lib t userFile s key v) : key ∈ s.fields := by
  obtain ⟨b, hb, hlookup⟩ := h
  obtain ⟨tables, htables, -⟩ := load_eq_ok.1 hb
  obtain ⟨-, rfl⟩ := (load_user_eq_ok htables).1 hb
  rw [of_over_defaults] at hlookup
  exact mem_fields_of_lookup_settled hlookup

def docArguments : List String := ["config", "set", "resolution", "__doc__", "hello"]

/-- A name that no setting has is told as set, and has no value after. -/
theorem setSetting_tells_unset :
    (reply userSite userTree docArguments).exit = 0 ∧
    (reply userSite userTree docArguments).out = ["✓ resolution.__doc__ = 'hello'"] ∧
    ∀ v, ¬ IsSetFor userSite.toml (reply userSite userTree docArguments).tree userSite.userFile
      .resolution "__doc__" v := by
  obtain ⟨t', hsave⟩ := exists_of_fst_save (show (save userSite.toml userTree userSite.userFile
    .resolution [("__doc__", .str "hello")]).1 = .ok true by decide +kernel)
  have hpieces : pieces (toldLine .resolution "__doc__" (.str "hello")).toList =
      [.text [], .opening "green".toList none, .text ['✓'], .closing "green".toList,
        .text " resolution.__doc__ = 'hello'".toList] := by
    rw [toList_toldLine]
    decide +kernel
  have hfits : FitsLine 79 " resolution.__doc__ = 'hello'".toList := by
    constructor <;> decide +kernel
  have hline := textLines_tagged isPlainWord_green hpieces (by decide +kernel) hfits.tick
  rw [docArguments, reply_of_saved rfl rfl rfl hsave hline]
  refine ⟨rfl, rfl, fun v hset => ?_⟩
  exact absurd hset.mem_fields (by decide)

end Restyle.CommandLine
