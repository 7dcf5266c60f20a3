import Restyle.Proofs.CachedLookup
import Restyle.Proofs.FailedEdit
import Restyle.Proofs.ReadValue

/-!
Which payloads are answered. Asking for a change and searching always end in an answer, which tells
of no success where the payload makes no sense. Looking an element up and asking for conflicts end
in a fault for exactly the payloads that are not shaped as described here.
-/
namespace Restyle

open Capture

/-- A payload that an element can be read from: its attributes are a map and its parent is a table,
unless they say nothing. -/
structure Capture.IsPayload (v : Value) : Prop where
  attributes : (v.get "attributes").isTruthy → (v.get "attributes").IsMap
  parent : (either v "parentInfo" "parent_info").isTruthy →
    ∃ fields, either v "parentInfo" "parent_info" = .table fields

/-- The file of a place, under the first of its spellings that says something. -/
def Change.fileOf (v : Value) : Value := (v.get "filePath").orElse (v.get "file_path")

/-- The line of a place, under the first of its spellings that is there; zero if neither is. -/
def Change.lineOf (v : Value) : Value :=
  if v.has "lineNumber" then v.get "lineNumber"
  else if v.has "line_number" then v.get "line_number"
  else .int 0

/-- A table that a place can be read from: it names a file of whatever kind, its line is a whole
number, and so is its column if it says something. -/
structure Change.IsLocation (v : Value) : Prop where
  table : ∃ fields, v = .table fields
  file : (v.get "filePath").isTruthy ∨ v.has "file_path"
  line : (Change.lineOf v).IsWhole
  column : (either v "columnNumber" "column_number").isTruthy →
    (either v "columnNumber" "column_number").IsWhole

/-- A payload that a change can be read from: its styles are a map and its source is a place, unless
they say nothing. -/
structure Change.IsPayload (v : Value) : Prop where
  styles : (v.get "styles").isTruthy → (v.get "styles").IsMap
  source : (either v "sourceInfo" "source_info").isTruthy →
    Change.IsLocation (either v "sourceInfo" "source_info")

/-- Whether the file of a place is a text that can be asked for as a path. -/
def Editor.CanOpen (e : Editor) (file : Value) : Prop :=
  ∃ s, file = .str s ∧ (e.root.join s).refusal? = none

/-- A tag, and for components also id, classes and text, that hold a text or say nothing. -/
structure Capture.IsAskable (c : Capture) (f : Framework) : Prop where
  tag : c.tag.isTruthy → ∃ s, c.tag = .str s
  others : f ≠ .html → ∀ v ∈ [c.id, c.classes, c.text], v.isTruthy → ∃ s, v = .str s

/-- Options with an absolute root, patterns that can be told to fit or not, and a depth. Files and
frameworks are given by what can be gone through, unless they say nothing. -/
structure Component.SearchOptions.IsUsable (o : Component.SearchOptions) : Prop where
  root : ∃ s, o.root = .str s ∧ Path.isAbsolute s
  excludes : ∃ items, o.excludes.items = .ok items ∧ ∀ v ∈ items, Pattern.ofValue v ≠ .unusable
  includes : o.includes.isTruthy → ∃ items, o.includes.items = .ok items
  depth : ∃ limit, Settings.depthLimit o.maxDepth = .ok limit
  frameworks : o.frameworks.isTruthy → ∃ items, o.frameworks.items = .ok items

/-- How what is asked with a payload is answered. -/
structure Workspace.Answers (w : Workspace) (t : Tree) (now : Readings) (payload : Value) :
    Prop where
  found_iff : (∃ a, w.resolver.find t now.stamp payload = .ok a) ↔ Capture.IsPayload payload
  /-- A source was kept from before, or it is of an element that can be looked for. -/
  found : ∀ c s r, Capture.ofPayload payload = .ok c →
    w.resolver.find t now.stamp payload = .ok (some s, r) →
    (∃ key, c.key = .ok key ∧ (w.resolver.cache.get now.stamp key).1 = some (.source s)) ∨
      ∃ f, (w.resolver.detect t).framework? = some f ∧ c.IsAskable f
  compared_iff : (∃ cs, w.conflicts t payload = .ok cs) ↔
    Change.IsPayload payload ∧ ((either payload "sourceInfo" "source_info").isTruthy →
      w.editor.CanOpen (Change.fileOf (either payload "sourceInfo" "source_info")))
  /-- A change reports the fault that asking for its conflicts ends in, and nothing has happened. -/
  reported : ∀ f, w.conflicts t payload = .error f →
    w.apply t now payload = (.failure (.fault f), w, t)
  searched : ∀ query, (w.resolver.search t query payload).1 ≠ [] →
    (∃ q, query = .str q) ∧ ∃ o, w.resolver.searchOptions payload = .ok o ∧ o.IsUsable

namespace Value

theorem orElse_table_isMap (v : Value) :
    (v.orElse (.table [])).IsMap ↔ (v.isTruthy → v.IsMap) := by
  unfold orElse
  split
  · next h => simp [h]
  · next h => simp [h, IsMap.table]

theorem orElse_int_isWhole (v : Value) (n : Int) :
    (v.orElse (.int n)).IsWhole ↔ (v.isTruthy → v.IsWhole) := by
  unfold orElse
  split
  · next h => simp [h]
  · next h => simp [h, IsWhole.int]

end Value

namespace Capture

theorem parentOf_ok_iff (v : Value) :
    (∃ p, parentOf v = .ok p) ↔ (v.isTruthy → ∃ fields, v = .table fields) := by
  unfold parentOf
  split
  · next h =>
    split
    · simp
    · next hne =>
      constructor
      · rintro ⟨p, ⟨⟩⟩
      · intro hv
        obtain ⟨fields, hfields⟩ := hv h
        exact absurd hfields (hne fields)
  · next h => simp [h]

theorem ofPayload_ok_iff (fields : List (String × Value)) :
    (∃ c, ofPayload (.table fields) = .ok c) ↔ Capture.IsPayload (.table fields) := by
  have hshape : Capture.IsPayload (.table fields) ↔
      (∃ m, (((Value.table fields).get "attributes").orElse (.table [])).toMap = .ok m) ∧
        ∃ p, parentOf (either (.table fields) "parentInfo" "parent_info") = .ok p := by
    rw [Value.toMap_ok_iff, Value.orElse_table_isMap, parentOf_ok_iff]
    exact ⟨fun h => ⟨h.attributes, h.parent⟩, fun h => ⟨h.1, h.2⟩⟩
  simp only [hshape, ofPayload, bind_eq_ok, pure, Except.pure, Except.ok.injEq]
  constructor
  · rintro ⟨c, m, hm, p, hp, -⟩
    exact ⟨⟨m, hm⟩, p, hp⟩
  · rintro ⟨⟨m, hm⟩, p, hp⟩
    exact ⟨_, m, hm, p, hp, rfl⟩

theorem textField_eq_ok {v : Value} {fault : Fault} {s : Option String}
    (h : textField v fault = .ok s) (hv : v.isTruthy) : ∃ s, v = .str s := by
  unfold textField at h
  split at h
  · exact ⟨_, rfl⟩
  · cases hv
  · rw [if_pos hv] at h
    cases h

/-- Only an element that can be looked for has a descriptor. -/
theorem isAskable_of_descriptorFor {c : Capture} {f : Framework} {d : Descriptor}
    (h : c.descriptorFor f = .ok d) : c.IsAskable f := by
  have hpage (hf : c.shown = .ok d) : c.tag.isTruthy → ∃ s, c.tag = .str s := by
    obtain ⟨tag, htag, -⟩ := bind_eq_ok.1 hf
    exact textField_eq_ok htag
  have hfields (hf : c.descriptor = .ok d) :
      ∀ v ∈ [c.tag, c.id, c.classes, c.text], v.isTruthy → ∃ s, v = .str s := by
    obtain ⟨tag, htag, hf⟩ := bind_eq_ok.1 hf
    obtain ⟨id, hid, hf⟩ := bind_eq_ok.1 hf
    obtain ⟨classes, hclasses, hf⟩ := bind_eq_ok.1 hf
    obtain ⟨text, htext, -⟩ := bind_eq_ok.1 hf
    simp only [List.forall_mem_cons, List.not_mem_nil, false_imp_iff, implies_true, and_true]
    exact ⟨textField_eq_ok htag, textField_eq_ok hid, textField_eq_ok hclasses,
      textField_eq_ok htext⟩
  unfold descriptorFor at h
  split at h
  · exact ⟨hpage h, fun hf => absurd rfl hf⟩
  · exact ⟨(List.forall_mem_cons.1 (hfields h)).1, fun _ => (List.forall_mem_cons.1 (hfields h)).2⟩

end Capture

namespace Change

theorem locationOf_of_silent {v : Value} (h : v.isTruthy = false) : locationOf v = .ok none := by
  simp [locationOf, h]

theorem locationOf_of_not_table {v : Value} (h : v.isTruthy) (hv : ¬ ∃ fields, v = .table fields) :
    locationOf v = .error (.noMember v.kind "get") := by
  unfold locationOf
  rw [if_pos h]
  split
  · exact absurd ⟨_, rfl⟩ hv
  · rfl

/-- A place is read by its parts, the file first. -/
theorem locationOf_table {fields : List (String × Value)} (h : (Value.table fields).isTruthy) :
    locationOf (.table fields) =
      (if ((Value.table fields).get "filePath").isTruthy then
          .ok ((Value.table fields).get "filePath")
        else if (Value.table fields).has "file_path" then .ok ((Value.table fields).get "file_path")
        else .error (.missingKey "file_path") : Except Fault Value) >>= fun file =>
      (lineOf (.table fields)).toInt >>= fun line =>
      ((either (.table fields) "columnNumber" "column_number").orElse (.int 1)).toInt >>=
        fun column => .ok (some
          { file, line, column
            component := (either (.table fields) "componentName" "component_name").orElse
              (.str "Unknown") }) := by
  simp only [locationOf, if_pos h]
  split
  · rfl
  · split <;> rfl

theorem locationOf_ne_none {v : Value} (h : v.isTruthy) : locationOf v ≠ .ok none := by
  by_cases hv : ∃ fields, v = .table fields
  · obtain ⟨fields, rfl⟩ := hv
    simp [locationOf_table h, bind_eq_ok]
  · rw [locationOf_of_not_table h hv]
    simp

/-- The file of a place is the one under either spelling, if there is one. -/
theorem file_eq_ok (v file : Value) :
    (if (v.get "filePath").isTruthy then .ok (v.get "filePath")
      else if v.has "file_path" then .ok (v.get "file_path")
      else .error (.missingKey "file_path") : Except Fault Value) = .ok file ↔
      ((v.get "filePath").isTruthy ∨ v.has "file_path") ∧ file = fileOf v := by
  unfold fileOf Value.orElse
  cases hcamel : (v.get "filePath").isTruthy <;> cases hsnake : v.has "file_path" <;>
    simp [eq_comm]

/-- A place is read from what says something and is one, and its file is the one that is named. -/
theorem locationOf_some_iff {v : Value} (h : v.isTruthy) (file : Value) :
    (∃ l, locationOf v = .ok (some l) ∧ l.file = file) ↔ IsLocation v ∧ file = fileOf v := by
  by_cases hv : ∃ fields, v = .table fields
  case neg =>
    constructor
    · rintro ⟨l, hl, -⟩
      rw [locationOf_of_not_table h hv] at hl
      cases hl
    · rintro ⟨hl, -⟩
      exact absurd hl.table hv
  obtain ⟨fields, rfl⟩ := hv
  have hshape : IsLocation (.table fields) ↔
      (((Value.table fields).get "filePath").isTruthy ∨ (Value.table fields).has "file_path") ∧
      (∃ n, (lineOf (.table fields)).toInt = .ok n) ∧
      ∃ n, ((either (.table fields) "columnNumber" "column_number").orElse (.int 1)).toInt =
        .ok n := by
    rw [Value.toInt_ok_iff, Value.toInt_ok_iff, Value.orElse_int_isWhole]
    exact ⟨fun hl => ⟨hl.file, hl.line, hl.column⟩, fun hl => ⟨⟨fields, rfl⟩, hl.1, hl.2.1, hl.2.2⟩⟩
  simp only [hshape, locationOf_table h, bind_eq_ok, file_eq_ok, Except.ok.injEq, Option.some.injEq]
  constructor
  · rintro ⟨l, ⟨_, ⟨hfile, rfl⟩, n, hn, m, hm, rfl⟩, rfl⟩
    exact ⟨⟨hfile, ⟨n, hn⟩, m, hm⟩, rfl⟩
  · rintro ⟨⟨hfile, ⟨n, hn⟩, m, hm⟩, rfl⟩
    exact ⟨_, ⟨_, ⟨hfile, rfl⟩, n, hn, m, hm, rfl⟩, rfl⟩

/-- A change is read from its styles and its place. -/
theorem ofPayload_source (fields : List (String × Value)) (source : Option Location) :
    (∃ c, ofPayload (.table fields) = .ok c ∧ c.source = source) ↔
      (((Value.table fields).get "styles").isTruthy →
        ((Value.table fields).get "styles").IsMap) ∧
      locationOf (either (.table fields) "sourceInfo" "source_info") = .ok source := by
  rw [← Value.orElse_table_isMap, ← Value.toMap_ok_iff]
  simp only [ofPayload, bind_eq_ok, pure, Except.pure, Except.ok.injEq]
  constructor
  · rintro ⟨c, ⟨m, hm, l, hl, rfl⟩, rfl⟩
    exact ⟨⟨m, hm⟩, hl⟩
  · rintro ⟨⟨m, hm⟩, hl⟩
    exact ⟨_, ⟨m, hm, source, hl, rfl⟩, rfl⟩

end Change

theorem Editor.pathOf_ok_iff (e : Editor) (v : Value) :
    (∃ p, e.pathOf v = .ok p) ↔ e.CanOpen v := by
  unfold pathOf CanOpen
  split
  · next s => simp [map_eq_ok, Backups.checked_eq_ok]
  · next hne =>
    constructor
    · rintro ⟨p, ⟨⟩⟩
    · rintro ⟨s, hs, -⟩
      exact absurd hs (hne s)

namespace Workspace

variable (w : Workspace) (t : Tree) (now : Readings)

theorem conflictsOf_ok_iff (c : Change) :
    (∃ cs, w.conflictsOf t c = .ok cs) ↔ ∀ l, c.source = some l → w.editor.CanOpen l.file := by
  unfold conflictsOf
  split
  · next h => simp [h]
  · next l h =>
    simp only [h, Option.some.injEq, forall_eq', ← Editor.pathOf_ok_iff, map_eq_ok]
    constructor
    · rintro ⟨-, p, hp, -⟩
      exact ⟨p, hp⟩
    · rintro ⟨p, hp⟩
      exact ⟨_, p, hp, rfl⟩

theorem conflicts_ok_iff (fields : List (String × Value)) :
    (∃ cs, w.conflicts t (.table fields) = .ok cs) ↔
      Change.IsPayload (.table fields) ∧
      ((either (.table fields) "sourceInfo" "source_info").isTruthy →
        w.editor.CanOpen (Change.fileOf (either (.table fields) "sourceInfo" "source_info"))) := by
  have hread : (∃ cs, w.conflicts t (.table fields) = .ok cs) ↔
      ∃ source, (∃ c, Change.ofPayload (.table fields) = .ok c ∧ c.source = source) ∧
        ∀ l, source = some l → w.editor.CanOpen l.file := by
    simp only [conflicts, bind_eq_ok]
    constructor
    · rintro ⟨cs, c, hc, hcs⟩
      exact ⟨c.source, ⟨c, hc, rfl⟩, (w.conflictsOf_ok_iff t c).1 ⟨cs, hcs⟩⟩
    · rintro ⟨-, ⟨c, hc, rfl⟩, hopen⟩
      obtain ⟨cs, hcs⟩ := (w.conflictsOf_ok_iff t c).2 hopen
      exact ⟨cs, c, hc, hcs⟩
  simp only [hread, Change.ofPayload_source]
  generalize hs : either (.table fields) "sourceInfo" "source_info" = source
  cases h : source.isTruthy with
  | false =>
    constructor
    · rintro ⟨-, ⟨hstyles, -⟩, -⟩
      exact ⟨⟨hstyles, by simp [hs, h]⟩, by simp⟩
    · rintro ⟨hp, -⟩
      exact ⟨none, ⟨hp.styles, Change.locationOf_of_silent h⟩, by simp⟩
  | true =>
    constructor
    · rintro ⟨place, ⟨hstyles, hplace⟩, hopen⟩
      cases place with
      | none => exact absurd hplace (Change.locationOf_ne_none h)
      | some l =>
        obtain ⟨hl, hfile⟩ := (Change.locationOf_some_iff h l.file).1 ⟨l, hplace, rfl⟩
        exact ⟨⟨hstyles, fun _ => hs ▸ hl⟩, fun _ => hfile ▸ hopen l rfl⟩
    · rintro ⟨hp, hopen⟩
      obtain ⟨l, hl, hfile⟩ := (Change.locationOf_some_iff h _).2 ⟨hs ▸ hp.source (hs ▸ h), rfl⟩
      refine ⟨some l, ⟨hp.styles, hl⟩, ?_⟩
      rintro _ ⟨⟩
      exact hfile ▸ hopen rfl

/-- The fault of a payload or of its file is what a change reports, whatever the project. -/
theorem apply_of_conflicts_error {fields : List (String × Value)} {f : Fault}
    (h : w.conflicts t (.table fields) = .error f) :
    w.apply t now (.table fields) = (.failure (.fault f), w, t) := by
  unfold conflicts at h
  unfold apply
  simp only at h ⊢
  cases hc : Change.ofPayload (.table fields) with
  | error g =>
    rw [hc] at h
    cases h
    rfl
  | ok c =>
    rw [hc] at h
    change w.conflictsOf t c = .error f at h
    unfold conflictsOf at h
    split at h
    · cases h
    · next l hl =>
      cases hp : w.editor.pathOf l.file with
      | error g =>
        rw [hp] at h
        cases h
        simp only [applyChange, placeOf, hl, hp]
      | ok p =>
        rw [hp] at h
        cases h

end Workspace

theorem Pattern.usable_of_texts {ps : List Pattern} (h : (texts ps).2 = true) :
    ∀ p ∈ ps, p ≠ .unusable := by
  induction ps with
  | nil => simp
  | cons p ps ih =>
    cases p with
    | text s => simpa using ih h
    | inert => simpa using ih h
    | unusable => cases h

namespace Component

variable {o : SearchOptions} {f : Framework} {t : Tree}

theorem SearchOptions.isUsable_of_files (h : o.files f t ≠ []) {wanted : Bool}
    (hwants : o.wants f = .ok wanted) : o.IsUsable := by
  unfold files at h
  simp only at h
  split at h
  · next root excludes includes hroot hexcludes hincludes =>
    split at h
    · next habsolute =>
      split at h
      · next scan hscan =>
        unfold Scan.ofValues at hscan
        split at hscan
        · next texts limit htexts hlimit =>
          have hpatterns := Pattern.usable_of_texts (congrArg Prod.snd htexts)
          refine ⟨⟨root, hroot, habsolute⟩, ⟨excludes, hexcludes, ?_⟩, fun hi => ?_,
            ⟨limit, hlimit⟩, fun hf => ?_⟩
          · exact fun v hv => hpatterns _ (List.mem_map_of_mem hv)
          · rw [Value.orElse, if_pos hi] at hincludes
            exact ⟨includes, hincludes⟩
          · unfold wants at hwants
            rw [if_pos hf] at hwants
            split at hwants
            · next s hs => exact ⟨_, by rw [hs]; rfl⟩
            · split at hwants
              · next items hitems => exact ⟨items, hitems⟩
              · cases hwants
        · cases hscan
      · exact absurd rfl h
    · exact absurd rfl h
  · exact absurd rfl h

/-- What is found was asked for with a text, by options that can be used. -/
theorem searchBy_ne_nil {query : Value} {found : List Found}
    (h : searchBy o f t query = .ok found) (hne : found ≠ []) :
    (∃ q, query = .str q) ∧ o.IsUsable := by
  unfold searchBy at h
  split at h
  · cases h
    exact absurd rfl hne
  · obtain ⟨wanted, hwants, h⟩ := bind_eq_ok.1 h
    split at h
    · split at h
      · next q _ =>
        cases h
        have hfiles : o.files f t ≠ [] := by
          intro hnil
          rw [hnil] at hne
          exact hne (by simp [search, rank])
        exact ⟨⟨q, rfl⟩, SearchOptions.isUsable_of_files hfiles hwants⟩
      · cases h
        exact absurd rfl hne
    · cases h
      exact absurd rfl hne

end Component

namespace Resolver

variable (r : Resolver) (t : Tree) (now : Clock)

/-- What a look-up gives was kept under its key or is what was found now. -/
theorem lookUp_cases {key : String} {found : Option Cached} {v : Cached} {r' : Resolver}
    (h : r.lookUp now key found = (some v, r')) :
    (r.cache.get now key).1 = some v ∨ found = some v := by
  unfold lookUp at h
  split at h
  · split at h
    · cases h
    · split at h
      · next hget =>
        cases h
        exact .inl (by rw [hget])
      · next hget =>
        unfold keep at h
        cases found with
        | none => cases h
        | some v' =>
          simp only at h
          split at h <;> cases h
          exact .inr rfl
  · cases h
    exact .inr rfl

theorem findCapture_cases {c : Capture} {s : SourceInfo} {r' : Resolver}
    (h : r.findCapture t now c = (some s, r')) :
    (∃ key, c.key = .ok key ∧ (r.cache.get now key).1 = some (.source s)) ∨
      ∃ f, (r.detect t).framework? = some f ∧ c.IsAskable f := by
  unfold findCapture at h
  simp only at h
  split at h
  · next f key hf hkey =>
    simp only [Prod.mk.injEq, Option.bind_eq_some_iff] at h
    obtain ⟨⟨v, hv, hs⟩, -⟩ := h
    obtain rfl : v = .source s := by cases v <;> cases hs; rfl
    rcases lookUp_cases (r.detect t) now (Prod.ext hv rfl) with hkept | hfound
    · exact .inl ⟨key, hkey, by rwa [detect_cache] at hkept⟩
    · refine .inr ⟨f, hf, ?_⟩
      obtain ⟨s', hs', -⟩ := Option.map_eq_some_iff.1 hfound
      unfold locate at hs'
      split at hs'
      · next d hd => exact isAskable_of_descriptorFor hd
      · cases hs'
  · cases h

open Component in
theorem search_ne_nil {query given : Value} (h : (r.search t query given).1 ≠ []) :
    (∃ q, query = .str q) ∧ ∃ o, r.searchOptions given = .ok o ∧ o.IsUsable := by
  unfold search searchWith at h
  simp only at h
  split at h
  · next f hf =>
    split at h
    · next found hfound =>
      obtain ⟨o, ho, hsearch⟩ := bind_eq_ok.1 hfound
      have hne : found ≠ [] := by
        rintro rfl
        exact h (by simp [rank])
      obtain ⟨hquery, husable⟩ := searchBy_ne_nil hsearch hne
      exact ⟨hquery, o, ho, husable⟩
    · exact absurd rfl h
  · exact absurd rfl h

end Resolver

/-- Every payload is answered so, in every project. -/
theorem Workspace.answers (w : Workspace) (t : Tree) (now : Readings)
    (fields : List (String × Value)) : w.Answers t now (.table fields) where
  found_iff := by
    rw [← Capture.ofPayload_ok_iff]
    simp only [Resolver.find, map_eq_ok]
    constructor
    · rintro ⟨-, c, hc, -⟩
      exact ⟨c, hc⟩
    · rintro ⟨c, hc⟩
      exact ⟨_, c, hc, rfl⟩
  found c s r hc h := by
    simp only [Resolver.find, hc, Except.map, Except.ok.injEq] at h
    exact w.resolver.findCapture_cases t now.stamp h
  compared_iff := w.conflicts_ok_iff t fields
  reported f h := w.apply_of_conflicts_error t now h
  searched query h := w.resolver.search_ne_nil t h

/-- Attributes that are a number end a look-up in a fault, and a place without a file ends asking
for conflicts in one. -/
theorem Workspace.find_and_conflicts_fault :
    smallWorkspace.resolver.find smallTree ⟨0⟩
        (.table [("tagName", .str "div"), ("attributes", .int 5)]) =
      .error (.notIterable "int") ∧
    smallWorkspace.conflicts smallTree
        (.table [("sourceInfo", .table [("lineNumber", .int 1)])]) =
      .error (.missingKey "file_path") :=
  ⟨rfl, rfl⟩

end Restyle
