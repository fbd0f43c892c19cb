import Mathlib.Data.List.Induction
import ScanRoster.Proofs.Settings.Layers

/-!
# Variables of the environment

Each setting has a variable of its own.  An environment that has such variables, each at most once,
beside variables whose names lead to no section, is a layer with the values of these variables and
nothing else in the sections (`layer_of_wellNamed`).
-/

namespace ScanRoster.Settings

/-- One of the things that can be set. -/
inductive Setting
  | output
  | color
  | maxEntryAge
  | scanInterval
  | activeScanning
  deriving DecidableEq

namespace Setting

/-- The section of a setting and its key there. -/
def place : Setting → String × String
  | .output => ("defaults", "output")
  | .color => ("defaults", "color")
  | .maxEntryAge => ("tracker", "max_entry_age")
  | .scanInterval => ("tracker", "scan_interval")
  | .activeScanning => ("tracker", "active_scanning")

/-- The name of the variable for a setting. -/
def variableName : Setting → String
  | .output => "WIFITRACK_DEFAULTS__OUTPUT"
  | .color => "WIFITRACK_DEFAULTS__COLOR"
  | .maxEntryAge => "WIFITRACK_TRACKER__MAX_ENTRY_AGE"
  | .scanInterval => "WIFITRACK_TRACKER__SCAN_INTERVAL"
  | .activeScanning => "WIFITRACK_TRACKER__ACTIVE_SCANNING"

/-- What fields have in the place of a setting. -/
def inFields (x : Setting) (fields : List (String × Layer)) : Option Layer :=
  Layer.inSection x.place.1 x.place.2 fields

/-- The value of the variable for a setting, if it is set. -/
def inEnvironment (x : Setting) (env : List (String × String)) : Option Layer :=
  (env.lookup x.variableName).map Variable.value

theorem section_mem_sectionNames (x : Setting) : x.place.1 ∈ Layer.sectionNames := by
  cases x <;> decide

end Setting

namespace Variable

/-! ## What names lead to -/

section

variable {name key : String} {s part : List Char} {path : List String} {more : List (List Char)}

theorem path?_variableName (x : Setting) : path? x.variableName = some [x.place.1, x.place.2] := by
  cases x <;> decide

/-- A name that leads to no section: after the start that names of settings have, and blanks, no name
of a section follows, whatever the case of the letters. -/
def IsForeign (name : String) : Prop :=
  let s := name.toList.map Char.toLower
  namesStart <+: s → ∀ key ∈ Layer.sectionNames,
    ¬ key.toList <+: (s.drop namesStart.length).dropWhile Text.isBlank

instance : DecidablePred IsForeign :=
  fun name => inferInstanceAs (Decidable (namesStart <+: name.toList.map Char.toLower → _))

theorem prefix_of_splitOnP {p : Char → Bool} (h : s.splitOnP p = part :: more) : part <+: s := by
  induction s generalizing part more with
  | nil =>
      obtain ⟨rfl, -⟩ : [] = part ∧ [] = more := by simpa [List.splitOnP_nil] using h
      exact List.nil_prefix
  | cons c s ih =>
      rw [List.splitOnP_cons_eq_if_modifyHead] at h
      split at h
      · obtain ⟨rfl, -⟩ := List.cons.inj h
        exact List.nil_prefix
      · obtain ⟨part', more', hs⟩ := List.exists_cons_of_ne_nil (List.splitOnP_ne_nil p s)
        rw [hs, List.modifyHead_cons] at h
        obtain ⟨rfl, -⟩ := List.cons.inj h
        exact List.cons_prefix_cons.mpr ⟨rfl, ih hs⟩

/-- What starts a key without dots starts the name that is written for the key. -/
theorem prefix_of_prefix_dots (hdots : '.' ∉ part) (h : part <+: dots s) : part <+: s := by
  induction s using dots.induct generalizing part with
  | case1 rest ih =>
      cases part with
      | nil => exact List.nil_prefix
      | cons c part =>
          obtain ⟨rfl, -⟩ := List.cons_prefix_cons.mp h
          exact absurd List.mem_cons_self hdots
  | case2 c rest hrest ih =>
      cases part with
      | nil => exact List.nil_prefix
      | cons d part =>
          rw [dots] at h
          · obtain ⟨rfl, hpart⟩ := List.cons_prefix_cons.mp h
            exact List.cons_prefix_cons.mpr
              ⟨rfl, ih (fun hmem => hdots (List.mem_cons_of_mem d hmem)) hpart⟩
          · exact hrest
  | case3 => exact h

theorem dropWhile_isBlank_dots (s : List Char) :
    (dots s).dropWhile Text.isBlank = dots (s.dropWhile Text.isBlank) := by
  induction s using dots.induct with
  | case1 rest ih => rfl
  | case2 c rest hrest ih =>
      rw [dots]
      · rw [List.dropWhile_cons, List.dropWhile_cons]
        split
        · exact ih
        · rw [dots]
          exact hrest
      · exact hrest
  | case3 => rfl

theorem prefix_of_prefix_trim (h : part <+: Text.trim s) : part <+: s.dropWhile Text.isBlank := by
  refine h.trans ?_
  rw [Text.trim, Text.trimEnd]
  simpa using List.reverse_prefix.mpr
    (List.dropWhile_suffix Text.isBlank (l := (s.dropWhile Text.isBlank).reverse))

/-- Variables of other names are outside of the sections. -/
theorem IsForeign.path? (h : IsForeign name) (hpath : path? name = some path) :
    ∃ key more, path = key :: more ∧ key ∉ Layer.sectionNames := by
  rw [Variable.path?] at hpath
  split at hpath
  · next hstart =>
      generalize hrest : (name.toList.map Char.toLower).drop namesStart.length = rest at hpath
      obtain ⟨part, more, hparts⟩ := List.exists_cons_of_ne_nil
        (List.splitOnP_ne_nil (· == '.') (Text.trim (dots rest)))
      dsimp only at hpath
      rw [hparts] at hpath
      split at hpath
      · exact absurd hpath nofun
      · obtain rfl := Option.some.inj hpath
        refine ⟨String.ofList part, more.map String.ofList, rfl, fun hsection => ?_⟩
        have hdots : '.' ∉ part := by
          have hnames : ∀ s ∈ Layer.sectionNames, '.' ∉ s.toList := by decide
          simpa using hnames _ hsection
        have hpart := prefix_of_prefix_trim (prefix_of_splitOnP hparts)
        rw [dropWhile_isBlank_dots] at hpart
        refine h (List.isPrefixOf_iff_prefix.mp hstart) _ hsection ?_
        rw [hrest, String.toList_ofList]
        exact prefix_of_prefix_dots hdots hpart
  · exact absurd hpath nofun

theorem IsForeign.variableName_ne (h : IsForeign name) (x : Setting) : x.variableName ≠ name := by
  rintro rfl
  obtain ⟨key, more, hpath, hkey⟩ := h.path? (path?_variableName x)
  obtain ⟨rfl, -⟩ := List.cons.inj hpath
  exact hkey x.section_mem_sectionNames

end

/-! ## The layer of an environment -/

open Layer

variable {env : List (String × String)} {fields : List (String × Layer)}

theorem under_nested (key : String) (path : List String) (v : Layer) :
    (Layer.fields fields).under (nested (key :: path) v) =
      .fields (fieldsUnder fields [(key, nested path v)]) := by
  rw [nested, under]

/-- A value in the place of a setting. -/
theorem inFields_nested (x y : Setting) (v : Layer) :
    x.inFields [(y.place.1, nested [y.place.2] v)] = if x = y then some v else none := by
  cases x <;> cases y <;> rfl

theorem hasSections_nested (x : Setting) (v : Layer) :
    HasSections [(x.place.1, nested [x.place.2] v)] := by
  refine ⟨List.nodup_singleton _, fun name _ w hw => ?_⟩
  rw [lookUp_cons] at hw
  split at hw
  · obtain rfl := Option.some.inj hw
    exact ⟨_, rfl, List.nodup_singleton _⟩
  · exact absurd hw nofun

section

variable {key : String} (hkey : key ∉ sectionNames) (v : Layer)
include hkey

theorem lookUp_outside {name : String} (hname : name ∈ sectionNames) :
    lookUp name [(key, v)] = none := by
  have hne : key ≠ name := fun heq => hkey (heq ▸ hname)
  rw [lookUp_cons, if_neg hne]
  rfl

theorem hasSections_outside : HasSections [(key, v)] := by
  refine ⟨List.nodup_singleton _, fun name hname w hw => ?_⟩
  rw [lookUp_outside hkey v hname] at hw
  exact absurd hw nofun

theorem inFields_outside (x : Setting) : x.inFields [(key, v)] = none := by
  rw [Setting.inFields, inSection, lookUp_outside hkey v x.section_mem_sectionNames]

end

theorem inFields_fieldsUnder {earlier later : List (String × Layer)} (hearlier : HasSections earlier)
    (hlater : HasSections later) (x : Setting) :
    x.inFields (fieldsUnder earlier later) = combine (x.inFields earlier) (x.inFields later) :=
  inSection_fieldsUnder hearlier hlater x.section_mem_sectionNames x.place.2

/-- The variables for settings stand at most once, and all others lead to no section. -/
structure WellNamed (env : List (String × String)) : Prop where
  nodup : (env.map Prod.fst).Nodup
  names : ∀ v ∈ env, (∃ x : Setting, v.1 = x.variableName) ∨ IsForeign v.1

theorem variableName_injective : Function.Injective Setting.variableName := by
  intro x y h
  cases x <;> cases y <;> first | rfl | exact absurd h (by decide)

theorem layer_concat (env : List (String × String)) (name s : String) :
    layer (env ++ [(name, s)]) =
      match path? name with
      | some path => (layer env).under (nested path (value s))
      | none => layer env := by
  rw [layer, List.foldl_append]
  rfl

theorem inEnvironment_eq_none {x : Setting} (h : x.variableName ∉ env.map Prod.fst) :
    x.inEnvironment env = none := by
  rw [Setting.inEnvironment, Option.map_eq_none_iff, List.lookup_eq_none_iff]
  intro v hv
  have hne : x.variableName ≠ v.1 := fun heq => h (heq ▸ List.mem_map_of_mem hv)
  simpa using hne

/-- One more variable at the end of an environment. -/
theorem inEnvironment_concat {name : String} (hnew : name ∉ env.map Prod.fst) (s : String)
    (x : Setting) : x.inEnvironment (env ++ [(name, s)]) =
      if x.variableName = name then some (value s) else x.inEnvironment env := by
  rw [Setting.inEnvironment, List.lookup_append, Option.map_or, ← Setting.inEnvironment]
  split
  · next hname =>
      subst hname
      rw [inEnvironment_eq_none hnew]
      simp
  · next hname =>
      have hne : (x.variableName == name) = false := by simpa using hname
      simp [List.lookup_cons, hne]

/-- An environment is a layer with the values of the variables for settings. -/
theorem layer_of_wellNamed (h : WellNamed env) :
    ∃ fields, layer env = .fields fields ∧ HasSections fields ∧
      ∀ x : Setting, x.inFields fields = x.inEnvironment env := by
  -- on the last variable, which is laid over those before it
  induction env using List.reverseRecOn with
  | nil => exact ⟨[], rfl, .nil, fun x => rfl⟩
  | append_singleton env last ih =>
      obtain ⟨name, s⟩ := last
      obtain ⟨hnodup, hnew⟩ : (env.map Prod.fst).Nodup ∧ name ∉ env.map Prod.fst := by
        have hall := h.nodup
        rw [List.map_append, List.map_singleton, List.nodup_append_comm] at hall
        exact (List.nodup_cons.mp hall).symm
      obtain ⟨fields, hlayer, hsections, hvalues⟩ :=
        ih ⟨hnodup, fun v hv => h.names v (List.mem_append_left _ hv)⟩
      rw [layer_concat, hlayer]
      rcases h.names (name, s) (List.mem_append_right _ List.mem_cons_self) with ⟨y, rfl⟩ | hforeign
      · rw [path?_variableName]
        refine ⟨_, under_nested .., hsections.fieldsUnder (hasSections_nested y _), fun x => ?_⟩
        rw [inFields_fieldsUnder hsections (hasSections_nested y _), inFields_nested, hvalues,
          inEnvironment_concat hnew]
        by_cases hxy : x = y
        · subst hxy
          rw [inEnvironment_eq_none hnew, if_pos rfl, if_pos rfl, none_combine]
        · rw [if_neg hxy, if_neg fun heq => hxy (variableName_injective heq), combine_none]
      · have hvaluesAll : ∀ x : Setting, x.inFields fields = x.inEnvironment (env ++ [(name, s)]) := by
          intro x
          rw [inEnvironment_concat hnew, if_neg (hforeign.variableName_ne x), hvalues]
        cases hpath : path? name with
        | none => exact ⟨fields, rfl, hsections, hvaluesAll⟩
        | some path =>
            obtain ⟨key, more, rfl, hkey⟩ := hforeign.path? hpath
            refine ⟨_, under_nested .., hsections.fieldsUnder (hasSections_outside hkey _),
              fun x => ?_⟩
            rw [inFields_fieldsUnder hsections (hasSections_outside hkey _),
              inFields_outside hkey, combine_none, hvaluesAll]

/-! ## No variables for settings -/

/-- No name starts as those of variables for settings do, whatever the case of its letters. -/
def NoVariables (env : List (String × String)) : Prop :=
  ∀ v ∈ env, ¬ namesStart <+: v.1.toList.map Char.toLower

instance : DecidablePred NoVariables :=
  fun env => inferInstanceAs (Decidable (∀ v ∈ env, _))

theorem path?_eq_none {name : String} (h : ¬ namesStart <+: name.toList.map Char.toLower) :
    path? name = none := by
  have hstart : namesStart.isPrefixOf (name.toList.map Char.toLower) = false :=
    Bool.eq_false_iff.mpr fun heq => h (List.isPrefixOf_iff_prefix.mp heq)
  rw [path?, hstart]
  rfl

theorem layer_of_noVariables (h : NoVariables env) : layer env = .fields [] := by
  induction env using List.reverseRecOn with
  | nil => rfl
  | append_singleton env last ih =>
      obtain ⟨name, s⟩ := last
      have hname := path?_eq_none (h (name, s) (List.mem_append_right _ List.mem_cons_self))
      rw [layer_concat, hname]
      exact ih fun v hv => h v (List.mem_append_left _ hv)

end Variable

end ScanRoster.Settings
