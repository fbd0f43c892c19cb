import ScanRoster.Proofs.Except
import ScanRoster.Proofs.Settings.Environment
import ScanRoster.Proofs.Toml.Distinct
import ScanRoster.Proofs.Toml.Document

/-!
# Settings are decided one by one

The standard settings, the file and the environment are laid over each other.  What comes out decides
each setting on its own: the environment has the last word, then the file, then the standard
(`load_layered`).  A section that one of them has in part takes nothing away from the others.
-/

namespace ScanRoster.Settings

open Layer Variable

/-! ## One setting -/

namespace Setting

/-- The value of a setting. -/
def valueIn (x : Setting) (s : Settings) : Layer :=
  match x with
  | .output => .text s.defaults.output
  | .color => .text s.defaults.color
  | .maxEntryAge => .text s.tracker.maxEntryAge
  | .scanInterval => .text s.tracker.scanInterval
  | .activeScanning => .flag s.tracker.activeScanning

/-- Whether a value has the type of a setting. -/
def Fits : Setting → Layer → Prop
  | .activeScanning, v => ∃ b, v = .flag b
  | _, v => ∃ s, v = .text s

/-- What the fields of a settings file have in the place of a setting. -/
def inFile (x : Setting) (fields : List (String × Toml.Value)) : Option Toml.Value :=
  match fields.lookup x.place.1 with
  | some (.table inner) => inner.lookup x.place.2
  | _ => none

/-- The value that counts: that of the environment, else that of the file, else the standard. -/
def chosen (x : Setting) (fields : List (String × Toml.Value)) (env : List (String × String)) :
    Layer :=
  ((x.inEnvironment env).or ((x.inFile fields).map Layer.ofToml)).getD (x.valueIn Settings.standard)

end Setting

/-- The fields of a settings file, none where there is no file. -/
def FileText.fields? : FileText → Option (List (String × Toml.Value))
  | .absent => some []
  | .text s => Toml.read? s
  | .garbled => none

/-- A file is well formed and has tables as sections, and the variables are named well. -/
structure Layered (file : FileText) (fields : List (String × Toml.Value))
    (env : List (String × String)) : Prop where
  read : file.fields? = some fields
  tables : ∀ name ∈ sectionNames, ∀ v, fields.lookup name = some v → ∃ inner, v = .table inner
  named : WellNamed env

/-! ## The file as a layer -/

theorem lookUp_ofTomlFields (key : String) (fields : List (String × Toml.Value)) :
    lookUp key (ofTomlFields fields) = (fields.lookup key).map ofToml := by
  induction fields with
  | nil => rfl
  | cons f fields ih =>
      obtain ⟨k, v⟩ := f
      rw [ofTomlFields, lookUp_cons, List.lookup_cons, ih]
      by_cases hk : k = key
      · simp [hk]
      · simp [hk, Ne.symm hk, beq_false_of_ne]

theorem keys_ofTomlFields (fields : List (String × Toml.Value)) :
    (ofTomlFields fields).map Prod.fst = fields.map Prod.fst := by
  induction fields with
  | nil => rfl
  | cons f fields ih => rw [ofTomlFields, List.map_cons, ih, List.map_cons]

theorem inFields_ofTomlFields (x : Setting) (fields : List (String × Toml.Value)) :
    x.inFields (ofTomlFields fields) = (x.inFile fields).map ofToml := by
  rw [Setting.inFields, inSection, Setting.inFile, lookUp_ofTomlFields]
  cases fields.lookup x.place.1 with
  | none => rfl
  | some v =>
      cases v with
      | table inner =>
          rw [Option.map_some, ofToml]
          exact lookUp_ofTomlFields ..
      | _ => rfl

theorem mem_of_lookup {fields : List (String × Toml.Value)} {key : String} {v : Toml.Value}
    (h : fields.lookup key = some v) : (key, v) ∈ fields := by
  obtain ⟨before, after, rfl, -⟩ := List.lookup_eq_some_iff.mp h
  exact List.mem_append_right _ List.mem_cons_self

section

variable {file : FileText} {fields : List (String × Toml.Value)} {env : List (String × String)}

theorem Layered.distinct (h : Layered file fields env) : (Toml.Value.table fields).Distinct := by
  cases file with
  | absent =>
      obtain rfl := Option.some.inj h.read
      exact .table List.nodup_nil nofun
  | text s => exact Toml.distinct_read? h.read
  | garbled => exact absurd h.read nofun

theorem Layered.fileLayer_eq (h : Layered file fields env) :
    fileLayer file = .ok (.fields (ofTomlFields fields)) := by
  cases file with
  | absent =>
      obtain rfl := Option.some.inj h.read
      rfl
  | text s =>
      have hread : Toml.read? s = some fields := h.read
      rw [fileLayer, hread]
  | garbled => exact absurd h.read nofun

theorem Layered.hasSections (h : Layered file fields env) : HasSections (ofTomlFields fields) := by
  obtain ⟨hkeys, hvalues⟩ := Toml.Value.distinct_table_iff.mp h.distinct
  refine ⟨by rwa [keys_ofTomlFields], fun name hname v hv => ?_⟩
  rw [lookUp_ofTomlFields] at hv
  obtain ⟨w, hw, rfl⟩ := Option.map_eq_some_iff.mp hv
  obtain ⟨inner, rfl⟩ := h.tables name hname w hw
  obtain ⟨hinner, -⟩ := Toml.Value.distinct_table_iff.mp (hvalues _ (mem_of_lookup hw))
  exact ⟨ofTomlFields inner, by rw [ofToml], by rwa [keys_ofTomlFields]⟩

end

/-! ## The settings that come out -/

/-- Settings from a value for each of them. -/
def ofValues (v : Setting → Layer) : Except LoadFault Settings := do
  let color ← textAt ["defaults", "color"] (v .color)
  let output ← textAt ["defaults", "output"] (v .output)
  let activeScanning ← flagAt ["tracker", "active_scanning"] (v .activeScanning)
  let maxEntryAge ← textAt ["tracker", "max_entry_age"] (v .maxEntryAge)
  let scanInterval ← textAt ["tracker", "scan_interval"] (v .scanInterval)
  return ⟨⟨output, color⟩, ⟨maxEntryAge, scanInterval, activeScanning⟩⟩

theorem settingAt_of_lookUp {α : Type} {name key : String} {standard : α}
    {read : List String → Layer → Except LoadFault α} {fields : List (String × Layer)} {v : Layer}
    (h : lookUp key fields = some v) :
    settingAt name key standard read (fields.map fun (k, v) => (k, k, v)) = read [name, key] v := by
  obtain ⟨⟨k, w⟩, hfind, rfl⟩ := Option.map_eq_some_iff.mp h
  obtain rfl : k = key := by simpa using List.find?_some hfind
  have hkeys : ((fun f : String × String × Layer => f.1 == k) ∘
      fun f : String × Layer => (f.1, f.1, f.2)) = (·.1 == k) := rfl
  rw [settingAt, List.find?_map, hkeys, hfind]
  rfl

/-- What a layer has in a section that is read. -/
theorem inFields_of_lookUp {fields inner : List (String × Layer)} {x : Setting} {v : Layer}
    (hsection : lookUp x.place.1 fields = some (.fields inner)) (hx : x.inFields fields = some v) :
    lookUp x.place.2 inner = some v := by
  rwa [Setting.inFields, inSection, hsection] at hx

theorem exists_section {fields : List (String × Layer)} {x : Setting} {v : Layer}
    (hx : x.inFields fields = some v) : ∃ inner, lookUp x.place.1 fields = some (.fields inner) := by
  rw [Setting.inFields, inSection] at hx
  split at hx
  · next inner hsection => exact ⟨inner, hsection⟩
  · cases hx

theorem outputSection_fields {inner : List (String × Layer)} {output color : Layer}
    (houtput : lookUp "output" inner = some output) (hcolor : lookUp "color" inner = some color) :
    outputSection (.fields inner) = do
      let color ← textAt ["defaults", "color"] color
      let output ← textAt ["defaults", "output"] output
      return ⟨output, color⟩ := by
  have hfields : outputSection (.fields inner) = do
      let fields := inner.map fun (k, v) => (k, k, v)
      let color ← settingAt "defaults" "color" Settings.standard.defaults.color textAt fields
      let output ← settingAt "defaults" "output" Settings.standard.defaults.output textAt fields
      return ⟨output, color⟩ := rfl
  rw [hfields]
  simp only [settingAt_of_lookUp hcolor, settingAt_of_lookUp houtput]

theorem trackerSection_fields {inner : List (String × Layer)} {active age interval : Layer}
    (hactive : lookUp "active_scanning" inner = some active)
    (hage : lookUp "max_entry_age" inner = some age)
    (hinterval : lookUp "scan_interval" inner = some interval) :
    trackerSection (.fields inner) = do
      let activeScanning ← flagAt ["tracker", "active_scanning"] active
      let maxEntryAge ← textAt ["tracker", "max_entry_age"] age
      let scanInterval ← textAt ["tracker", "scan_interval"] interval
      return ⟨maxEntryAge, scanInterval, activeScanning⟩ := by
  have hfields : trackerSection (.fields inner) = do
      let fields := inner.map fun (k, v) => (k, k, v)
      let standard := Settings.standard.tracker
      let activeScanning ←
        settingAt "tracker" "active_scanning" standard.activeScanning flagAt fields
      let maxEntryAge ← settingAt "tracker" "max_entry_age" standard.maxEntryAge textAt fields
      let scanInterval ← settingAt "tracker" "scan_interval" standard.scanInterval textAt fields
      return ⟨maxEntryAge, scanInterval, activeScanning⟩ := rfl
  rw [hfields]
  simp only [settingAt_of_lookUp hactive, settingAt_of_lookUp hage, settingAt_of_lookUp hinterval]

/-- If each setting has a value, these values decide. -/
theorem ofLayer_fields {fields : List (String × Layer)} {v : Setting → Layer}
    (hv : ∀ x : Setting, x.inFields fields = some (v x)) :
    ofLayer (.fields fields) = ofValues v := by
  obtain ⟨defaults, hdefaults⟩ := exists_section (hv .output)
  obtain ⟨tracker, htracker⟩ := exists_section (hv .activeScanning)
  have houtput := outputSection_fields (inFields_of_lookUp (x := .output) hdefaults (hv .output))
    (inFields_of_lookUp (x := .color) hdefaults (hv .color))
  have hsection := trackerSection_fields
    (inFields_of_lookUp (x := .activeScanning) htracker (hv .activeScanning))
    (inFields_of_lookUp (x := .maxEntryAge) htracker (hv .maxEntryAge))
    (inFields_of_lookUp (x := .scanInterval) htracker (hv .scanInterval))
  simp only [Setting.place] at hdefaults htracker
  simp only [ofLayer, hdefaults, htracker, houtput, hsection, ofValues, bind_assoc, pure_bind]

theorem textAt_eq_ok_iff {path : List String} {v : Layer} {s : String} :
    textAt path v = .ok s ↔ v = .text s := by
  cases v <;> simp [textAt]

theorem flagAt_eq_ok_iff {path : List String} {v : Layer} {b : Bool} :
    flagAt path v = .ok b ↔ v = .flag b := by
  cases v <;> simp [flagAt]

/-- Values of the right types, and only these, are settings. -/
theorem ofValues_eq_ok_iff {v : Setting → Layer} {s : Settings} :
    ofValues v = .ok s ↔ ∀ x, v x = x.valueIn s := by
  simp only [ofValues, bind_eq_ok_iff, textAt_eq_ok_iff, flagAt_eq_ok_iff]
  constructor
  · rintro ⟨color, hcolor, output, houtput, active, hactive, age, hage, interval, hinterval, hs⟩
    obtain rfl := Except.ok.inj hs
    intro x
    cases x
    · exact houtput
    · exact hcolor
    · exact hage
    · exact hinterval
    · exact hactive
  · intro h
    exact ⟨_, h .color, _, h .output, _, h .activeScanning, _, h .maxEntryAge, _, h .scanInterval,
      rfl⟩

/-! ## The layers together -/

theorem text_eq_under_iff {earlier later : Layer} {s : String} :
    earlier.under later = .text s ↔ later = .text s := by
  cases later with
  | fields fs => cases earlier <;> simp [under]
  | _ => simp [under]

theorem flag_eq_under_iff {earlier later : Layer} {b : Bool} :
    earlier.under later = .flag b ↔ later = .flag b := by
  cases later with
  | fields fs => cases earlier <;> simp [under]
  | _ => simp [under]

/-- Laid over another value or not, a value is that of a setting or is not. -/
theorem under_eq_valueIn_iff {earlier later : Layer} (x : Setting) (s : Settings) :
    earlier.under later = x.valueIn s ↔ later = x.valueIn s := by
  cases x with
  | activeScanning => exact flag_eq_under_iff
  | _ => exact text_eq_under_iff

theorem combine_some (w : Layer) (later : Option Layer) :
    combine (some w) later = some (later.elim w w.under) := by
  cases later <;> rfl

/-- What the three layers have in the place of a setting. -/
def laid (x : Setting) (fields : List (String × Toml.Value)) (env : List (String × String)) :
    Layer :=
  let standard := x.valueIn Settings.standard
  let saved := ((x.inFile fields).map ofToml).elim standard standard.under
  (x.inEnvironment env).elim saved saved.under

/-- The layers agree with the value that counts, as far as settings go. -/
theorem laid_eq_valueIn_iff (x : Setting) (fields : List (String × Toml.Value))
    (env : List (String × String)) (s : Settings) :
    laid x fields env = x.valueIn s ↔ x.chosen fields env = x.valueIn s := by
  rw [laid, Setting.chosen]
  cases x.inEnvironment env with
  | some v => exact under_eq_valueIn_iff x s
  | none =>
      cases (x.inFile fields).map ofToml with
      | some v => exact under_eq_valueIn_iff x s
      | none => exact Iff.rfl

theorem hasSections_standard : ∃ fields, Settings.standard.toLayer = .fields fields ∧
    HasSections fields ∧ ∀ x : Setting, x.inFields fields = some (x.valueIn Settings.standard) := by
  refine ⟨_, rfl, ⟨by decide, fun name hname v hv => ?_⟩, fun x => by cases x <;> rfl⟩
  simp only [sectionNames, List.mem_cons, List.not_mem_nil, or_false] at hname
  rcases hname with rfl | rfl
  · obtain rfl := Option.some.inj hv
    exact ⟨_, rfl, by decide⟩
  · obtain rfl := Option.some.inj hv
    exact ⟨_, rfl, by decide⟩

section

variable {file : FileText} {fields : List (String × Toml.Value)} {env : List (String × String)}

/-- The layers decide by what they have in the places of settings, and by nothing else. -/
theorem load_eq_ofValues (h : Layered file fields env) :
    load file env = ofValues fun x => laid x fields env := by
  obtain ⟨standard, hstandard, hsections, hvalues⟩ := hasSections_standard
  obtain ⟨env', henv, hsections', hvalues'⟩ := layer_of_wellNamed h.named
  have hform : load file env =
      ofLayer (.fields (fieldsUnder (fieldsUnder standard (ofTomlFields fields)) env')) := by
    rw [load, h.fileLayer_eq, hstandard, henv]
    rfl
  rw [hform]
  refine ofLayer_fields fun x => ?_
  rw [inFields_fieldsUnder (hsections.fieldsUnder h.hasSections) hsections',
    inFields_fieldsUnder hsections h.hasSections, hvalues, inFields_ofTomlFields, hvalues',
    combine_some, combine_some]
  rfl

theorem fits_valueIn (x : Setting) (s : Settings) : x.Fits (x.valueIn s) := by
  cases x <;> exact ⟨_, rfl⟩

/-- Values of the right types are the values of some settings. -/
theorem exists_valueIn {v : Setting → Layer} (h : ∀ x : Setting, x.Fits (v x)) :
    ∃ s : Settings, ∀ x, v x = x.valueIn s := by
  obtain ⟨output, houtput⟩ := h .output
  obtain ⟨color, hcolor⟩ := h .color
  obtain ⟨age, hage⟩ := h .maxEntryAge
  obtain ⟨interval, hinterval⟩ := h .scanInterval
  obtain ⟨active, hactive⟩ := h .activeScanning
  refine ⟨⟨⟨output, color⟩, ⟨age, interval, active⟩⟩, fun x => ?_⟩
  cases x <;> assumption

/-- For a well-formed file whose sections, where they are there, are tables, or for no file, and for
an environment in which variables that lead to sections are those of settings:  each setting is
decided on its own, by the environment if its variable is set, else by the file if it is there, else
by the standard; settings are loaded exactly if all values so chosen have the types of their
settings; and nothing else in the file or in the environment changes what loading gives. -/
theorem load_layered (h : Layered file fields env) :
    (∀ s, load file env = .ok s ↔ ∀ x : Setting, x.chosen fields env = x.valueIn s) ∧
    ((∃ s, load file env = .ok s) ↔ ∀ x : Setting, x.Fits (x.chosen fields env)) ∧
    (∀ file' fields' env', Layered file' fields' env' →
      (∀ x : Setting, x.inFile fields' = x.inFile fields) →
      (∀ x : Setting, x.inEnvironment env' = x.inEnvironment env) →
      load file' env' = load file env) := by
  have hload : ∀ s, load file env = .ok s ↔ ∀ x : Setting, x.chosen fields env = x.valueIn s := by
    intro s
    rw [load_eq_ofValues h, ofValues_eq_ok_iff]
    exact forall_congr' fun x => laid_eq_valueIn_iff x fields env s
  refine ⟨hload, ?_, fun file' fields' env' h' hfile henv => ?_⟩
  · simp only [hload]
    constructor
    · rintro ⟨s, hs⟩ x
      rw [hs x]
      exact fits_valueIn x s
    · exact exists_valueIn
  · rw [load_eq_ofValues h, load_eq_ofValues h']
    simp only [laid, hfile, henv]

end

/-- A value of another type does not count where the environment overrides it, nor do keys that
nothing reads. -/
theorem load_layered_overridden :
    (∃ fields, Layered (.text "[defaults]\ncolor = true\nsize = true\n") fields
        [("HOME", "/home"), ("WIFITRACK_DEFAULTS__COLOR", "never"), ("WIFITRACK_OUTPUT", "json")] ∧
      load (.text "[defaults]\ncolor = true\nsize = true\n")
        [("HOME", "/home"), ("WIFITRACK_DEFAULTS__COLOR", "never"), ("WIFITRACK_OUTPUT", "json")] =
          .ok ⟨⟨"table", "never"⟩, ⟨"15s", "10s", true⟩⟩) ∧
    load (.text "[defaults]\ncolor = true\n") [("WIFITRACK_DEFAULTS__COLOR", "never")] =
      .ok ⟨⟨"table", "never"⟩, ⟨"15s", "10s", true⟩⟩ := by
  have hread : Toml.read? "[defaults]\ncolor = true\nsize = true\n" =
      some [("defaults", .table [("color", .flag true), ("size", .flag true)])] :=
    Toml.read?_encodeTable (by decide)
      [⟨"color", .flag true, _, by decide, Toml.isWrittenAs_flag true⟩,
        ⟨"size", .flag true, _, by decide, Toml.isWrittenAs_flag true⟩] (by decide) (by decide)
  have hread' : Toml.read? "[defaults]\ncolor = true\n" =
      some [("defaults", .table [("color", .flag true)])] :=
    Toml.read?_encodeTable (by decide)
      [⟨"color", .flag true, _, by decide, Toml.isWrittenAs_flag true⟩] (by decide) (by decide)
  have hnamed : WellNamed [("HOME", "/home"), ("WIFITRACK_DEFAULTS__COLOR", "never"),
      ("WIFITRACK_OUTPUT", "json")] := by
    refine ⟨by decide, fun v hv => ?_⟩
    simp only [List.mem_cons, List.not_mem_nil, or_false] at hv
    rcases hv with rfl | rfl | rfl
    · exact .inr (by decide)
    · exact .inl ⟨.color, rfl⟩
    · exact .inr (by decide)
  have hnamed' : WellNamed [("WIFITRACK_DEFAULTS__COLOR", "never")] := by
    refine ⟨by decide, fun v hv => .inl ⟨.color, ?_⟩⟩
    obtain rfl := List.mem_singleton.mp hv
    rfl
  have hstandard : Settings.standard = ⟨⟨"table", "auto"⟩, ⟨"15s", "10s", true⟩⟩ := by decide
  have htables : ∀ inner : List (String × Toml.Value), ∀ name ∈ sectionNames, ∀ v,
      List.lookup name [("defaults", Toml.Value.table inner)] = some v →
        ∃ inner, v = Toml.Value.table inner := by
    intro inner name _ v hv
    obtain ⟨-, rfl⟩ := Prod.mk.inj (List.mem_singleton.mp (mem_of_lookup hv))
    exact ⟨inner, rfl⟩
  have h : Layered (.text "[defaults]\ncolor = true\nsize = true\n") _ _ :=
    ⟨hread, htables _, hnamed⟩
  have h' : Layered (.text "[defaults]\ncolor = true\n") _ _ := ⟨hread', htables _, hnamed'⟩
  obtain ⟨hload, hfits, hother⟩ := load_layered h
  have hchosen := (hload ⟨⟨"table", "never"⟩, ⟨"15s", "10s", true⟩⟩).mpr fun x => by
    rw [Setting.chosen, hstandard]
    cases x <;> rfl
  refine ⟨⟨_, h, hchosen⟩, ?_⟩
  rw [hother _ _ _ h' (fun x => by cases x <;> rfl) fun x => by cases x <;> rfl, hchosen]

/-- The names of variables count without the case of their letters and without blanks in front.  The
ones here are none of those for settings, and no section's name stands in them as it is written
there, and yet they decide a setting. -/
theorem load_other_spellings :
    load (.text "") [] = .ok Settings.standard ∧
    ∀ name ∈ ["WIFITRACK_defaults__color", "WIFITRACK_ DEFAULTS__COLOR"],
      (∀ x : Setting, name ≠ x.variableName) ∧
      ¬ "WIFITRACK_DEFAULTS".toList <+: name.toList ∧
      ¬ "WIFITRACK_TRACKER".toList <+: name.toList ∧
      load (.text "") [(name, "never")] = .ok ⟨⟨"table", "never"⟩, Settings.standard.tracker⟩ := by
  have hlayer : ∀ name ∈ ["WIFITRACK_defaults__color", "WIFITRACK_ DEFAULTS__COLOR"],
      layer [(name, "never")] = .fields [("defaults", .fields [("color", .text "never")])] := by
    intro name hname
    simp only [List.mem_cons, List.not_mem_nil, or_false] at hname
    rcases hname with rfl | rfl <;> rfl
  have hnames : ∀ name ∈ ["WIFITRACK_defaults__color", "WIFITRACK_ DEFAULTS__COLOR"],
      (∀ x : Setting, name ≠ x.variableName) ∧ ¬ "WIFITRACK_DEFAULTS".toList <+: name.toList ∧
        ¬ "WIFITRACK_TRACKER".toList <+: name.toList := by
    intro name hname
    refine ⟨fun x => ?_, ?_⟩
    · revert name
      cases x <;> decide
    · revert name
      decide
  refine ⟨rfl, fun name hname => ?_⟩
  obtain ⟨hother, hdefaults, htracker⟩ := hnames name hname
  refine ⟨hother, hdefaults, htracker, ?_⟩
  rw [load, hlayer name hname]
  rfl

end ScanRoster.Settings
