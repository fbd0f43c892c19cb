import ScanRoster.Proofs.Settings.Environment
import ScanRoster.Proofs.Toml.Document

/-!
# Saved settings are loaded again

The settings file is read line by line as it was written, and what it says is laid over the standard
settings value by value.  So the settings come back as they were saved, whatever their texts are
(`load_toToml`).
-/

namespace ScanRoster.Settings

open Toml

/-- What is written for the preferences of the command line. -/
def writtenDefaults (s : Settings) : List WrittenField :=
  [⟨"output", .text s.defaults.output, _, by decide, isWrittenAs_text _⟩,
    ⟨"color", .text s.defaults.color, _, by decide, isWrittenAs_text _⟩]

/-- What is written for the tracker. -/
def writtenTracker (s : Settings) : List WrittenField :=
  [⟨"max_entry_age", .text s.tracker.maxEntryAge, _, by decide, isWrittenAs_text _⟩,
    ⟨"scan_interval", .text s.tracker.scanInterval, _, by decide, isWrittenAs_text _⟩,
    ⟨"active_scanning", .flag s.tracker.activeScanning, _, by decide, isWrittenAs_flag _⟩]

/-- What a settings file holds. -/
def toFields (s : Settings) : List (String × Value) :=
  [("defaults", .table (s.writtenDefaults.map WrittenField.field)),
    ("tracker", .table (s.writtenTracker.map WrittenField.field))]

theorem toList_toToml (s : Settings) : s.toToml.toList =
    encodeTable "defaults" (s.writtenDefaults.map WrittenField.line) ++
      '\n' :: (encodeTable "tracker" (s.writtenTracker.map WrittenField.line) ++ []) := by
  rw [toToml, String.toList_ofList, List.append_nil]
  rfl

/-- A settings file is read as what it holds. -/
theorem read?_toToml (s : Settings) : read? s.toToml = some s.toFields := by
  have hdefaults := lt_length_encodeTable "defaults" s.writtenDefaults
  have htracker := lt_length_encodeTable "tracker" s.writtenTracker
  have hlength : s.toToml.toList.length =
      (encodeTable "defaults" (s.writtenDefaults.map WrittenField.line)).length +
        ((encodeTable "tracker" (s.writtenTracker.map WrittenField.line)).length + 1) := by
    simp [toList_toToml]
  obtain ⟨fuel, hfuel⟩ : ∃ fuel, s.toToml.toList.length + 1 =
      fuel + 1 + (s.writtenTracker.length + 1) + 1 + (s.writtenDefaults.length + 1) :=
    ⟨s.toToml.toList.length - (s.writtenTracker.length + s.writtenDefaults.length + 3), by omega⟩
  have hlines : lines? (s.toToml.toList.length + 1) ⟨[], []⟩ s.toToml.toList =
      some ⟨[("defaults", .table false false (s.writtenDefaults.map WrittenField.item)),
        ("tracker", .table false false (s.writtenTracker.map WrittenField.item))], ["tracker"]⟩ := by
    rw [hfuel, toList_toToml, lines?_encodeTable (by decide) List.not_mem_nil
        (by simp [writtenDefaults]), lines?_newline,
      lines?_encodeTable (by decide) (by simp) (by simp [writtenTracker])]
    rfl
  have hmark : s.toToml.toList.head? ≠ some '\ufeff' := by
    rw [toList_toToml]
    simp [encodeTable]
  rw [read?_of_lines? hmark hlines]
  simp [completeFields, Item.complete, completeFields_items, toFields]

/-- What a settings file holds is laid over the standard settings as a whole. -/
theorem ofLayer_toFields (s : Settings) :
    ofLayer ((Settings.standard.toLayer.under (.fields (Layer.ofTomlFields s.toFields))).under
      (.fields [])) = .ok s :=
  rfl

/-- Saved settings are loaded as they are. -/
theorem load_toToml (s : Settings) {env : List (String × String)} (h : Variable.NoVariables env) :
    load (.text s.toToml) env = .ok s := by
  rw [load, fileLayer, read?_toToml, Variable.layer_of_noVariables h]
  exact ofLayer_toFields s

/-! ## The text that is shown -/

theorem trimEnd_newline {text : List Char} {c : Char} (hc : Text.isBlank c = false) :
    Text.trimEnd (text ++ [c, '\n']) = text ++ [c] := by
  have hnewline : Text.isBlank '\n' = true := by decide
  simp [Text.trimEnd, hc, hnewline]

/-- The line end is cut off a settings file, and nothing else. -/
theorem trimEnd_toToml (s : Settings) :
    ∃ text, Text.trimEnd s.toToml.toList = text ∧ text ≠ [] ∧ text ++ ['\n'] = s.toToml.toList := by
  have hfield : encodeField "active_scanning" (encodeFlag s.tracker.activeScanning) <:+
      s.toToml.toList := by
    refine ⟨encodeTable "defaults" [("output", encodeText s.defaults.output.toList),
      ("color", encodeText s.defaults.color.toList)] ++ '\n' :: encodeTable "tracker" [
        ("max_entry_age", encodeText s.tracker.maxEntryAge.toList),
        ("scan_interval", encodeText s.tracker.scanInterval.toList)], ?_⟩
    simp [toToml, encodeTable]
  have hend : ['e', '\n'] <:+ encodeField "active_scanning" (encodeFlag s.tracker.activeScanning) := by
    cases s.tracker.activeScanning
    · exact ⟨"active_scanning = fals".toList, rfl⟩
    · exact ⟨"active_scanning = tru".toList, rfl⟩
  obtain ⟨text, htext⟩ := hend.trans hfield
  refine ⟨text ++ ['e'], ?_, by simp, by simp [← htext]⟩
  rw [← htext]
  exact trimEnd_newline (by decide)

end ScanRoster.Settings
