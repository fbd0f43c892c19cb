import ScanRoster.Proofs.Json.Compact
import ScanRoster.Proofs.Json.Reading
import ScanRoster.Proofs.Record.Format
import ScanRoster.Replay.Script

/-!
# The format of scripts

A script is read from an object of which the only field is the list of its steps.  Steps and scans are
objects as well, with the fields they know and no others, and a scan lists sightings.  So whatever is
read has the steps and the sightings of the text in their order, with the values that stand there, and
in the place of a field that was left out what is taken for it (`Script.ofText_eq_ok_iff`).
-/

namespace ScanRoster

open Document Json

/-! ## Lists in the place of records -/

namespace Json

/-- A list. -/
def IsList (v : Json) : Prop :=
  ∃ items, v = .arr items

/-- An object that has a value under a key. -/
def Holds (v : Json) (name : String) (w : Json) : Prop :=
  ∃ fields, v = .obj fields ∧ fields.lookup name = some w

/-- A state of the radio, by its code. -/
def IsRadioState (v : Json) (s : RadioState) : Prop :=
  IsCode RadioState.code v s

theorem readRadioState_eq_ok_iff {v : Json} {s : RadioState} :
    RadioState.read .jsonText v.document = .ok s ↔ IsRadioState v s := by
  have hall : ∀ s : RadioState, s ∈ RadioState.all := by
    intro s
    cases s <;> decide
  have hcode : Function.Injective RadioState.code := by
    intro s t h
    exact Option.some.inj ((RadioState.ofCode?_code s).symm.trans (h ▸ RadioState.ofCode?_code t))
  exact readCode_eq_ok_iff (lookUp_map_eq_ok_iff hall hcode)

end Json

namespace Replay

/-- Neither a scan nor any of its records is written as a list. -/
def Scan.Unlisted (v : Json) : Prop :=
  ¬ v.IsList ∧ ∀ records, v.Holds "records" (.arr records) → ∀ r ∈ records, ¬ r.IsList

/-- Neither a step nor its scan nor any record of that is written as a list. -/
def Step.Unlisted (v : Json) : Prop :=
  ¬ v.IsList ∧ ∀ scan, v.Holds "scan" scan → Scan.Unlisted scan

/-- Neither a script nor any of its steps, their scans and the records of these is written as a list. -/
def Script.Unlisted (v : Json) : Prop :=
  ¬ v.IsList ∧ ∀ steps, v.Holds "steps" (.arr steps) → ∀ step ∈ steps, Step.Unlisted step

/-! ## Scans -/

namespace Scan

/-- What a scan is written as. -/
def Form (v : Json) (scan : Scan) : Prop :=
  ∃ fields, v = .obj fields ∧ (∀ f ∈ fields, f.1 ∈ ["succeeded", "records"]) ∧
    FieldOr "succeeded" IsFlag true fields scan.succeeded ∧
    FieldOr "records" (ListOf Sighting.Form) [] fields scan.records

/-- The places of a scan. -/
def slots : List (Slot Scan) :=
  [⟨"succeeded", _, Scan.succeeded, fun scan b => { scan with succeeded := b }, readFlag⟩,
    ⟨"records", _, Scan.records, fun scan records => { scan with records },
      fun d => d.readList (Sighting.read .jsonText)⟩]

theorem hasSlots_shape : (shape .jsonText).HasSlots slots where
  names name := by simp [shape, slots, eq_comm]
  take := by simp [shape, slots]
  get_set := by simp [slots]
  get_set_ne := by simp [slots]
  ext scan scan' h := by
    cases scan
    cases scan'
    simp_all [slots]

/-- A scan is filled from the fields of an object. -/
theorem filled_iff {fields : List (String × Json)} {scan : Scan} (hv : (Json.obj fields).Distinct)
    (hlist : Unlisted (.obj fields)) :
    (∀ slot ∈ slots, slot.Filled fields (shape .jsonText).blank scan) ↔
      FieldOr "succeeded" IsFlag true fields scan.succeeded ∧
      FieldOr "records" (ListOf Sighting.Form) [] fields scan.records := by
  simp only [slots, List.forall_mem_cons, List.not_mem_nil, IsEmpty.forall_iff, implies_true,
    and_true]
  refine and_congr (Slot.filled_iff fun v _ b => readFlag_eq_ok_iff)
    (Slot.filled_iff fun v hrecords records => readList_eq_ok_iff ?_)
  rintro items rfl r hr s
  refine Sighting.read_eq_ok_iff (by decide) (fun inner h => ?_) ?_
  · exact hlist.2 items ⟨fields, rfl, hrecords⟩ r hr ⟨inner, h⟩
  · rintro fields rfl
    exact ((hv.value hrecords).item hr).keys

/-- A scan is read from what it is written as, and from nothing else. -/
theorem read_eq_ok_iff {v : Json} {scan : Scan} (hv : v.Distinct) (hlist : Unlisted v) :
    v.document.readRecord .jsonText (shape .jsonText) = .ok scan ↔ Form v scan := by
  rw [readRecord_strict_eq_ok_iff (by decide) hasSlots_shape rfl rfl
    (fun items h => hlist.1 ⟨items, h⟩) fun fields h => (h ▸ hv).keys]
  refine exists_congr fun fields => and_congr_right ?_
  rintro rfl
  exact and_congr_right fun _ => filled_iff hv hlist

end Scan

/-! ## Steps -/

namespace Step

/-- What a step is written as. -/
def Form (v : Json) (step : Step) : Prop :=
  ∃ fields, v = .obj fields ∧
    (∀ f ∈ fields, f.1 ∈ ["at_millis", "radio_state", "scan", "source_error"]) ∧
    FieldIs "at_millis" IsTime fields step.atMillis ∧
    FieldOr "radio_state" (OrNull IsRadioState) none fields step.radioState ∧
    FieldOr "scan" (OrNull Scan.Form) none fields step.scan ∧
    FieldOr "source_error" (OrNull IsString) none fields step.sourceError

/-- The places of a draft. -/
def slots : List (Slot Draft) :=
  [⟨"at_millis", _, Draft.atMillis, fun draft o => { draft with atMillis := o },
      fun d => some <$> d.readTime⟩,
    ⟨"radio_state", _, Draft.radioState, fun draft o => { draft with radioState := o },
      fun d => d.readOptional (RadioState.read .jsonText)⟩,
    ⟨"scan", _, Draft.scan, fun draft o => { draft with scan := o },
      fun d => d.readOptional fun v => v.readRecord .jsonText (Scan.shape .jsonText)⟩,
    ⟨"source_error", _, Draft.sourceError, fun draft o => { draft with sourceError := o },
      fun d => d.readOptional readText⟩]

theorem hasSlots_shape : (shape .jsonText).HasSlots slots where
  names name := by simp [shape, slots, eq_comm]
  take := by simp [shape, slots]
  get_set := by simp [slots]
  get_set_ne := by simp [slots]
  ext draft draft' h := by
    cases draft
    cases draft'
    simp_all [slots]

/-- A draft is filled from the fields of an object. -/
theorem filled_iff {fields : List (String × Json)} {draft : Draft}
    (hv : (Json.obj fields).Distinct) (hlist : Unlisted (.obj fields)) :
    (∀ slot ∈ slots, slot.Filled fields (shape .jsonText).blank draft) ↔
      FieldOr "at_millis" (Given IsTime) none fields draft.atMillis ∧
      FieldOr "radio_state" (OrNull IsRadioState) none fields draft.radioState ∧
      FieldOr "scan" (OrNull Scan.Form) none fields draft.scan ∧
      FieldOr "source_error" (OrNull IsString) none fields draft.sourceError := by
  simp only [slots, List.forall_mem_cons, List.not_mem_nil, IsEmpty.forall_iff, implies_true,
    and_true]
  refine and_congr (Slot.filled_iff fun v _ o => given_iff fun t => readTime_eq_ok_iff) <|
    and_congr (Slot.filled_iff fun v _ o => ?_) <|
    and_congr (Slot.filled_iff fun v hscan o => ?_) (Slot.filled_iff fun v _ o => ?_)
  · exact readOptional_eq_ok_iff (fun s => readRadioState_eq_ok_iff) nofun
  · refine readOptional_eq_ok_iff (fun scan => Scan.read_eq_ok_iff (hv.value hscan) ?_) nofun
    exact hlist.2 v ⟨fields, rfl, hscan⟩
  · exact readOptional_eq_ok_iff (fun s => readText_eq_ok_iff) nofun

/-- A step is read from what it is written as, and from nothing else. -/
theorem read_eq_ok_iff {v : Json} {step : Step} (hv : v.Distinct) (hlist : Unlisted v) :
    v.document.readRecord .jsonText (shape .jsonText) = .ok step ↔ Form v step := by
  rw [readRecord_eq_ok_iff (by decide) hasSlots_shape
    (fun items h => hlist.1 ⟨items, h⟩) fun fields h => (h ▸ hv).keys]
  constructor
  · rintro ⟨fields, rfl, hknown, draft, hfilled, hfinish⟩
    obtain ⟨htime, hothers⟩ := (filled_iff hv hlist).mp hfilled
    obtain ⟨time, ht, hfinish⟩ := bind_eq_ok_iff.mp hfinish
    rw [required_eq_ok_iff.mp ht] at htime
    obtain rfl := Except.ok.inj hfinish
    exact ⟨fields, rfl, hknown.resolve_left Bool.false_ne_true, fieldIs_iff.mpr htime, hothers⟩
  · rintro ⟨fields, rfl, hknown, htime, hothers⟩
    refine ⟨fields, rfl, .inr hknown,
      ⟨some step.atMillis, step.radioState, step.scan, step.sourceError⟩, ?_, rfl⟩
    exact (filled_iff hv hlist).mpr ⟨fieldIs_iff.mp htime, hothers⟩

end Step

/-! ## Scripts -/

namespace Script

/-- What a script is written as. -/
def Form (v : Json) (script : Script) : Prop :=
  ∃ fields, v = .obj fields ∧ (∀ f ∈ fields, f.1 ∈ ["steps"]) ∧
    FieldOr "steps" (ListOf Step.Form) [] fields script.steps

/-- The place of the steps. -/
def slots : List (Slot Script) :=
  [⟨"steps", _, Script.steps, fun _ steps => { steps },
    fun d => d.readList fun v => v.readRecord .jsonText (Step.shape .jsonText)⟩]

theorem hasSlots_shape : (shape .jsonText).HasSlots slots where
  names name := by simp [shape, slots, eq_comm]
  take := by simp [shape, slots]
  get_set := by simp [slots]
  get_set_ne := by simp [slots]
  ext script script' h := by
    cases script
    cases script'
    simp_all [slots]

/-- A script is filled from the fields of an object. -/
theorem filled_iff {fields : List (String × Json)} {script : Script}
    (hv : (Json.obj fields).Distinct) (hlist : Unlisted (.obj fields)) :
    (∀ slot ∈ slots, slot.Filled fields (shape .jsonText).blank script) ↔
      FieldOr "steps" (ListOf Step.Form) [] fields script.steps := by
  simp only [slots, List.forall_mem_cons, List.not_mem_nil, IsEmpty.forall_iff, implies_true,
    and_true]
  refine Slot.filled_iff fun v hsteps steps => readList_eq_ok_iff ?_
  rintro items rfl w hw step
  refine Step.read_eq_ok_iff ((hv.value hsteps).item hw) ?_
  exact hlist.2 items ⟨fields, rfl, hsteps⟩ w hw

/-- A script is read from what it is written as, and from nothing else. -/
theorem read_eq_ok_iff {v : Json} {script : Script} (hv : v.Distinct) (hlist : Unlisted v) :
    read .jsonText v.document = .ok script ↔ Form v script := by
  rw [read, readRecord_strict_eq_ok_iff (by decide) hasSlots_shape rfl rfl
    (fun items h => hlist.1 ⟨items, h⟩) fun fields h => (h ▸ hv).keys]
  refine exists_congr fun fields => and_congr_right ?_
  rintro rfl
  exact and_congr_right fun _ => filled_iff hv hlist

/-- Whatever the text of a value under a path that names no YAML file, the script in it is read if and
only if the value is what a script is written as. -/
theorem ofText_eq_ok_iff {path text : String} {v : Json} {script : Script}
    (hpath : isYamlPath path = false) (htext : v.IsText text) (hv : v.Distinct)
    (hlist : Unlisted v) : ofText path text = .ok script ↔ Form v script := by
  have hread : ofText path text = read .jsonText v.document := by
    rw [ofText, if_neg (by simp [hpath]), ofJsonText, ofJsonText_isText htext]
    exact bind_pure _
  rw [hread, read_eq_ok_iff hv hlist]

/-- A step with a scan of one sighting, which has a field that sightings do not know. -/
theorem ofText_eq_ok_iff_sighting :
    let scan := Json.obj [("records", .arr
      [.obj [("bssid", .str "02:00"), ("timestamp_millis", .int 4), ("note", .arr [])]])]
    let v := Json.obj [("steps", .arr [.obj [("at_millis", .int 5), ("scan", scan)]])]
    ofText "walk.json" v.compactText =
      .ok ⟨[⟨5, none, some ⟨true, [⟨none, "02:00", "", 4, none, none⟩]⟩, none⟩]⟩ := by
  intro scan v
  have hpath : isYamlPath "walk.json" = false := by decide +kernel
  have hintegral : v.Integral := by
    simp [v, scan, integral_obj_iff, integral_arr_iff, Integral.str, Integral.int]
  have hdistinct : v.Distinct := by
    simp [v, scan, distinct_obj_iff, distinct_arr_iff, Distinct.str, Distinct.num, Json.int]
  have hlist : Unlisted v := by
    simp [v, scan, Unlisted, Step.Unlisted, Scan.Unlisted, IsList, Holds, List.lookup_cons]
  refine (ofText_eq_ok_iff hpath (isText_compactText hintegral) hdistinct hlist).mpr ?_
  simp [v, scan, Form, Step.Form, Scan.Form, Sighting.Form, FieldIs, FieldOr, ListOf, OrNull,
    IsTime, IsString, List.lookup_cons]
  rintro name _ (⟨rfl, -⟩ | ⟨rfl, -⟩) <;> decide

end Script

end Replay

end ScanRoster
