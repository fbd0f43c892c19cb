import ScanRoster.Proofs.Document.Format
import ScanRoster.Proofs.Record.Format
import ScanRoster.Record.Json

/-!
# Records survive JSON

The formats of sightings, observations, keys and entries, column by column.
-/

namespace ScanRoster

open Document Json

namespace Document

variable {α β : Type} (name : String)

@[simp] theorem required_none_bind (f : α → Except Fault β) :
    required name none >>= f = .error (.missingField name) := rfl

@[simp] theorem required_some_bind (a : α) (f : α → Except Fault β) :
    required name (some a) >>= f = f a := rfl

@[simp] theorem map_required_none (f : α → β) :
    f <$> required name none = .error (.missingField name) := rfl

@[simp] theorem map_required_some (a : α) (f : α → β) :
    f <$> required name (some a) = .ok (f a) := rfl

end Document

/-! ## Kinds of values -/

namespace Json

/-- The normal form of a code: its text, also where it is the only key of an object that has null under
it. -/
def normalCode : Json → Json
  | .obj [(code, .null)] => .str code
  | v => v

theorem isCode_iff {α : Type} {code : α → String} {v : Json} {a : α} :
    IsCode code v a ↔ normalCode v = .str (code a) := by
  rw [IsCode]
  constructor
  · rintro (rfl | rfl) <;> rfl
  · intro h
    unfold normalCode at h
    split at h
    · next name =>
        obtain rfl := Json.str.inj h
        exact .inr rfl
    · exact .inl h

end Json

namespace Document.Kind

/-- Texts. -/
def text : Kind String :=
  .plain readText .str

/-- Texts that may be missing. -/
def optionalText : Kind (Option String) :=
  .plain (fun d => d.readOptional readText) (.ofOption .str)

/-- Times. -/
def time : Kind Int64 :=
  .plain readTime fun t => .int t.toInt

/-- Signal strengths that may be missing. -/
def optionalStrength : Kind (Option Int32) :=
  .plain (fun d => d.readOptional readStrength) (.ofOption fun r => .int r.toInt)

/-- Frequencies that may be missing. -/
def optionalFrequency : Kind (Option UInt32) :=
  .plain (fun d => d.readOptional readFrequency) (.ofOption fun n => .int n.toNat)

/-- Security classes. -/
def security (medium : Medium) : Kind SecurityClass :=
  ⟨SecurityClass.read medium, normalCode, fun c => .str c.code⟩

theorem sound_text : text.Sound :=
  sound_plain (fun _ _ => readText_eq_ok_iff) .str

theorem sound_optionalText : optionalText.Sound :=
  sound_optional (fun _ _ => readText_eq_ok_iff) .str nofun

theorem sound_time : time.Sound := by
  refine sound_plain (fun _ _ => readTime_eq_ok_iff) fun t => .int ?_ ?_
  · exact t.le_toInt
  · have hmost := t.toInt_lt
    omega

theorem sound_optionalStrength : optionalStrength.Sound := by
  refine sound_optional (fun _ _ => readStrength_eq_ok_iff) (fun r => .int ?_ ?_) nofun
  · have hleast := r.le_toInt
    omega
  · have hmost := r.toInt_lt
    omega

theorem sound_optionalFrequency : optionalFrequency.Sound := by
  refine sound_optional (fun _ _ => readFrequency_eq_ok_iff) (fun n => .int ?_ ?_) nofun
  · omega
  · have hmost := n.toNat_lt
    omega

theorem sound_security {medium : Medium} (hmedium : medium ≠ .yaml) : (security medium).Sound where
  read_iff v c := by
    have hall : ∀ c : SecurityClass, c ∈ SecurityClass.all := by
      intro c
      cases c <;> decide
    have hcodes := lookUp_map_eq_ok_iff hall fun _ _ => SecurityClass.code_injective
    exact (readCode_json_eq_ok_iff hmedium hcodes).trans isCode_iff
  normal_write _ := rfl
  integral c := .str c.code

end Document.Kind

/-! ## Sightings -/

namespace Sighting

/-- The columns of a sighting. -/
def columns : List (Column Sighting) :=
  [⟨"ssid", id, some .null, false, fun s => .ofOption .str s.ssid⟩,
    ⟨"bssid", id, none, false, fun s => .str s.bssid⟩,
    ⟨"capabilities", id, some (.str ""), false, fun s => .str s.capabilities⟩,
    ⟨"timestamp_millis", id, none, false, fun s => .int s.timestampMillis.toInt⟩,
    ⟨"rssi_dbm", id, some .null, true, fun s => .ofOption (fun r => .int r.toInt) s.rssiDbm⟩,
    ⟨"frequency_mhz", id, some .null, true,
      fun s => .ofOption (fun n => .int n.toNat) s.frequencyMhz⟩]

/-- The fields of a sighting. -/
def fields : List (Field Draft Sighting) :=
  [⟨"ssid", _, .optionalText, Draft.ssid, fun draft o => { draft with ssid := o }, Sighting.ssid,
      some none, false⟩,
    ⟨"bssid", _, .text, Draft.bssid, fun draft o => { draft with bssid := o }, Sighting.bssid,
      none, false⟩,
    ⟨"capabilities", _, .text, Draft.capabilities, fun draft o => { draft with capabilities := o },
      Sighting.capabilities, some "", false⟩,
    ⟨"timestamp_millis", _, .time, Draft.timestampMillis,
      fun draft o => { draft with timestampMillis := o }, Sighting.timestampMillis, none, false⟩,
    ⟨"rssi_dbm", _, .optionalStrength, Draft.rssiDbm, fun draft o => { draft with rssiDbm := o },
      Sighting.rssiDbm, some none, true⟩,
    ⟨"frequency_mhz", _, .optionalFrequency, Draft.frequencyMhz,
      fun draft o => { draft with frequencyMhz := o }, Sighting.frequencyMhz, some none, true⟩]

theorem keeps_fields : shape.Keeps fields where
  hasSlots := hasSlots_shape
  names := rfl
  nodup := by decide
  lenient := rfl
  blank := by simp [fields, shape]
  finish := by
    rintro ⟨ssid, _ | bssid, capabilities, _ | time, strength, frequency⟩ ⟨⟩ <;>
      simp [fields, shape, Option.getD_eq_iff]
  sound := by
    simp only [fields, List.forall_mem_cons]
    exact ⟨Kind.sound_optionalText, Kind.sound_text, Kind.sound_text, Kind.sound_time,
      Kind.sound_optionalStrength, Kind.sound_optionalFrequency, List.forall_mem_nil _⟩
  hides := by simp [fields, Kind.optionalStrength, Kind.optionalFrequency, Kind.plain, Json.ofOption]

/-- How sightings are written and read. -/
def format : Format Sighting :=
  ⟨columns, toJson, read⟩

theorem readsBy_format : format.ReadsBy (fun _ => shape) fun _ => fields where
  keeps _ _ := keeps_fields
  columns _ := rfl
  read _ _ := rfl
  write := by
    rintro ⟨_ | ssid, bssid, capabilities, time, _ | strength, _ | frequency⟩ <;> rfl

end Sighting

/-! ## Observations -/

namespace Observation

/-- The columns of an observation. -/
def columns : List (Column Observation) :=
  [⟨"ssid", id, none, false, fun o => .str o.ssid⟩,
    ⟨"bssid", id, none, false, fun o => .str o.bssid⟩,
    ⟨"capabilities", id, none, false, fun o => .str o.capabilities⟩,
    ⟨"security", normalCode, none, false, fun o => .str o.security.code⟩,
    ⟨"observed_at_millis", id, none, false, fun o => .int o.observedAtMillis.toInt⟩,
    ⟨"rssi_dbm", id, some .null, true, fun o => .ofOption (fun r => .int r.toInt) o.rssiDbm⟩,
    ⟨"frequency_mhz", id, some .null, true,
      fun o => .ofOption (fun n => .int n.toNat) o.frequencyMhz⟩]

/-- The fields of an observation. -/
def fields (medium : Medium) : List (Field Draft Observation) :=
  [⟨"ssid", _, .text, Draft.ssid, fun draft o => { draft with ssid := o }, Observation.ssid,
      none, false⟩,
    ⟨"bssid", _, .text, Draft.bssid, fun draft o => { draft with bssid := o }, Observation.bssid,
      none, false⟩,
    ⟨"capabilities", _, .text, Draft.capabilities, fun draft o => { draft with capabilities := o },
      Observation.capabilities, none, false⟩,
    ⟨"security", _, .security medium, Draft.security, fun draft o => { draft with security := o },
      Observation.security, none, false⟩,
    ⟨"observed_at_millis", _, .time, Draft.observedAtMillis,
      fun draft o => { draft with observedAtMillis := o }, Observation.observedAtMillis, none, false⟩,
    ⟨"rssi_dbm", _, .optionalStrength, Draft.rssiDbm, fun draft o => { draft with rssiDbm := o },
      Observation.rssiDbm, some none, true⟩,
    ⟨"frequency_mhz", _, .optionalFrequency, Draft.frequencyMhz,
      fun draft o => { draft with frequencyMhz := o }, Observation.frequencyMhz, some none, true⟩]

theorem hasSlots_shape (medium : Medium) :
    (shape medium).HasSlots ((fields medium).map Field.slot) where
  names name := by simp [shape, fields, Field.slot, eq_comm]
  take := by
    simp [shape, fields, Field.slot, Kind.text, Kind.time, Kind.security, Kind.optionalStrength,
      Kind.optionalFrequency, Kind.plain]
  get_set := by simp [fields, Field.slot]
  get_set_ne := by simp [fields, Field.slot]
  ext draft draft' h := by
    cases draft
    cases draft'
    simp_all [fields, Field.slot]

theorem keeps_fields {medium : Medium} (hmedium : medium ≠ .yaml) :
    (shape medium).Keeps (fields medium) where
  hasSlots := hasSlots_shape medium
  names := rfl
  nodup := by simp [fields]
  lenient := rfl
  blank := by simp [fields, shape]
  finish := by
    rintro ⟨_ | ssid, _ | bssid, _ | capabilities, _ | security, _ | time, strength, frequency⟩ ⟨⟩ <;>
      simp [fields, shape, Option.getD_eq_iff]
  sound := by
    simp only [fields, List.forall_mem_cons]
    exact ⟨Kind.sound_text, Kind.sound_text, Kind.sound_text, Kind.sound_security hmedium,
      Kind.sound_time, Kind.sound_optionalStrength, Kind.sound_optionalFrequency, List.forall_mem_nil _⟩
  hides := by simp [fields, Kind.optionalStrength, Kind.optionalFrequency, Kind.plain, Json.ofOption]

/-- How observations are written and read. -/
def format : Format Observation :=
  ⟨columns, toJson, read⟩

theorem readsBy_format : format.ReadsBy shape fields where
  keeps _ hmedium := keeps_fields hmedium
  columns _ := rfl
  read _ _ := rfl
  write := by
    rintro ⟨ssid, bssid, capabilities, security, time, _ | strength, _ | frequency⟩ <;> rfl

end Observation

/-! ## Keys and entries -/

namespace NetworkKey

/-- The columns of a key. -/
def columns : List (Column NetworkKey) :=
  [⟨"ssid", id, none, false, fun k => .str k.ssid⟩,
    ⟨"security", normalCode, none, false, fun k => .str k.security.code⟩]

/-- The fields of a key. -/
def fields (medium : Medium) : List (Field Draft NetworkKey) :=
  [⟨"ssid", _, .text, Draft.ssid, fun draft o => { draft with ssid := o }, NetworkKey.ssid,
      none, false⟩,
    ⟨"security", _, .security medium, Draft.security, fun draft o => { draft with security := o },
      NetworkKey.security, none, false⟩]

theorem hasSlots_shape (medium : Medium) :
    (shape medium).HasSlots ((fields medium).map Field.slot) where
  names name := by simp [shape, fields, Field.slot, eq_comm]
  take := by simp [shape, fields, Field.slot, Kind.text, Kind.security, Kind.plain]
  get_set := by simp [fields, Field.slot]
  get_set_ne := by simp [fields, Field.slot]
  ext draft draft' h := by
    cases draft
    cases draft'
    simp_all [fields, Field.slot]

theorem keeps_fields {medium : Medium} (hmedium : medium ≠ .yaml) :
    (shape medium).Keeps (fields medium) where
  hasSlots := hasSlots_shape medium
  names := rfl
  nodup := by simp [fields]
  lenient := rfl
  blank := by simp [fields, shape]
  finish := by
    rintro ⟨_ | ssid, _ | security⟩ ⟨⟩ <;> simp [fields, shape]
  sound := by
    simp only [fields, List.forall_mem_cons]
    exact ⟨Kind.sound_text, Kind.sound_security hmedium, List.forall_mem_nil _⟩
  hides := by simp [fields]

/-- How keys are written and read. -/
def format : Format NetworkKey :=
  ⟨columns, toJson, read⟩

theorem readsBy_format : format.ReadsBy shape fields where
  keeps _ hmedium := keeps_fields hmedium
  columns _ := rfl
  read _ _ := rfl
  write _ := rfl

end NetworkKey

namespace Entry

/-- The columns of an entry. -/
def columns : List (Column Entry) :=
  [⟨"key", NetworkKey.format.normal, none, false, fun e => e.key.toJson⟩,
    ⟨"last_seen_millis", id, none, false, fun e => .int e.lastSeenMillis.toInt⟩,
    ⟨"representative", Observation.format.normal, none, false, fun e => e.representative.toJson⟩]

/-- The fields of an entry. -/
def fields (medium : Medium) : List (Field Draft Entry) :=
  [⟨"key", _, NetworkKey.format.kind medium, Draft.key, fun draft o => { draft with key := o },
      Entry.key, none, false⟩,
    ⟨"last_seen_millis", _, .time, Draft.lastSeenMillis,
      fun draft o => { draft with lastSeenMillis := o }, Entry.lastSeenMillis, none, false⟩,
    ⟨"representative", _, Observation.format.kind medium, Draft.representative,
      fun draft o => { draft with representative := o }, Entry.representative, none, false⟩]

theorem hasSlots_shape (medium : Medium) :
    (shape medium).HasSlots ((fields medium).map Field.slot) where
  names name := by simp [shape, fields, Field.slot, eq_comm]
  take := by
    simp [shape, fields, Field.slot, Kind.time, Kind.plain, Format.kind, NetworkKey.format,
      Observation.format]
  get_set := by simp [fields, Field.slot]
  get_set_ne := by simp [fields, Field.slot]
  ext draft draft' h := by
    cases draft
    cases draft'
    simp_all [fields, Field.slot]

theorem keeps_fields {medium : Medium} (hmedium : medium ≠ .yaml) :
    (shape medium).Keeps (fields medium) where
  hasSlots := hasSlots_shape medium
  names := rfl
  nodup := by simp [fields]
  lenient := rfl
  blank := by simp [fields, shape]
  finish := by
    rintro ⟨_ | key, _ | lastSeen, _ | representative⟩ ⟨⟩ <;> simp [fields, shape]
  sound := by
    simp only [fields, List.forall_mem_cons]
    exact ⟨NetworkKey.readsBy_format.sound_kind hmedium, Kind.sound_time,
      Observation.readsBy_format.sound_kind hmedium, List.forall_mem_nil _⟩
  hides := by simp [fields]

/-- How entries are written and read. -/
def format : Format Entry :=
  ⟨columns, toJson, read⟩

theorem readsBy_format : format.ReadsBy shape fields where
  keeps _ hmedium := keeps_fields hmedium
  columns _ := rfl
  read _ _ := rfl
  write _ := rfl

end Entry

/-- Sightings, observations, keys and entries survive JSON. What each of them is written as is read back
as the same value, and each is read from exactly the JSON that has its text as normal form: with known
fields in any order or as a list, other fields beside them, and what may be missing left out or not. -/
theorem records_survive_json :
    Sighting.format.Kept ∧ Observation.format.Kept ∧ NetworkKey.format.Kept ∧ Entry.format.Kept :=
  ⟨Sighting.readsBy_format.kept, Observation.readsBy_format.kept, NetworkKey.readsBy_format.kept,
    Entry.readsBy_format.kept⟩

/-- An entry with its fields in another order, its key as a list, a class as an object, a null that is
not written, and a field that is not known. -/
theorem records_survive_json_disguised :
    let observed := Json.obj [("security", .obj [("psk", .null)]), ("note", .arr []),
      ("ssid", .str "\"\n"), ("capabilities", .str "psk"), ("rssi_dbm", .null), ("bssid", .str "02"),
      ("observed_at_millis", .int (-0x8000000000000000))]
    let v := Json.obj [("representative", observed), ("key", .arr [.str "\"\n", .str "psk"]),
      ("last_seen_millis", .int 5)]
    let e : Entry := ⟨⟨"\"\n", .psk⟩, 5,
      ⟨"\"\n", "02", "psk", .psk, Int64.minValue, none, none⟩⟩
    Entry.read .jsonText v.document = .ok e ∧ Entry.read .jsonValue v.document = .ok e ∧
      Entry.format.ofText (Entry.format.text e) = .ok e ∧
      Entry.format.text e = String.join [
        "\x7b\"key\":\x7b\"ssid\":\"\\\"\\n\",\"security\":\"psk\"\x7d,",
        "\"last_seen_millis\":5,",
        "\"representative\":\x7b\"ssid\":\"\\\"\\n\",\"bssid\":\"02\",",
        "\"capabilities\":\"psk\",\"security\":\"psk\",\"observed_at_millis\":-9223372036854775808\x7d\x7d"] := by
  intro observed v e
  have hkept := records_survive_json.2.2.2
  have hnormal : Entry.format.normal v = e.toJson := rfl
  exact ⟨(hkept.read_iff .jsonText (by decide) v e).mpr hnormal,
    (hkept.read_iff .jsonValue (by decide) v e).mpr hnormal, hkept.reads_back e, by decide +kernel⟩

end ScanRoster
