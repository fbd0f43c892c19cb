import ScanRoster.Proofs.Document.Record
import ScanRoster.Record.Reading

/-!
# The format of sightings

A sighting is read from an object that has its address and its time, and in which each further field,
where it is there, is of its type.  Other fields do not count.
-/

namespace ScanRoster

open Document Json

namespace Json

/-- A text. -/
def IsString (v : Json) (s : String) : Prop :=
  v = .str s

/-- A flag. -/
def IsFlag (v : Json) (b : Bool) : Prop :=
  v = .bool b

/-- A time, as a whole number of 64 bits. -/
def IsTime (v : Json) (t : Int64) : Prop :=
  v = .int t.toInt

/-- A signal strength, as a whole number of 32 bits. -/
def IsStrength (v : Json) (r : Int32) : Prop :=
  v = .int r.toInt

/-- A frequency, as a natural number of 32 bits. -/
def IsFrequency (v : Json) (f : UInt32) : Prop :=
  v = .int f.toNat

end Json

namespace Sighting

/-- What a sighting is written as. -/
def Form (v : Json) (s : Sighting) : Prop :=
  ∃ fields, v = .obj fields ∧
    FieldOr "ssid" (OrNull IsString) none fields s.ssid ∧
    FieldIs "bssid" IsString fields s.bssid ∧
    FieldOr "capabilities" IsString "" fields s.capabilities ∧
    FieldIs "timestamp_millis" IsTime fields s.timestampMillis ∧
    FieldOr "rssi_dbm" (OrNull IsStrength) none fields s.rssiDbm ∧
    FieldOr "frequency_mhz" (OrNull IsFrequency) none fields s.frequencyMhz

/-- The places of a draft. -/
def slots : List (Slot Draft) :=
  [⟨"ssid", _, Draft.ssid, fun draft o => { draft with ssid := o },
      fun d => some <$> d.readOptional readText⟩,
    ⟨"bssid", _, Draft.bssid, fun draft o => { draft with bssid := o },
      fun d => some <$> d.readText⟩,
    ⟨"capabilities", _, Draft.capabilities, fun draft o => { draft with capabilities := o },
      fun d => some <$> d.readText⟩,
    ⟨"timestamp_millis", _, Draft.timestampMillis,
      fun draft o => { draft with timestampMillis := o }, fun d => some <$> d.readTime⟩,
    ⟨"rssi_dbm", _, Draft.rssiDbm, fun draft o => { draft with rssiDbm := o },
      fun d => some <$> d.readOptional readStrength⟩,
    ⟨"frequency_mhz", _, Draft.frequencyMhz, fun draft o => { draft with frequencyMhz := o },
      fun d => some <$> d.readOptional readFrequency⟩]

theorem hasSlots_shape : shape.HasSlots slots where
  names name := by simp [shape, slots, eq_comm]
  take := by simp [shape, slots]
  get_set := by simp [slots]
  get_set_ne := by simp [slots]
  ext draft draft' h := by
    cases draft
    cases draft'
    simp_all [slots]

/-- A draft is filled from the fields of an object. -/
theorem filled_iff {fields : List (String × Json)} {draft : Draft} :
    (∀ slot ∈ slots, slot.Filled fields shape.blank draft) ↔
      FieldOr "ssid" (Given (OrNull IsString)) none fields draft.ssid ∧
      FieldOr "bssid" (Given IsString) none fields draft.bssid ∧
      FieldOr "capabilities" (Given IsString) none fields draft.capabilities ∧
      FieldOr "timestamp_millis" (Given IsTime) none fields draft.timestampMillis ∧
      FieldOr "rssi_dbm" (Given (OrNull IsStrength)) none fields draft.rssiDbm ∧
      FieldOr "frequency_mhz" (Given (OrNull IsFrequency)) none fields draft.frequencyMhz := by
  simp only [slots, List.forall_mem_cons, List.not_mem_nil, IsEmpty.forall_iff, implies_true,
    and_true]
  refine and_congr (Slot.filled_iff fun v _ o => given_iff fun o => ?_) <|
    and_congr (Slot.filled_iff fun v _ o => given_iff fun s => readText_eq_ok_iff) <|
    and_congr (Slot.filled_iff fun v _ o => given_iff fun s => readText_eq_ok_iff) <|
    and_congr (Slot.filled_iff fun v _ o => given_iff fun t => readTime_eq_ok_iff) <|
    and_congr (Slot.filled_iff fun v _ o => given_iff fun o => ?_)
      (Slot.filled_iff fun v _ o => given_iff fun o => ?_)
  · exact readOptional_eq_ok_iff (fun s => readText_eq_ok_iff) nofun
  · exact readOptional_eq_ok_iff (fun r => readStrength_eq_ok_iff) nofun
  · exact readOptional_eq_ok_iff (fun f => readFrequency_eq_ok_iff) nofun

/-- A sighting is read from what it is written as, and from nothing else. -/
theorem read_eq_ok_iff {medium : Medium} (hmedium : medium ≠ .yaml) {v : Json} {s : Sighting}
    (hlist : ∀ items, v ≠ .arr items)
    (hkeys : ∀ fields, v = .obj fields → (fields.map Prod.fst).Nodup) :
    read medium v.document = .ok s ↔ Form v s := by
  rw [read, readRecord_eq_ok_iff hmedium hasSlots_shape hlist hkeys]
  simp only [filled_iff]
  constructor
  · rintro ⟨fields, rfl, -, draft, ⟨hssid, hbssid, hcapabilities, htime, hstrength, hfrequency⟩,
      hfinish⟩
    obtain ⟨bssid, hb, hfinish⟩ := bind_eq_ok_iff.mp hfinish
    obtain ⟨time, ht, hfinish⟩ := bind_eq_ok_iff.mp hfinish
    rw [required_eq_ok_iff.mp hb] at hbssid
    rw [required_eq_ok_iff.mp ht] at htime
    obtain rfl := Except.ok.inj hfinish
    exact ⟨fields, rfl, fieldOr_iff.mpr ⟨_, hssid, rfl⟩, fieldIs_iff.mpr hbssid,
      fieldOr_iff.mpr ⟨_, hcapabilities, rfl⟩, fieldIs_iff.mpr htime,
      fieldOr_iff.mpr ⟨_, hstrength, rfl⟩, fieldOr_iff.mpr ⟨_, hfrequency, rfl⟩⟩
  · rintro ⟨fields, rfl, hssid, hbssid, hcapabilities, htime, hstrength, hfrequency⟩
    obtain ⟨ssid, hssid, hs⟩ := fieldOr_iff.mp hssid
    obtain ⟨capabilities, hcapabilities, hc⟩ := fieldOr_iff.mp hcapabilities
    obtain ⟨strength, hstrength, hr⟩ := fieldOr_iff.mp hstrength
    obtain ⟨frequency, hfrequency, hf⟩ := fieldOr_iff.mp hfrequency
    refine ⟨fields, rfl, .inl rfl,
      ⟨ssid, some s.bssid, capabilities, some s.timestampMillis, strength, frequency⟩,
      ⟨hssid, fieldIs_iff.mp hbssid, hcapabilities, fieldIs_iff.mp htime, hstrength, hfrequency⟩, ?_⟩
    have hall : s = ⟨ssid.getD none, s.bssid, capabilities.getD "", s.timestampMillis,
        strength.getD none, frequency.getD none⟩ := by
      rw [hs, hc, hr, hf]
    exact congrArg Except.ok hall.symm

end Sighting

end ScanRoster
