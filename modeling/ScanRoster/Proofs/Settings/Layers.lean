import Mathlib.Data.List.Nodup
import ScanRoster.Settings.Loading

/-!
# Layers laid over each other

In one place, what counts is the later layer if it has anything there, and else the earlier one.  This
is said first of fields (`lookUp_fieldsUnder`) and then, for layers whose sections are fields, of the
settings in these sections (`inSection_fieldsUnder`).
-/

namespace ScanRoster.Settings.Layer

variable {key : String} {v : Layer} {fields earlier later : List (String × Layer)}

/-! ## Fields -/

theorem lookUp_cons (key k : String) (v : Layer) (fields : List (String × Layer)) :
    lookUp key ((k, v) :: fields) = if k = key then some v else lookUp key fields := by
  rw [lookUp, List.find?_cons]
  by_cases hk : k = key
  · simp [hk]
  · rw [beq_false_of_ne hk, if_neg hk]
    rfl

theorem lookUp_eq_none_iff : lookUp key fields = none ↔ key ∉ fields.map Prod.fst := by
  simp only [lookUp, Option.map_eq_none_iff, List.find?_eq_none, beq_iff_eq, List.mem_map,
    not_exists, not_and]

theorem lookUp_put (key k : String) (v : Layer) (fields : List (String × Layer)) :
    lookUp key (put k v fields) = if k = key then some v else lookUp key fields := by
  induction fields with
  | nil => rw [put, lookUp_cons]
  | cons f fields ih =>
      obtain ⟨k', w⟩ := f
      rw [put]
      by_cases hk : k' = k
      · subst hk
        rw [if_pos rfl, lookUp_cons, lookUp_cons]
        split <;> rfl
      · rw [if_neg hk, lookUp_cons, lookUp_cons, ih]
        split
        · next hkey =>
            subst hkey
            rw [if_neg (Ne.symm hk)]
        · rfl

theorem keys_put (k : String) (v : Layer) (fields : List (String × Layer)) :
    (put k v fields).map Prod.fst =
      if k ∈ fields.map Prod.fst then fields.map Prod.fst else fields.map Prod.fst ++ [k] := by
  induction fields with
  | nil => rfl
  | cons f fields ih =>
      obtain ⟨k', w⟩ := f
      rw [put]
      by_cases hk : k' = k
      · simp [hk]
      · rw [if_neg hk, List.map_cons, ih]
        split <;> simp_all [Ne.symm hk]

theorem nodup_keys_put (h : (fields.map Prod.fst).Nodup) (k : String) (v : Layer) :
    ((put k v fields).map Prod.fst).Nodup := by
  rw [keys_put]
  split
  · exact h
  · next hk => exact List.nodup_append_comm.mp (List.nodup_cons.mpr ⟨hk, h⟩)

/-- Later fields keep the keys of earlier ones apart. -/
theorem nodup_keys_fieldsUnder (h : (earlier.map Prod.fst).Nodup)
    (later : List (String × Layer)) : ((fieldsUnder earlier later).map Prod.fst).Nodup := by
  induction later generalizing earlier with
  | nil => exact h
  | cons f later ih => exact ih (nodup_keys_put h _ _)

/-- What counts in one place, of what an earlier and a later layer have there. -/
def combine : Option Layer → Option Layer → Option Layer
  | earlier, none => earlier
  | none, some v => some v
  | some w, some v => some (w.under v)

@[simp]
theorem combine_none (earlier : Option Layer) : combine earlier none = earlier := by
  cases earlier <;> rfl

@[simp]
theorem none_combine (later : Option Layer) : combine none later = later := by
  cases later <;> rfl

/-- Fields that are laid over others count key by key. -/
theorem lookUp_fieldsUnder (hlater : (later.map Prod.fst).Nodup) (key : String) :
    lookUp key (fieldsUnder earlier later) = combine (lookUp key earlier) (lookUp key later) := by
  induction later generalizing earlier with
  | nil => exact (combine_none _).symm
  | cons f later ih =>
      obtain ⟨k, v⟩ := f
      obtain ⟨hk, hlater⟩ := List.nodup_cons.mp hlater
      rw [fieldsUnder, ih hlater, lookUp_put, lookUp_cons]
      split
      · next hkey =>
          subst hkey
          rw [lookUp_eq_none_iff.mpr hk, combine_none]
          cases lookUp k earlier <;> rfl
      · rfl

/-! ## Sections -/

/-- The names of the sections. -/
def sectionNames : List String :=
  ["defaults", "tracker"]

/-- What fields have in a section under a key. -/
def inSection (name key : String) (fields : List (String × Layer)) : Option Layer :=
  match lookUp name fields with
  | some (.fields inner) => lookUp key inner
  | _ => none

/-- Sections, where they are there, are fields, and no key stands twice. -/
structure HasSections (fields : List (String × Layer)) : Prop where
  keys : (fields.map Prod.fst).Nodup
  inner : ∀ name ∈ sectionNames, ∀ v, lookUp name fields = some v →
    ∃ inner, v = .fields inner ∧ (inner.map Prod.fst).Nodup

theorem HasSections.nil : HasSections [] :=
  ⟨List.nodup_nil, nofun⟩

theorem HasSections.fieldsUnder (hearlier : HasSections earlier) (hlater : HasSections later) :
    HasSections (fieldsUnder earlier later) := by
  refine ⟨nodup_keys_fieldsUnder hearlier.keys later, fun name hname v hv => ?_⟩
  rw [lookUp_fieldsUnder hlater.keys] at hv
  cases hw : lookUp name earlier with
  | none =>
      rw [hw, none_combine] at hv
      exact hlater.inner name hname v hv
  | some w =>
      obtain ⟨inner, rfl, hinner⟩ := hearlier.inner name hname w hw
      cases hu : lookUp name later with
      | none =>
          rw [hw, hu, combine_none] at hv
          obtain rfl := Option.some.inj hv
          exact ⟨inner, rfl, hinner⟩
      | some u =>
          obtain ⟨inner', rfl, -⟩ := hlater.inner name hname u hu
          rw [hw, hu] at hv
          obtain rfl := Option.some.inj hv
          exact ⟨Layer.fieldsUnder inner inner', by rw [under],
            nodup_keys_fieldsUnder hinner inner'⟩

/-- Sections that are laid over others count key by key, too. -/
theorem inSection_fieldsUnder (hearlier : HasSections earlier) (hlater : HasSections later)
    {name : String} (hname : name ∈ sectionNames) (key : String) :
    inSection name key (fieldsUnder earlier later) =
      combine (inSection name key earlier) (inSection name key later) := by
  simp only [inSection, lookUp_fieldsUnder hlater.keys]
  cases hw : lookUp name earlier with
  | none => rw [none_combine, none_combine]
  | some w =>
      obtain ⟨inner, rfl, -⟩ := hearlier.inner name hname w hw
      cases hu : lookUp name later with
      | none => rw [combine_none, combine_none]
      | some u =>
          obtain ⟨inner', rfl, hinner'⟩ := hlater.inner name hname u hu
          simp only [combine, under]
          exact lookUp_fieldsUnder hinner' key

end ScanRoster.Settings.Layer
