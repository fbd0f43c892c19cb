import ScanRoster.Proofs.Document.Typed

/-!
# Records from objects

A record is read from an object field by field into a draft.  Each field that the record knows has its
place in the draft, which no other field touches.  So, whatever the order of the fields, the draft holds
in each place what stands under its name, or what was there before (`readFields_eq_ok_iff`).
-/

namespace ScanRoster

/-! ## Keys of an object -/

namespace Json

/-- No object within a value has two fields of one key. -/
inductive Distinct : Json → Prop
  | null : Distinct .null
  | bool (b : Bool) : Distinct (.bool b)
  | num (n : Number) : Distinct (.num n)
  | str (s : String) : Distinct (.str s)
  | arr {items : List Json} (hitems : ∀ v ∈ items, Distinct v) : Distinct (.arr items)
  | obj {fields : List (String × Json)} (hkeys : (fields.map Prod.fst).Nodup)
      (hvalues : ∀ f ∈ fields, Distinct f.2) : Distinct (.obj fields)

theorem distinct_arr_iff {items : List Json} :
    (Json.arr items).Distinct ↔ ∀ v ∈ items, v.Distinct := by
  constructor
  · rintro (_ | _ | _ | _ | hitems)
    exact hitems
  · exact .arr

theorem distinct_obj_iff {fields : List (String × Json)} : (Json.obj fields).Distinct ↔
    (fields.map Prod.fst).Nodup ∧ ∀ f ∈ fields, f.2.Distinct := by
  constructor
  · rintro (_ | _ | _ | _ | _ | ⟨hkeys, hvalues⟩)
    exact ⟨hkeys, hvalues⟩
  · exact fun h => .obj h.1 h.2

theorem Distinct.item {items : List Json} (h : (Json.arr items).Distinct) {v : Json}
    (hv : v ∈ items) : v.Distinct :=
  distinct_arr_iff.mp h v hv

theorem Distinct.keys {fields : List (String × Json)} (h : (Json.obj fields).Distinct) :
    (fields.map Prod.fst).Nodup :=
  (distinct_obj_iff.mp h).1

theorem Distinct.value {fields : List (String × Json)} (h : (Json.obj fields).Distinct)
    {name : String} {v : Json} (hv : fields.lookup name = some v) : v.Distinct := by
  obtain ⟨before, after, rfl, -⟩ := List.lookup_eq_some_iff.mp hv
  exact (distinct_obj_iff.mp h).2 (name, v) (by simp)

/-- Nothing stands under a key that no field has. -/
theorem lookup_eq_none_of_not_mem {fields : List (String × Json)} {k : String}
    (h : k ∉ fields.map Prod.fst) : fields.lookup k = none := by
  rw [List.lookup_eq_none_iff]
  intro f hf
  have hne : k ≠ f.1 := fun heq => h (heq ▸ List.mem_map_of_mem hf)
  simpa using hne

end Json

namespace Document

open Json

variable {δ α : Type}

/-! ## Fields of an object -/

/-- A field that must be there. -/
def FieldIs (name : String) (Form : Json → α → Prop) (fields : List (String × Json)) (a : α) : Prop :=
  ∃ v, fields.lookup name = some v ∧ Form v a

/-- A field that may be left out. -/
def FieldOr (name : String) (Form : Json → α → Prop) (fallback : α)
    (fields : List (String × Json)) (a : α) : Prop :=
  match fields.lookup name with
  | none => a = fallback
  | some v => Form v a

/-- Something is given, and a value is what it is written as. -/
def Given (Form : Json → α → Prop) (v : Json) (o : Option α) : Prop :=
  ∃ a, Form v a ∧ some a = o

theorem given_iff {read : Document → Except Fault α} {Form : Json → α → Prop} {v : Json}
    {o : Option α} (hread : ∀ a, read v.document = .ok a ↔ Form v a) :
    some <$> read v.document = .ok o ↔ Given Form v o := by
  simp only [map_eq_ok_iff, hread, Given]

theorem required_eq_ok_iff {name : String} {o : Option α} {a : α} :
    required name o = .ok a ↔ o = some a := by
  cases o with
  | none => exact ⟨nofun, nofun⟩
  | some b => simp [required]

section

variable {name : String} {Form : Json → α → Prop} {fields : List (String × Json)} {a fallback : α}

theorem fieldIs_iff : FieldIs name Form fields a ↔ FieldOr name (Given Form) none fields (some a) := by
  rw [FieldIs, FieldOr]
  cases fields.lookup name with
  | none => simp
  | some v => simp [Given]

theorem fieldOr_iff : FieldOr name Form fallback fields a ↔
    ∃ o, FieldOr name (Given Form) none fields o ∧ o.getD fallback = a := by
  simp only [FieldOr]
  cases fields.lookup name with
  | none => simp [eq_comm]
  | some v => simp [Given]

end

/-! ## Places of a draft -/

/-- A place of a draft: the name of its field, what the draft has there, and how that is read. -/
structure Slot (δ : Type) where
  name : String
  Content : Type
  get : δ → Content
  set : δ → Content → δ
  read : Document → Except Fault Content

/-- What a draft has in a place after fields were read: what stands under the name of the place, or
what an earlier draft had there. -/
def Slot.Filled (slot : Slot δ) (fields : List (String × Json)) (before after : δ) : Prop :=
  match fields.lookup slot.name with
  | none => slot.get after = slot.get before
  | some v => slot.read v.document = .ok (slot.get after)

/-- The places of a draft are those of the fields that a record knows. A field is taken by filling its
place, which changes no other, and a draft is nothing but what stands in its places. -/
structure RecordShape.HasSlots (shape : RecordShape δ α) (slots : List (Slot δ)) : Prop where
  names : ∀ name, name ∈ shape.fields ↔ ∃ slot ∈ slots, slot.name = name
  take : ∀ slot ∈ slots, ∀ draft d,
    shape.take draft slot.name d = slot.set draft <$> slot.read d
  get_set : ∀ slot ∈ slots, ∀ draft content, slot.get (slot.set draft content) = content
  get_set_ne : ∀ slot ∈ slots, ∀ other ∈ slots, other.name ≠ slot.name → ∀ draft content,
    slot.get (other.set draft content) = slot.get draft
  ext : ∀ draft draft' : δ, (∀ slot ∈ slots, slot.get draft = slot.get draft') → draft = draft'

section

variable {shape : RecordShape δ α} {slots : List (Slot δ)} {slot : Slot δ}
  {fields : List (String × Json)} {before after draft : δ} {k : String} {v : Json}

/-- A field that is taken stands in its place. -/
theorem RecordShape.HasSlots.own (h : shape.HasSlots slots) (hslot : slot ∈ slots) (draft : δ)
    (d : Document) : slot.get <$> shape.take draft slot.name d = slot.read d := by
  rw [h.take slot hslot, Functor.map_map]
  simp only [h.get_set slot hslot, id_map']

/-- A field that is taken changes no other place. -/
theorem RecordShape.HasSlots.other (h : shape.HasSlots slots) (hslot : slot ∈ slots)
    (hk : k ∈ shape.fields) (hne : k ≠ slot.name) {d : Document}
    (htake : shape.take before k d = .ok draft) : slot.get draft = slot.get before := by
  obtain ⟨other, hother, rfl⟩ := (h.names k).mp hk
  rw [h.take other hother] at htake
  obtain ⟨content, -, rfl⟩ := map_eq_ok_iff.mp htake
  exact h.get_set_ne slot hslot other hother hne before content

theorem Slot.filled_cons_of_ne (hk : k ≠ slot.name) :
    slot.Filled ((k, v) :: fields) before after ↔ slot.Filled fields before after := by
  have hne : (slot.name == k) = false := by simpa using Ne.symm hk
  rw [Filled, Filled, List.lookup_cons, hne]

theorem Slot.filled_cons_self (hk : k = slot.name) :
    slot.Filled ((k, v) :: fields) before after ↔ slot.read v.document = .ok (slot.get after) := by
  rw [Filled, List.lookup_cons, hk]
  simp

theorem Slot.filled_of_not_mem (h : slot.name ∉ fields.map Prod.fst) :
    slot.Filled fields before after ↔ slot.get after = slot.get before := by
  rw [Filled, lookup_eq_none_of_not_mem h]

/-- A place whose field is read as a form says. -/
theorem Slot.filled_iff {Form : Json → slot.Content → Prop}
    (hread : ∀ v, fields.lookup slot.name = some v → ∀ a,
      slot.read v.document = .ok a ↔ Form v a) :
    slot.Filled fields before after ↔
      FieldOr slot.name Form (slot.get before) fields (slot.get after) := by
  rw [Filled, FieldOr]
  cases hv : fields.lookup slot.name with
  | none => exact Iff.rfl
  | some v => exact hread v hv _

/-- What stood in a place before a field was taken for another. -/
theorem Slot.filled_congr (h : slot.get draft = slot.get before) :
    slot.Filled fields draft after ↔ slot.Filled fields before after := by
  rw [Filled, Filled, h]

/-- Taking one field, and then filling the places from the others, fills the places from all. -/
theorem RecordShape.HasSlots.take_iff (h : shape.HasSlots slots) (hk : k ∈ shape.fields)
    (hnew : k ∉ fields.map Prod.fst) :
    (∃ draft, shape.take before k v.document = .ok draft ∧
      ∀ slot ∈ slots, slot.Filled fields draft after) ↔
    ∀ slot ∈ slots, slot.Filled ((k, v) :: fields) before after := by
  constructor
  · rintro ⟨draft, htake, hfilled⟩ slot hslot
    by_cases hname : k = slot.name
    · subst hname
      rw [Slot.filled_cons_self rfl, ← h.own hslot before, htake,
        (Slot.filled_of_not_mem hnew).mp (hfilled slot hslot)]
      rfl
    · rw [Slot.filled_cons_of_ne hname,
        ← Slot.filled_congr (h.other hslot hk hname htake)]
      exact hfilled slot hslot
  · intro hfilled
    -- what stands in the place of the field afterwards says that the field can be taken
    obtain ⟨own, hown, rfl⟩ := (h.names k).mp hk
    have hread := (Slot.filled_cons_self rfl).mp (hfilled own hown)
    rw [← h.own hown before] at hread
    obtain ⟨draft, htake, -⟩ := map_eq_ok_iff.mp hread
    refine ⟨draft, htake, fun slot hslot => ?_⟩
    by_cases hname : own.name = slot.name
    · rw [Slot.filled_of_not_mem (hname ▸ hnew)]
      have hslotRead := (Slot.filled_cons_self hname).mp (hfilled slot hslot)
      rw [← h.own hslot before, ← hname, htake] at hslotRead
      exact (Except.ok.inj hslotRead).symm
    · rw [Slot.filled_congr (h.other hslot hk hname htake),
        ← Slot.filled_cons_of_ne hname]
      exact hfilled slot hslot

section

variable {medium : Medium} {seen : List String} {d : Document} {rest : List (Document × Document)}

/-- A field that the record knows is taken. -/
theorem readFields_of_mem (hk : k ∈ shape.fields) (hnew : k ∉ seen) :
    readFields medium shape seen before ((.text k, d) :: rest) =
      shape.take before k d >>= fun draft => readFields medium shape (k :: seen) draft rest := by
  rw [readFields]
  change (if k ∈ shape.fields then _ else _) = _
  rw [if_pos hk, if_neg hnew]

/-- Any other field is passed over, or it is a fault. -/
theorem readFields_of_not_mem (hmedium : medium ≠ .yaml) (hk : k ∉ shape.fields)
    (hskip : d.skip = .ok ()) :
    readFields medium shape seen before ((.text k, d) :: rest) =
      if shape.lenient then readFields medium shape seen before rest
      else .error (.unknownField k shape.fields) := by
  rw [readFields]
  change (if k ∈ shape.fields then _ else _) = _
  rw [if_neg hk, if_pos hmedium, hskip]
  rfl

/-- The fields of an object without repeated keys fill the places of a draft. Other fields are passed
over by a lenient record, and are a fault for any other. -/
theorem readFields_eq_ok_iff (hmedium : medium ≠ .yaml)
    (h : shape.HasSlots slots) (hkeys : (fields.map Prod.fst).Nodup)
    (hseen : ∀ name ∈ seen, name ∉ fields.map Prod.fst) :
    readFields medium shape seen before (documentFields fields) = .ok after ↔
      (shape.lenient = true ∨ ∀ f ∈ fields, f.1 ∈ shape.fields) ∧
      ∀ slot ∈ slots, slot.Filled fields before after := by
  -- on the fields; none of those that are left was seen before, so none is taken twice
  induction fields generalizing seen before with
  | nil =>
      constructor
      · intro hread
        obtain rfl := Except.ok.inj hread
        exact ⟨.inr nofun, fun slot _ => rfl⟩
      · rintro ⟨-, hfilled⟩
        exact congrArg Except.ok (h.ext _ _ fun slot hslot => (hfilled slot hslot).symm)
  | cons f fields ih =>
      obtain ⟨k, v⟩ := f
      obtain ⟨hnew, hkeys⟩ := List.nodup_cons.mp hkeys
      have hseenRest : ∀ name ∈ seen, name ∉ fields.map Prod.fst := fun name hname hmem =>
        hseen name hname (List.mem_cons_of_mem k hmem)
      rw [documentFields, List.forall_mem_cons]
      by_cases hk : k ∈ shape.fields
      · have hnotSeen : k ∉ seen := fun hmem => hseen k hmem List.mem_cons_self
        have hseenMore : ∀ name ∈ k :: seen, name ∉ fields.map Prod.fst :=
          List.forall_mem_cons.mpr ⟨hnew, hseenRest⟩
        rw [readFields_of_mem hk hnotSeen, bind_eq_ok_iff, ← h.take_iff hk hnew, and_iff_right hk]
        simp only [ih hkeys hseenMore]
        rw [← exists_and_left]
        exact exists_congr fun draft => and_left_comm
      · have hother : ∀ slot ∈ slots, slot.Filled ((k, v) :: fields) before after ↔
            slot.Filled fields before after := by
          intro slot hslot
          refine Slot.filled_cons_of_ne fun hname => hk ?_
          exact (h.names k).mpr ⟨slot, hslot, hname.symm⟩
        rw [readFields_of_not_mem hmedium hk v.skip_document, forall₂_congr hother]
        split
        · next hlenient => simp [ih hkeys hseenRest, hlenient]
        · next hstrict => simp [hstrict, hk]

end

/-- Where no list stands in the place of a record, a record is read from an object, field by field. -/
theorem readRecord_eq_ok_iff {medium : Medium} (hmedium : medium ≠ .yaml)
    (h : shape.HasSlots slots) {a : α} (hlist : ∀ items, v ≠ .arr items)
    (hkeys : ∀ fields, v = .obj fields → (fields.map Prod.fst).Nodup) :
    readRecord medium shape v.document = .ok a ↔
      ∃ fields, v = .obj fields ∧ (shape.lenient = true ∨ ∀ f ∈ fields, f.1 ∈ shape.fields) ∧
        ∃ draft, (∀ slot ∈ slots, slot.Filled fields shape.blank draft) ∧
          shape.finish draft = .ok a := by
  cases v with
  | obj fields =>
      have hread : readRecord medium shape (Json.obj fields).document =
          readFields medium shape [] shape.blank (documentFields fields) >>= shape.finish := rfl
      rw [hread, bind_eq_ok_iff]
      have hfields : ∀ draft, readFields medium shape [] shape.blank (documentFields fields) =
          .ok draft ↔ _ := fun draft =>
        readFields_eq_ok_iff hmedium h (hkeys fields rfl) nofun
      simp only [hfields]
      constructor
      · rintro ⟨draft, ⟨hall, hfilled⟩, hfinish⟩
        exact ⟨fields, rfl, hall, draft, hfilled, hfinish⟩
      · rintro ⟨_, ⟨⟩, hall, draft, hfilled, hfinish⟩
        exact ⟨draft, ⟨hall, hfilled⟩, hfinish⟩
  | arr items => exact absurd rfl (hlist items)
  | _ =>
      refine ⟨fun hread => absurd hread (wrong_document _ _ _), ?_⟩
      rintro ⟨_, ⟨⟩, -⟩

end

/-- A record that is filled in place, without a draft, and knows all fields that it may have. -/
theorem readRecord_strict_eq_ok_iff {shape : RecordShape α α} {slots : List (Slot α)} {v : Json}
    {medium : Medium} (hmedium : medium ≠ .yaml) (h : shape.HasSlots slots)
    (hfinish : shape.finish = .ok) (hstrict : shape.lenient = false) {a : α}
    (hlist : ∀ items, v ≠ .arr items)
    (hkeys : ∀ fields, v = .obj fields → (fields.map Prod.fst).Nodup) :
    readRecord medium shape v.document = .ok a ↔
      ∃ fields, v = .obj fields ∧ (∀ f ∈ fields, f.1 ∈ shape.fields) ∧
        ∀ slot ∈ slots, slot.Filled fields shape.blank a := by
  rw [readRecord_eq_ok_iff hmedium h hlist hkeys]
  simp [hfinish, hstrict]

end Document

end ScanRoster
