import ScanRoster.Proofs.Document.Record

/-!
# Lenient records from any value

A lenient record passes over what it does not know, keys that are repeated included, and except in
YAML it is also read from the list of its values in order.  Either way the value amounts to some fields
(`Json.recordFields?`), and the record is read from what they have under the names that it knows
(`readRecord_lenient_eq_ok_iff`).
-/

namespace ScanRoster

/-! ## What a value amounts to -/

namespace Json

/-- The fields that have one of the given names. -/
def knownFields (names : List String) (fields : List (String × Json)) : List (String × Json) :=
  fields.filter fun f => decide (f.1 ∈ names)

/-- The fields that a value gives to a record with the given names: those of an object that has each
name at most once, or the values of a list under the names in order. -/
def recordFields? (names : List String) : Json → Option (List (String × Json))
  | .obj fields => if ((knownFields names fields).map Prod.fst).Nodup then some fields else none
  | .arr items => if items.length ≤ names.length then some (names.zip items) else none
  | _ => none

section

variable {names : List String} {fields fields' : List (String × Json)} {k : String}

theorem lookup_knownFields (hk : k ∈ names) :
    (knownFields names fields).lookup k = fields.lookup k := by
  induction fields with
  | nil => rfl
  | cons f fields ih =>
      obtain ⟨name, v⟩ := f
      rw [knownFields, List.filter_cons]
      by_cases hname : k = name
      · subst hname
        simp [hk]
      · have hne : (k == name) = false := by simpa using hname
        split
        · rw [List.lookup_cons, List.lookup_cons, hne]
          exact ih
        · rw [List.lookup_cons, hne]
          exact ih

theorem knownFields_zip {items : List Json} :
    knownFields names (names.zip items) = names.zip items := by
  refine List.filter_eq_self.mpr fun f hf => ?_
  simpa using (List.of_mem_zip hf).1

theorem keys_zip_sublist (names : List String) (items : List Json) :
    ((names.zip items).map Prod.fst).Sublist names := by
  induction names generalizing items with
  | nil => exact List.Sublist.refl _
  | cons name names ih =>
      cases items with
      | nil => exact List.nil_sublist _
      | cons v items => exact (ih items).cons_cons name

/-- Where no key is repeated, the order of the fields does not matter for what stands under a key. -/
theorem lookup_perm (h : fields.Perm fields') (hkeys : (fields.map Prod.fst).Nodup) :
    fields.lookup k = fields'.lookup k := by
  have hmem : ∀ {fs : List (String × Json)}, (fs.map Prod.fst).Nodup → ∀ v,
      fs.lookup k = some v ↔ (k, v) ∈ fs := by
    intro fs hfs v
    rw [List.lookup_eq_some_iff]
    constructor
    · rintro ⟨before, after, rfl, -⟩
      exact List.mem_append_right _ List.mem_cons_self
    · intro hv
      obtain ⟨before, after, rfl⟩ := List.append_of_mem hv
      refine ⟨before, after, rfl, fun f hf => ?_⟩
      rw [List.map_append, List.map_cons, List.nodup_append] at hfs
      simpa using (hfs.2.2 f.1 (List.mem_map_of_mem hf) k List.mem_cons_self).symm
  refine Option.ext fun v => ?_
  rw [hmem hkeys, hmem ((h.map _).nodup_iff.mp hkeys), h.mem_iff]

end

end Json

namespace Document

open Json

variable {δ α : Type} {shape : RecordShape δ α} {slots : List (Slot δ)} {medium : Medium}
  {fields : List (String × Json)} {seen : List String} {draft after : δ}

/-! ## Objects -/

/-- A field that the record knows is a fault if it was met before. -/
theorem readFields_of_seen {k : String} {d : Document} {rest : List (Document × Document)}
    (hk : k ∈ shape.fields) (hseen : k ∈ seen) :
    readFields medium shape seen draft ((.text k, d) :: rest) = .error (.duplicateField k) := by
  rw [readFields]
  change (if k ∈ shape.fields then _ else _) = _
  rw [if_pos hk, if_pos hseen]
  rfl

/-- Fields that a lenient record does not know leave no trace, not even in a fault. -/
theorem readFields_knownFields (hmedium : medium ≠ .yaml) (hlenient : shape.lenient = true) :
    readFields medium shape seen draft (documentFields (knownFields shape.fields fields)) =
      readFields medium shape seen draft (documentFields fields) := by
  induction fields generalizing seen draft with
  | nil => rfl
  | cons f fields ih =>
      obtain ⟨k, v⟩ := f
      rw [knownFields, List.filter_cons]
      by_cases hk : k ∈ shape.fields
      · rw [if_pos (by simpa using hk), documentFields, documentFields]
        by_cases hseen : k ∈ seen
        · rw [readFields_of_seen hk hseen, readFields_of_seen hk hseen]
        · rw [readFields_of_mem hk hseen, readFields_of_mem hk hseen]
          exact bind_congr fun draft => ih
      · rw [if_neg (by simpa using hk), documentFields,
          readFields_of_not_mem hmedium hk v.skip_document, if_pos hlenient]
        exact ih

/-- Where fields are read that the record knows, none of them was met before. -/
theorem nodup_keys_of_readFields (hall : ∀ f ∈ fields, f.1 ∈ shape.fields)
    (h : readFields medium shape seen draft (documentFields fields) = .ok after) :
    (fields.map Prod.fst).Nodup ∧ ∀ k ∈ seen, k ∉ fields.map Prod.fst := by
  induction fields generalizing seen draft with
  | nil => exact ⟨List.nodup_nil, fun _ _ => List.not_mem_nil⟩
  | cons f fields ih =>
      obtain ⟨k, v⟩ := f
      obtain ⟨hk, hall⟩ := List.forall_mem_cons.mp hall
      rw [documentFields] at h
      by_cases hseen : k ∈ seen
      · rw [readFields_of_seen hk hseen] at h
        exact absurd h nofun
      · rw [readFields_of_mem hk hseen] at h
        obtain ⟨draft, -, h⟩ := bind_eq_ok_iff.mp h
        obtain ⟨hkeys, hmore⟩ := ih hall h
        obtain ⟨hnew, hmore⟩ := List.forall_mem_cons.mp hmore
        refine ⟨List.nodup_cons.mpr ⟨hnew, hkeys⟩, fun name hname hmem => ?_⟩
        rcases List.mem_cons.mp hmem with rfl | hmem
        · exact hseen hname
        · exact hmore name hname hmem

/-- The fields of an object fill the places of a draft, whatever else the object holds. -/
theorem readFields_lenient_eq_ok_iff (hmedium : medium ≠ .yaml) (hlenient : shape.lenient = true)
    (h : shape.HasSlots slots) :
    readFields medium shape [] draft (documentFields fields) = .ok after ↔
      ((knownFields shape.fields fields).map Prod.fst).Nodup ∧
      ∀ slot ∈ slots, slot.Filled fields draft after := by
  have hall : ∀ f ∈ knownFields shape.fields fields, f.1 ∈ shape.fields := by
    intro f hf
    simpa using (List.mem_filter.mp hf).2
  have hfilled : ∀ slot ∈ slots, slot.Filled (knownFields shape.fields fields) draft after ↔
      slot.Filled fields draft after := by
    intro slot hslot
    rw [Slot.Filled, Slot.Filled, lookup_knownFields ((h.names _).mpr ⟨slot, hslot, rfl⟩)]
  rw [← readFields_knownFields hmedium hlenient, ← forall₂_congr hfilled]
  constructor
  · intro hread
    have hkeys := (nodup_keys_of_readFields hall hread).1
    exact ⟨hkeys, ((readFields_eq_ok_iff hmedium h hkeys (List.forall_mem_nil _)).mp hread).2⟩
  · rintro ⟨hkeys, hplaces⟩
    exact (readFields_eq_ok_iff hmedium h hkeys (List.forall_mem_nil _)).mpr ⟨.inl hlenient, hplaces⟩

/-! ## Lists -/

/-- The values of a list are taken as the fields of their names are, up to the last name. -/
theorem readPositions_documents {names : List String} (hnames : names.Nodup)
    (hknown : ∀ name ∈ names, name ∈ shape.fields) (hseen : ∀ name ∈ names, name ∉ seen)
    (items : List Json) :
    readPositions shape .closed names draft (documents items) =
      (fun draft => (draft, documents (items.drop names.length))) <$>
        readFields medium shape seen draft (documentFields (names.zip items)) := by
  induction names generalizing items seen draft with
  | nil => rfl
  | cons name names ih =>
      cases items with
      | nil => rfl
      | cons v items =>
          obtain ⟨hname, hnames⟩ := List.nodup_cons.mp hnames
          obtain ⟨hk, hknown⟩ := List.forall_mem_cons.mp hknown
          obtain ⟨hnew, hseen⟩ := List.forall_mem_cons.mp hseen
          have hseenMore : ∀ other ∈ names, other ∉ name :: seen := by
            intro other hother hmem
            rcases List.mem_cons.mp hmem with rfl | hmem
            · exact hname hother
            · exact hseen other hother hmem
          rw [documents, readPositions, List.zip_cons_cons, documentFields, readFields_of_mem hk hnew,
            map_bind]
          exact bind_congr fun draft => ih hnames hknown hseenMore items

/-- A list that is not too long is read as the object that has its values under the names in order. -/
theorem readRecord_list_eq_ok_iff (hmedium : medium ≠ .yaml) (hnames : shape.fields.Nodup)
    {items : List Json} {a : α} :
    readRecord medium shape (Json.arr items).document = .ok a ↔
      items.length ≤ shape.fields.length ∧
      ∃ draft, readFields medium shape [] shape.blank
        (documentFields (shape.fields.zip items)) = .ok draft ∧ shape.finish draft = .ok a := by
  have hitems : readPositions shape .closed shape.fields shape.blank (documents items) =
      (fun draft => (draft, documents (items.drop shape.fields.length))) <$>
        readFields medium shape [] shape.blank (documentFields (shape.fields.zip items)) :=
    readPositions_documents hnames (fun _ h => h) (fun _ _ => List.not_mem_nil) items
  rw [Json.document, readRecord, if_neg hmedium, hitems, bind_map_left, bind_eq_ok_iff,
    ← exists_and_left]
  refine exists_congr fun draft => ?_
  rw [and_left_comm]
  refine and_congr_right fun _ => ?_
  rw [bind_eq_ok_iff]
  simp only [mapError_eq_ok_iff]
  by_cases hlong : items.length ≤ shape.fields.length
  · rw [List.drop_eq_nil_of_le hlong, and_iff_right hlong, documents]
    -- nothing is left over, and nothing stands between the last value and the end of the list
    have hend : ∀ b : α, (if shape.fields.length ≤ (documents items).length then do
        Ending.closed.afterLastItem
        pure b
      else pure b : Except Fault α) = .ok b := fun b => ite_self _
    constructor
    · rintro ⟨b, hb, h⟩
      cases medium <;> exact hb.trans ((hend b).symm.trans h)
    · exact fun h => ⟨a, h, by cases medium <;> exact hend a⟩
  · obtain ⟨w, rest, hrest⟩ := List.exists_cons_of_ne_nil (mt List.drop_eq_nil_iff.mp hlong)
    rw [hrest, documents]
    refine iff_of_false ?_ fun h => hlong h.1
    rintro ⟨b, -, h⟩
    cases medium <;> cases h

/-! ## Both -/

/-- A lenient record is read from what a value gives to it, whatever is missing being what it is in a
blank draft. -/
theorem readRecord_lenient_eq_ok_iff (hmedium : medium ≠ .yaml) (hlenient : shape.lenient = true)
    (h : shape.HasSlots slots) (hnames : shape.fields.Nodup) {v : Json} {a : α} :
    readRecord medium shape v.document = .ok a ↔
      ∃ fields, v.recordFields? shape.fields = some fields ∧
        ∃ draft, (∀ slot ∈ slots, slot.Filled fields shape.blank draft) ∧
          shape.finish draft = .ok a := by
  cases v with
  | obj fields =>
      have hread : readRecord medium shape (Json.obj fields).document =
          readFields medium shape [] shape.blank (documentFields fields) >>= shape.finish := rfl
      rw [hread, bind_eq_ok_iff, recordFields?]
      simp only [readFields_lenient_eq_ok_iff hmedium hlenient h]
      split
      · next hkeys => simp [hkeys]
      · next hkeys => simp [hkeys]
  | arr items =>
      have hkeys : ((knownFields shape.fields (shape.fields.zip items)).map Prod.fst).Nodup := by
        rw [knownFields_zip]
        exact (keys_zip_sublist _ items).nodup hnames
      rw [readRecord_list_eq_ok_iff hmedium hnames, recordFields?]
      simp only [readFields_lenient_eq_ok_iff hmedium hlenient h, and_iff_right hkeys]
      split
      · next hlong => simp [hlong]
      · next hlong => simp [hlong]
  | _ =>
      refine iff_of_false (wrong_document _ _ _) ?_
      rintro ⟨_, ⟨⟩, -⟩

end Document

end ScanRoster
