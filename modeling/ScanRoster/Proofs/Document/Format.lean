import ScanRoster.Proofs.Document.Normal

/-!
# Formats

A format says how the values of a type are written as JSON and how they are read.  It keeps the values if
the compact text of each is read back as that value, and if values are read from JSON by their normal
form alone: then the text is the same whatever else was in the JSON that the value came from
(`Format.Kept`).  A format keeps its values as soon as the record that it reads is kept by the fields
behind its columns (`Format.ReadsBy.kept`).
-/

namespace ScanRoster

namespace Document

open Json

/-- What a reader makes of a whole JSON text, which nothing but blanks may follow. -/
def readWhole {β : Type} (read : Document → Except Fault β) (text : String) : Except Fault β := do
  let (d, trailing) := ofJsonText text
  let b ← read d
  if trailing then throw .trailingCharacters
  return b

theorem readWhole_isText {β : Type} {read : Document → Except Fault β} {v : Json} {text : String}
    (h : v.IsText text) : readWhole read text = read v.document := by
  rw [readWhole, ofJsonText_isText h]
  exact bind_pure _

/-- How the values of a type are written as JSON, with the columns of what is written, and how they are
read. -/
structure Format (α : Type) where
  columns : List (Column α)
  toJson : α → Json
  read : Medium → Document → Except Fault α

namespace Format

variable {α : Type} (f : Format α)

/-- The compact text of a value. -/
def text (a : α) : String :=
  (f.toJson a).compactText

/-- The value in a text. -/
def ofText (text : String) : Except Fault α :=
  readWhole (f.read .jsonText) text

/-- The normal form of JSON that a value may be read from. -/
def normal (v : Json) : Json :=
  normalRecord f.columns v

/-- The fields of an object that count. -/
def counted (fields : List (String × Json)) : List (String × Json) :=
  knownFields (f.columns.map Column.name) fields

/-- The values of a format as a kind of values. -/
def kind (medium : Medium) : Kind α :=
  ⟨f.read medium, f.normal, f.toJson⟩

/-- A format keeps its values. What a value is written as is read back; so whatever a value was read
from, writing it and reading it once more gives the same value, and the same text when it is written
again. JSON is read by its normal form alone, which is what the value is written as. So fields that are
not known do not show in the text of a value, nor does the order of the others, nor whether what is taken
for a missing value was written. -/
structure Kept : Prop where
  reads_back : ∀ a, f.ofText (f.text a) = .ok a
  again : ∀ medium d a, f.read medium d = .ok a →
    ∃ b, f.ofText (f.text a) = .ok b ∧ b = a ∧ f.text b = f.text a
  read_iff : ∀ medium, medium ≠ .yaml → ∀ v a,
    f.read medium v.document = .ok a ↔ f.normal v = f.toJson a
  ofText_iff : ∀ v text, v.IsText text → ∀ a, f.ofText text = .ok a ↔ f.normal v = f.toJson a
  counted_fields : ∀ medium, medium ≠ .yaml → ∀ fields fields',
    (f.counted fields).Perm (f.counted fields') → ∀ a,
      f.read medium (Json.obj fields).document = .ok a ↔
        f.read medium (Json.obj fields').document = .ok a
  missing_fields : ∀ medium, medium ≠ .yaml → ∀ c ∈ f.columns, ∀ w, c.missing = some w →
    ∀ fields, c.name ∉ fields.map Prod.fst → ∀ a,
      f.read medium (Json.obj ((c.name, w) :: fields)).document = .ok a ↔
        f.read medium (Json.obj fields).document = .ok a

/-- A format reads a record that is kept by the fields behind its columns. -/
structure ReadsBy {δ : Type} (f : Format α) (shape : Medium → RecordShape δ α)
    (fields : Medium → List (Field δ α)) : Prop where
  keeps : ∀ medium, medium ≠ .yaml → (shape medium).Keeps (fields medium)
  columns : ∀ medium, (fields medium).map Field.column = f.columns
  read : ∀ medium d, f.read medium d = readRecord medium (shape medium) d
  write : ∀ a, f.toJson a = writeColumns f.columns a

namespace ReadsBy

variable {δ : Type} {f : Format α} {shape : Medium → RecordShape δ α}
  {fields : Medium → List (Field δ α)}

theorem wellFormed (h : f.ReadsBy shape fields) : WellFormed f.columns :=
  h.columns .jsonText ▸ (h.keeps .jsonText (by decide)).wellFormed

theorem read_iff (h : f.ReadsBy shape fields) {medium : Medium} (hmedium : medium ≠ .yaml) (v : Json)
    (a : α) : f.read medium v.document = .ok a ↔
      normalRecord f.columns v = writeColumns f.columns a := by
  rw [h.read, (h.keeps medium hmedium).readRecord_eq_ok_iff hmedium, h.columns]

theorem sound_kind (h : f.ReadsBy shape fields) {medium : Medium} (hmedium : medium ≠ .yaml) :
    (f.kind medium).Sound where
  read_iff v a := by
    change f.read medium v.document = .ok a ↔ normalRecord f.columns v = f.toJson a
    rw [h.read_iff hmedium, h.write]
  normal_write a := by
    change normalRecord f.columns (f.toJson a) = f.toJson a
    rw [h.write]
    exact normalRecord_writeColumns h.wellFormed a
  integral a := by
    change (f.toJson a).Integral
    rw [h.write, ← h.columns medium]
    exact (h.keeps medium hmedium).integral a

theorem kept (h : f.ReadsBy shape fields) : f.Kept := by
  have hsound : (f.kind .jsonText).Sound := h.sound_kind (by decide)
  have hback : ∀ a, f.ofText (f.text a) = .ok a := by
    intro a
    have htext : (f.toJson a).IsText (f.text a) := isText_compactText (hsound.integral a)
    rw [ofText, readWhole_isText htext]
    exact (hsound.read_iff (f.toJson a) a).mpr (hsound.normal_write a)
  refine ⟨hback, fun _ _ a _ => ⟨a, hback a, rfl, rfl⟩, fun medium hmedium => ?_, ?_, ?_, ?_⟩
  · exact (h.sound_kind hmedium).read_iff
  · intro v text htext a
    rw [ofText, readWhole_isText htext]
    exact hsound.read_iff v a
  · intro medium hmedium fields fields' hperm a
    rw [h.read_iff hmedium, h.read_iff hmedium]
    exact normalRecord_obj_perm h.wellFormed hperm
  · intro medium hmedium c hc w hw fields hnew a
    rw [h.read_iff hmedium, h.read_iff hmedium]
    exact normalRecord_obj_missing h.wellFormed hc hw hnew

end ReadsBy

end Format

end Document

end ScanRoster
