import Mathlib.Data.List.Nodup
import ScanRoster.Proofs.Document.Lenient
import ScanRoster.Proofs.Json.Compact
import ScanRoster.Proofs.Json.Reading

/-!
# Normal forms of records

A record is written column by column.  The normal form of a value that a record may be read from is what
the value has in these columns, in their order: other fields are gone, what may be missing is filled in,
and a null that is not written is left out.  A record is read from exactly the values whose normal form
is what it is written as (`RecordShape.Keeps.readRecord_eq_ok_iff`).
-/

namespace ScanRoster

/-! ## Columns -/

namespace Json

/-- A column of a record: the name of its field, the normal form of a value that stands there, what is
taken for a value that may be missing, whether null is left out, and what a record has there. -/
structure Column (α : Type) where
  name : String
  normal : Json → Json
  missing : Option Json
  hidesNull : Bool
  write : α → Json

namespace Column

variable {α : Type} (c : Column α)

/-- What is written where a column has some value or none. -/
def shown : Option Json → Option Json
  | some .null => if c.hidesNull then none else some .null
  | o => o

/-- The normal form of what stands in a column, or of what is taken for it. -/
def normalIn (o : Option Json) : Option Json :=
  c.shown ((o.map c.normal).or c.missing)

/-- What is written of a record in a column. -/
def written (a : α) : Option Json :=
  c.shown (some (c.write a))

variable {c}

/-- Only where null is what a missing value is taken for is it left out. -/
theorem normalIn_eq_written_iff (h : c.hidesNull = true → c.missing = some .null) {o : Option Json}
    {a : α} : c.normalIn o = c.written a ↔ (o.map c.normal).or c.missing = some (c.write a) := by
  have hshown : ∀ v w : Json, c.shown (some v) = c.shown (some w) ↔ v = w := by
    intro v w
    cases v <;> cases w <;> simp [shown]
  rw [normalIn, written]
  cases hw : (o.map c.normal).or c.missing with
  | some v => rw [hshown, Option.some_inj]
  | none =>
      have hvisible : c.hidesNull = false := by
        rw [← Bool.not_eq_true]
        intro hhides
        rw [Option.or_eq_none_iff, h hhides] at hw
        exact absurd hw.2 nofun
      cases c.write a <;> simp [shown, hvisible]

/-- Whatever is written in a column is what the record has there. -/
theorem eq_of_written_eq_some {a : α} {w : Json} (h : c.written a = some w) : w = c.write a := by
  rw [written] at h
  cases ha : c.write a with
  | null =>
      rw [ha, shown] at h
      split at h
      · exact absurd h nofun
      · exact (Option.some.inj h).symm
  | _ =>
      rw [ha] at h
      exact (Option.some.inj h).symm

/-- What is written in a column is taken for what the record has there. -/
theorem value_written (h : c.hidesNull = true → c.missing = some .null) {a : α}
    (hwrite : c.normal (c.write a) = c.write a) :
    ((c.written a).map c.normal).or c.missing = some (c.write a) := by
  rw [written]
  cases ha : c.write a with
  | null =>
      rw [ha] at hwrite
      rw [shown]
      split
      · next hhides => rw [h hhides, Option.map_none, Option.none_or]
      · rw [Option.map_some, hwrite, Option.some_or]
  | _ =>
      rw [ha] at hwrite
      rw [shown, Option.map_some, hwrite, Option.some_or]
      exact nofun

end Column

variable {α : Type} {columns : List (Column α)} {f g : Column α → Option Json}

/-- The fields of an object that has something in each of some columns, or nothing. -/
def columnFields (columns : List (Column α)) (f : Column α → Option Json) : List (String × Json) :=
  columns.filterMap fun c => (f c).map (c.name, ·)

/-- What a record is written as. -/
def writeColumns (columns : List (Column α)) (a : α) : Json :=
  .obj (columnFields columns (·.written a))

/-- The normal form of a value that a record with some columns may be read from. -/
def normalRecord (columns : List (Column α)) (v : Json) : Json :=
  match v.recordFields? (columns.map Column.name) with
  | some fields => .obj (columnFields columns fun c => c.normalIn (fields.lookup c.name))
  | none => v

theorem columnFields_cons (c : Column α) (columns : List (Column α)) (f : Column α → Option Json) :
    columnFields (c :: columns) f =
      ((f c).map (c.name, ·)).toList ++ columnFields columns f := by
  rw [columnFields, List.filterMap_cons]
  cases f c <;> rfl

theorem keys_columnFields_sublist (columns : List (Column α)) (f : Column α → Option Json) :
    ((columnFields columns f).map Prod.fst).Sublist (columns.map Column.name) := by
  induction columns with
  | nil => exact List.Sublist.refl _
  | cons c columns ih =>
      rw [columnFields_cons, List.map_append, List.map_cons]
      cases f c with
      | none => exact ih.cons _
      | some v => exact ih.cons_cons _

theorem lookup_columnFields (hnames : (columns.map Column.name).Nodup) {c : Column α}
    (hc : c ∈ columns) : (columnFields columns f).lookup c.name = f c := by
  induction columns with
  | nil => exact absurd hc List.not_mem_nil
  | cons c' columns ih =>
      rw [List.map_cons, List.nodup_cons] at hnames
      rw [columnFields_cons]
      rcases List.mem_cons.mp hc with rfl | hc
      · cases f c with
        | some v => simp
        | none =>
            refine lookup_eq_none_of_not_mem fun hmem => hnames.1 ?_
            exact (keys_columnFields_sublist columns f).subset hmem
      · have hne : (c.name == c'.name) = false := by
          have hne : c.name ≠ c'.name := fun heq => hnames.1 (heq ▸ List.mem_map_of_mem hc)
          simpa using hne
        cases f c' with
        | none => exact ih hnames.2 hc
        | some v =>
            rw [Option.map_some, Option.toList_some, List.singleton_append, List.lookup_cons, hne]
            exact ih hnames.2 hc

theorem columnFields_eq_iff (hnames : (columns.map Column.name).Nodup) :
    columnFields columns f = columnFields columns g ↔ ∀ c ∈ columns, f c = g c := by
  constructor
  · intro h c hc
    have hlookup : (columnFields columns f).lookup c.name = f c := lookup_columnFields hnames hc
    rw [← hlookup, h, lookup_columnFields hnames hc]
  · intro h
    exact List.filterMap_congr fun c hc => by rw [h c hc]

/-- Columns have different names, null is left out only where it is what a missing value is taken for, and
what is taken for a missing value or written of a record is in its normal form. -/
structure WellFormed (columns : List (Column α)) : Prop where
  names : (columns.map Column.name).Nodup
  hides : ∀ c ∈ columns, c.hidesNull = true → c.missing = some .null
  normal_missing : ∀ c ∈ columns, ∀ w, c.missing = some w → c.normal w = w
  normal_write : ∀ c ∈ columns, ∀ a, c.normal (c.write a) = c.write a

/-- An object with nothing but columns gives its own fields. -/
theorem recordFields?_columnFields (hnames : (columns.map Column.name).Nodup) :
    (Json.obj (columnFields columns f)).recordFields? (columns.map Column.name) =
      some (columnFields columns f) := by
  have hkeys := (keys_columnFields_sublist columns f).nodup hnames
  rw [recordFields?, if_pos]
  exact (List.filter_sublist.map _).nodup hkeys

/-- The normal form of a value is what a record is written as if the value has in each column what the
record has there. -/
theorem normalRecord_eq_writeColumns_iff (h : WellFormed columns) {v : Json} {a : α} :
    normalRecord columns v = writeColumns columns a ↔
      ∃ fields, v.recordFields? (columns.map Column.name) = some fields ∧
        ∀ c ∈ columns, ((fields.lookup c.name).map c.normal).or c.missing = some (c.write a) := by
  cases hv : v.recordFields? (columns.map Column.name) with
  | none =>
      rw [normalRecord, hv]
      refine iff_of_false (fun heq => ?_) nofun
      dsimp only at heq
      rw [heq, writeColumns, recordFields?_columnFields h.names] at hv
      exact absurd hv nofun
  | some fields =>
      rw [normalRecord, hv, writeColumns, Json.obj.injEq, columnFields_eq_iff h.names]
      simp only [Option.some.injEq, exists_eq_left']
      exact forall₂_congr fun c hc => Column.normalIn_eq_written_iff (h.hides c hc)

/-- An object with each known name at most once gives its fields, and any other gives none. -/
theorem normalRecord_obj_eq_iff (h : WellFormed columns)
    {fields : List (String × Json)} {a : α} :
    normalRecord columns (.obj fields) = writeColumns columns a ↔
      ((knownFields (columns.map Column.name) fields).map Prod.fst).Nodup ∧
        ∀ c ∈ columns, ((fields.lookup c.name).map c.normal).or c.missing = some (c.write a) := by
  rw [normalRecord_eq_writeColumns_iff h, recordFields?]
  split
  · next hkeys => simp [hkeys]
  · next hkeys => simp [hkeys]

/-- Only the fields with known names count, and their order does not. -/
theorem normalRecord_obj_perm (h : WellFormed columns)
    {fields fields' : List (String × Json)}
    (hperm : (knownFields (columns.map Column.name) fields).Perm
      (knownFields (columns.map Column.name) fields')) {a : α} :
    normalRecord columns (.obj fields) = writeColumns columns a ↔
      normalRecord columns (.obj fields') = writeColumns columns a := by
  rw [normalRecord_obj_eq_iff h, normalRecord_obj_eq_iff h,
    (hperm.map Prod.fst).nodup_iff]
  refine and_congr_right fun hkeys => forall₂_congr fun c hc => ?_
  have hknown : c.name ∈ columns.map Column.name := List.mem_map_of_mem hc
  have hlookup : fields.lookup c.name = fields'.lookup c.name :=
    calc fields.lookup c.name
        = (knownFields _ fields).lookup c.name := (lookup_knownFields hknown).symm
      _ = (knownFields _ fields').lookup c.name :=
          lookup_perm hperm ((hperm.map Prod.fst).nodup_iff.mpr hkeys)
      _ = fields'.lookup c.name := lookup_knownFields hknown
  rw [hlookup]

/-- What is taken for a missing value may as well be written. -/
theorem normalRecord_obj_missing (h : WellFormed columns) {c : Column α}
    (hc : c ∈ columns) {w : Json} (hw : c.missing = some w)
    {fields : List (String × Json)} (hnew : c.name ∉ fields.map Prod.fst) {a : α} :
    normalRecord columns (.obj ((c.name, w) :: fields)) = writeColumns columns a ↔
      normalRecord columns (.obj fields) = writeColumns columns a := by
  have hknown : c.name ∈ columns.map Column.name := List.mem_map_of_mem hc
  have hcons : knownFields (columns.map Column.name) ((c.name, w) :: fields) =
      (c.name, w) :: knownFields (columns.map Column.name) fields := by
    rw [knownFields, List.filter_cons, if_pos (by simpa using hknown), knownFields]
  have hnewKnown : c.name ∉ (knownFields (columns.map Column.name) fields).map Prod.fst := fun hmem =>
    hnew ((List.filter_sublist.map Prod.fst).subset hmem)
  rw [normalRecord_obj_eq_iff h, normalRecord_obj_eq_iff h, hcons,
    List.map_cons, List.nodup_cons, and_iff_right hnewKnown]
  refine and_congr_right fun _ => forall₂_congr fun c' hc' => ?_
  rw [List.lookup_cons]
  by_cases hname : c'.name = c.name
  · obtain rfl := List.inj_on_of_nodup_map h.names hc' hc hname
    rw [beq_self_eq_true, lookup_eq_none_of_not_mem hnew, hw]
    simp [h.normal_missing c' hc' w hw]
  · have hne : (c'.name == c.name) = false := by simpa using hname
    rw [hne]

/-- What a record is written as is its own normal form. -/
theorem normalRecord_writeColumns (h : WellFormed columns) (a : α) :
    normalRecord columns (writeColumns columns a) = writeColumns columns a := by
  refine (normalRecord_eq_writeColumns_iff h).mpr
    ⟨_, recordFields?_columnFields h.names, fun c hc => ?_⟩
  rw [lookup_columnFields h.names hc]
  exact Column.value_written (h.hides c hc) (h.normal_write c hc a)

theorem integral_writeColumns {a : α} (h : ∀ c ∈ columns, (c.write a).Integral) :
    (writeColumns columns a).Integral := by
  refine integral_obj_iff.mpr fun field hfield => ?_
  obtain ⟨c, hc, hwritten⟩ := List.mem_filterMap.mp hfield
  obtain ⟨w, hw, rfl⟩ := Option.map_eq_some_iff.mp hwritten
  rw [Column.eq_of_written_eq_some hw]
  exact h c hc

end Json

/-! ## Records that are read from their columns -/

namespace Document

open Json

/-- A kind of values: how they are read, the normal form of what they are read from, and how they are
written. -/
structure Kind (β : Type) where
  read : Document → Except Fault β
  normal : Json → Json
  write : β → Json

/-- A value of a kind is read from exactly the JSON values whose normal form is what it is written
as. -/
structure Kind.Sound {β : Type} (k : Kind β) : Prop where
  read_iff : ∀ v b, k.read v.document = .ok b ↔ k.normal v = k.write b
  normal_write : ∀ b, k.normal (k.write b) = k.write b
  integral : ∀ b, (k.write b).Integral

/-- A kind of values that are written in one way only. -/
def Kind.plain {β : Type} (read : Document → Except Fault β) (write : β → Json) : Kind β :=
  ⟨read, id, write⟩

/-- A field of a record: its kind, its place in a draft, what the record has there, what is taken for a
missing value, and whether null is left out. -/
structure Field (δ α : Type) where
  name : String
  Content : Type
  kind : Kind Content
  given : δ → Option Content
  give : δ → Option Content → δ
  get : α → Content
  missing : Option Content
  hidesNull : Bool

section

variable {β δ α : Type}

theorem Kind.Sound.write_inj {k : Kind β} (h : k.Sound) {b b' : β} :
    k.write b = k.write b' ↔ b = b' := by
  refine ⟨fun hwrite => ?_, congrArg _⟩
  have hb := (h.read_iff (k.write b) b).mpr (h.normal_write b)
  have hb' := (h.read_iff (k.write b) b').mpr (hwrite ▸ h.normal_write b)
  exact Except.ok.inj (hb.symm.trans hb')

/-- A column has what is written for a content if what stands there is read as the content, or, where
nothing does, the content is what is taken for it. -/
theorem Kind.Sound.value_iff {k : Kind β} (h : k.Sound) {given : Option Json} {missing : Option β}
    {b : β} : (given.map k.normal).or (missing.map k.write) = some (k.write b) ↔
      match given with
      | none => missing = some b
      | some v => k.read v.document = .ok b := by
  cases given with
  | none =>
      rw [Option.map_none, Option.none_or, Option.map_eq_some_iff]
      simp only [h.write_inj, exists_eq_right]
  | some v =>
      rw [Option.map_some, Option.some_or, Option.some_inj]
      exact (h.read_iff v b).symm

theorem Kind.sound_plain {read : Document → Except Fault β} {write : β → Json}
    (hread : ∀ v b, read v.document = .ok b ↔ v = write b) (hwrite : ∀ b, (write b).Integral) :
    (Kind.plain read write).Sound :=
  ⟨hread, fun _ => rfl, hwrite⟩

/-- Values of a kind that are never written as null, or none. -/
theorem Kind.sound_optional {read : Document → Except Fault β} {write : β → Json}
    (hread : ∀ v b, read v.document = .ok b ↔ v = write b) (hwrite : ∀ b, (write b).Integral)
    (hnull : ∀ b, Json.null ≠ write b) :
    (Kind.plain (fun d => d.readOptional read) (Json.ofOption write)).Sound := by
  refine Kind.sound_plain (fun v o => ?_) fun o => ?_
  · have hoption : v.document.readOptional read = .ok o ↔ OrNull (fun v b => v = write b) v o :=
      readOptional_eq_ok_iff (hread v) hnull
    rw [hoption, OrNull]
    cases o <;> simp [Json.ofOption]
  · cases o with
    | none => exact .null
    | some b => exact hwrite b

/-- The place of a field in a draft. -/
def Field.slot (f : Field δ α) : Slot δ :=
  ⟨f.name, Option f.Content, f.given, f.give, fun d => some <$> f.kind.read d⟩

/-- The column of a field. -/
def Field.column (f : Field δ α) : Column α :=
  ⟨f.name, f.kind.normal, f.missing.map f.kind.write, f.hidesNull, fun a => f.kind.write (f.get a)⟩

end

/-- A record is kept by its fields: they are all that it knows, each has its place in a draft, and a
finished draft has in each what the record has there. -/
structure RecordShape.Keeps {δ α : Type} (shape : RecordShape δ α) (fields : List (Field δ α)) :
    Prop where
  hasSlots : shape.HasSlots (fields.map Field.slot)
  names : shape.fields = fields.map Field.name
  nodup : (fields.map Field.name).Nodup
  lenient : shape.lenient = true
  blank : ∀ f ∈ fields, f.given shape.blank = none
  finish : ∀ draft a, shape.finish draft = .ok a ↔
    ∀ f ∈ fields, (f.given draft).or f.missing = some (f.get a)
  sound : ∀ f ∈ fields, f.kind.Sound
  hides : ∀ f ∈ fields, f.hidesNull = true → f.missing.map f.kind.write = some .null

namespace RecordShape.Keeps

variable {δ α : Type} {shape : RecordShape δ α} {fields : List (Field δ α)}

theorem columns_names : (fields.map Field.column).map Column.name = fields.map Field.name := by
  rw [List.map_map]
  rfl

/-- Some draft has any contents in the places of the fields. -/
theorem exists_draft (h : shape.Keeps fields) (want : (f : Field δ α) → Option f.Content) :
    ∃ draft, ∀ f ∈ fields, f.given draft = want f := by
  suffices hsome : ∀ some : List (Field δ α), some.Sublist fields →
      ∃ draft, ∀ f ∈ some, f.given draft = want f from hsome fields (List.Sublist.refl _)
  intro some hsome
  induction some with
  | nil => exact ⟨shape.blank, nofun⟩
  | cons g rest ih =>
      obtain ⟨draft, hdraft⟩ := ih ((List.sublist_cons_self g rest).trans hsome)
      have hslot : ∀ f ∈ g :: rest, f.slot ∈ fields.map Field.slot := fun f hf =>
        List.mem_map_of_mem (hsome.subset hf)
      have hnames := (hsome.map Field.name).nodup h.nodup
      rw [List.map_cons, List.nodup_cons] at hnames
      refine ⟨g.give draft (want g), List.forall_mem_cons.mpr ⟨?_, fun f hf => ?_⟩⟩
      · exact h.hasSlots.get_set g.slot (hslot g List.mem_cons_self) draft (want g)
      · -- filling the place of one field leaves that of any other as it was
        have hne : g.name ≠ f.name := fun heq => hnames.1 (heq ▸ List.mem_map_of_mem hf)
        rw [← hdraft f hf]
        exact h.hasSlots.get_set_ne f.slot (hslot f (List.mem_cons_of_mem g hf)) g.slot
          (hslot g List.mem_cons_self) hne draft (want g)

/-- What a draft has in the place of a field, filled from some fields. -/
theorem filled_iff (h : shape.Keeps fields) {f : Field δ α} (hf : f ∈ fields)
    {given : List (String × Json)} {draft : δ} :
    f.slot.Filled given shape.blank draft ↔
      match given.lookup f.name with
      | none => f.given draft = none
      | some v => ∃ x, f.kind.read v.document = .ok x ∧ some x = f.given draft := by
  change (match given.lookup f.name with
    | none => f.given draft = f.given shape.blank
    | some v => some <$> f.kind.read v.document = .ok (f.given draft)) ↔ _
  cases given.lookup f.name with
  | none => rw [h.blank f hf]
  | some v => exact map_eq_ok_iff

/-- Some draft that is filled from some fields is finished as a record exactly if the fields have in
each column what the record has there. -/
theorem exists_filled_iff (h : shape.Keeps fields) {given : List (String × Json)} {a : α} :
    (∃ draft, (∀ slot ∈ fields.map Field.slot, slot.Filled given shape.blank draft) ∧
      shape.finish draft = .ok a) ↔
    ∀ c ∈ fields.map Field.column,
      ((given.lookup c.name).map c.normal).or c.missing = some (c.write a) := by
  have hvalue : ∀ f ∈ fields,
      ((given.lookup f.name).map f.kind.normal).or (f.missing.map f.kind.write) =
          some (f.kind.write (f.get a)) ↔
        match given.lookup f.name with
        | none => f.missing = some (f.get a)
        | some v => f.kind.read v.document = .ok (f.get a) :=
    fun f hf => (h.sound f hf).value_iff
  rw [List.forall_mem_map]
  refine Iff.trans ?_ (forall₂_congr hvalue).symm
  simp only [List.forall_mem_map, h.finish]
  constructor
  · rintro ⟨draft, hfilled, hfinish⟩ f hf
    have hplace := (h.filled_iff hf).mp (hfilled f hf)
    have hcontent := hfinish f hf
    cases hv : given.lookup f.name with
    | none =>
        rw [hv] at hplace
        rwa [hplace, Option.none_or] at hcontent
    | some v =>
        rw [hv] at hplace
        obtain ⟨x, hx, hgiven⟩ := hplace
        rw [← hgiven, Option.some_or, Option.some_inj] at hcontent
        exact hcontent ▸ hx
  · intro hcolumns
    -- the draft that has the content of the record wherever a field is given
    obtain ⟨draft, hdraft⟩ := h.exists_draft fun f =>
      (given.lookup f.name).map fun _ => f.get a
    refine ⟨draft, fun f hf => (h.filled_iff hf).mpr ?_, fun f hf => ?_⟩
    · have hcontent := hcolumns f hf
      rw [hdraft f hf]
      cases hv : given.lookup f.name with
      | none => rfl
      | some v =>
          rw [hv] at hcontent
          exact ⟨f.get a, hcontent, rfl⟩
    · have hcontent := hcolumns f hf
      rw [hdraft f hf]
      cases hv : given.lookup f.name with
      | none =>
          rw [hv] at hcontent
          exact hcontent
      | some v => rfl

theorem wellFormed (h : shape.Keeps fields) : WellFormed (fields.map Field.column) where
  names := columns_names ▸ h.nodup
  hides := List.forall_mem_map.mpr h.hides
  normal_missing := by
    refine List.forall_mem_map.mpr fun f hf w hw => ?_
    obtain ⟨x, -, rfl⟩ := Option.map_eq_some_iff.mp hw
    exact (h.sound f hf).normal_write x
  normal_write := List.forall_mem_map.mpr fun f hf a => (h.sound f hf).normal_write (f.get a)

theorem integral (h : shape.Keeps fields) (a : α) :
    (writeColumns (fields.map Field.column) a).Integral :=
  integral_writeColumns (List.forall_mem_map.mpr fun f hf => (h.sound f hf).integral (f.get a))

/-- A record is read from exactly the values whose normal form is what it is written as. -/
theorem readRecord_eq_ok_iff (h : shape.Keeps fields) {medium : Medium} (hmedium : medium ≠ .yaml)
    {v : Json} {a : α} :
    readRecord medium shape v.document = .ok a ↔
      normalRecord (fields.map Field.column) v = writeColumns (fields.map Field.column) a := by
  rw [readRecord_lenient_eq_ok_iff hmedium h.lenient h.hasSlots (h.names ▸ h.nodup),
    normalRecord_eq_writeColumns_iff h.wellFormed, columns_names, h.names]
  exact exists_congr fun given => and_congr_right fun _ => h.exists_filled_iff

end RecordShape.Keeps

end Document

end ScanRoster
