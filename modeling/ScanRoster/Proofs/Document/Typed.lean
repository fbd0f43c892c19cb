import ScanRoster.Record.Reading
import ScanRoster.Proofs.Except
import ScanRoster.Proofs.Json.Spelling

/-!
# Typed readers on values

What each reader of typed values takes from a JSON value, and what it makes of it.  A document that is
a value is nowhere broken, so a reader gives a fault only where the value is not of its type.
-/

namespace ScanRoster.Json

open Document

variable {α : Type}

/-! ## What a value is -/

theorem found_document (v : Json) : ∃ found, v.document.found = .ok found := by
  cases v <;> exact ⟨_, rfl⟩

/-- A value that is not what is wanted is a fault. -/
theorem wrong_document (v : Json) (wanted : Wanted) (a : α) : v.document.wrong wanted ≠ .ok a := by
  obtain ⟨found, hfound⟩ := v.found_document
  rw [Document.wrong, hfound]
  exact nofun

mutual

/-- A value is passed over without a fault. -/
theorem skip_document : ∀ v : Json, v.document.skip = .ok ()
  | .null | .bool _ | .num _ | .str _ => rfl
  | .arr items => by
      rw [document, skip, skipItems_documents items]
      rfl
  | .obj fields => by
      rw [document, skip, skipFields_documentFields fields]
      rfl

theorem skipItems_documents : ∀ items : List Json, skipItems (documents items) = .ok ()
  | [] => rfl
  | v :: items => by
      rw [documents, skipItems, skip_document v]
      exact skipItems_documents items

theorem skipFields_documentFields : ∀ fields : List (String × Json),
    skipFields (documentFields fields) = .ok ()
  | [] => rfl
  | (k, v) :: fields => by
      rw [documentFields, skipFields, skipKey, skip_document v]
      exact skipFields_documentFields fields

end

/-! ## Texts, flags and numbers -/

section

variable {v : Json}

theorem readText_eq_ok_iff {s : String} : v.document.readText = .ok s ↔ v = .str s := by
  cases v with
  | str t => simp [document, readText]
  | _ => exact ⟨fun h => absurd h (wrong_document _ _ _), nofun⟩

theorem readFlag_eq_ok_iff {b : Bool} : v.document.readFlag = .ok b ↔ v = .bool b := by
  cases v with
  | bool t => simp [document, readFlag]
  | _ => exact ⟨fun h => absurd h (wrong_document _ _ _), nofun⟩

theorem readInteger_eq_ok_iff {range : IntRange} {n : Int} :
    v.document.readInteger range = .ok n ↔ v = .int n ∧ range.least ≤ n ∧ n ≤ range.most := by
  cases v with
  | num x =>
      cases x with
      | whole m =>
          have hread : (Json.num (.whole m)).document.readInteger range =
              if range.least ≤ m ∧ m ≤ range.most then .ok m
              else .error (.outOfRange (.whole m) range) := rfl
          rw [hread]
          constructor
          · intro h
            split at h
            · next hrange =>
                obtain rfl := Except.ok.inj h
                exact ⟨rfl, hrange⟩
            · exact absurd h nofun
          · rintro ⟨⟨⟩, hrange⟩
            rw [if_pos hrange]
      | real bits => exact ⟨fun h => absurd h (wrong_document (.num (.real bits)) _ _), nofun⟩
  | _ => exact ⟨fun h => absurd h (wrong_document _ _ _), nofun⟩

theorem readTime_eq_ok_iff {t : Int64} : v.document.readTime = .ok t ↔ v = .int t.toInt := by
  simp only [readTime, map_eq_ok_iff, readInteger_eq_ok_iff, IntRange.least, IntRange.most]
  constructor
  · rintro ⟨n, ⟨rfl, hleast, hmost⟩, rfl⟩
    rw [Int64.toInt_ofInt_of_le (by omega) (by omega)]
  · rintro rfl
    have hleast := t.le_toInt
    have hmost := t.toInt_lt
    exact ⟨t.toInt, ⟨rfl, by omega, by omega⟩, t.ofInt_toInt⟩

theorem readStrength_eq_ok_iff {r : Int32} :
    v.document.readStrength = .ok r ↔ v = .int r.toInt := by
  simp only [readStrength, map_eq_ok_iff, readInteger_eq_ok_iff, IntRange.least, IntRange.most]
  constructor
  · rintro ⟨n, ⟨rfl, hleast, hmost⟩, rfl⟩
    rw [Int32.toInt_ofInt_of_le (by omega) (by omega)]
  · rintro rfl
    have hleast := r.le_toInt
    have hmost := r.toInt_lt
    exact ⟨r.toInt, ⟨rfl, by omega, by omega⟩, r.ofInt_toInt⟩

theorem readFrequency_eq_ok_iff {f : UInt32} :
    v.document.readFrequency = .ok f ↔ v = .int f.toNat := by
  simp only [readFrequency, map_eq_ok_iff, readInteger_eq_ok_iff, IntRange.least, IntRange.most]
  constructor
  · rintro ⟨n, ⟨rfl, hleast, hmost⟩, rfl⟩
    have hsize : UInt32.size = 0x100000000 := rfl
    rw [UInt32.toNat_ofNat_of_lt' (by omega), Int.toNat_of_nonneg hleast]
  · rintro rfl
    have hmost := f.toNat_lt
    exact ⟨f.toNat, ⟨rfl, by omega, by omega⟩, by rw [Int.toNat_natCast, UInt32.ofNat_toNat]⟩

end

/-! ## Values that may be null, lists and codes -/

/-- A value is null, or it is what something is written as. -/
def OrNull (Form : Json → α → Prop) (v : Json) (o : Option α) : Prop :=
  (v = .null ∧ o = none) ∨ ∃ a, Form v a ∧ o = some a

/-- A value is a list, and its items are what some things are written as, in their order. -/
def ListOf (Form : Json → α → Prop) (v : Json) (as : List α) : Prop :=
  ∃ items, v = .arr items ∧ List.Forall₂ Form items as

/-- A value is a code, as a text or as the only key of an object that has null under it. -/
def IsCode (code : α → String) (v : Json) (a : α) : Prop :=
  v = .str (code a) ∨ v = .obj [(code a, .null)]

section

variable {read : Document → Except Fault α} {Form : Json → α → Prop} {v : Json}

theorem readOptional_eq_ok_iff (hread : ∀ a, read v.document = .ok a ↔ Form v a)
    (hnull : ∀ a, ¬ Form .null a) {o : Option α} :
    v.document.readOptional read = .ok o ↔ OrNull Form v o := by
  cases v with
  | null =>
      constructor
      · intro h
        exact .inl ⟨rfl, (Except.ok.inj h).symm⟩
      · rintro (⟨-, rfl⟩ | ⟨a, ha, -⟩)
        · rfl
        · exact absurd ha (hnull a)
  | _ =>
      refine Iff.trans map_eq_ok_iff ?_
      constructor
      · rintro ⟨a, ha, rfl⟩
        exact .inr ⟨a, (hread a).mp ha, rfl⟩
      · rintro (⟨⟨⟩, -⟩ | ⟨a, ha, rfl⟩)
        exact ⟨a, (hread a).mpr ha, rfl⟩

theorem readList_eq_ok_iff
    (hread : ∀ items, v = .arr items → ∀ w ∈ items, ∀ a, read w.document = .ok a ↔ Form w a)
    {as : List α} : v.document.readList read = .ok as ↔ ListOf Form v as := by
  cases v with
  | arr items =>
      have hitems : (documents items).mapM read = .ok as ↔ List.Forall₂ Form items as := by
        rw [documents_eq_map, List.mapM_map]
        exact mapM_eq_ok_iff (hread items rfl)
      have hlist : (Json.arr items).document.readList read = .ok as ↔
          (documents items).mapM read = .ok as := by
        change (documents items).mapM read >>= _ = _ ↔ _
        rw [bind_eq_ok_iff]
        constructor
        · rintro ⟨bs, hbs, h⟩
          obtain rfl := Except.ok.inj h
          exact hbs
        · exact fun h => ⟨as, h, rfl⟩
      rw [hlist, hitems]
      constructor
      · exact fun h => ⟨items, rfl, h⟩
      · rintro ⟨_, ⟨⟩, h⟩
        exact h
  | _ =>
      refine ⟨fun h => absurd h (wrong_document _ _ _), ?_⟩
      rintro ⟨items, ⟨⟩, -⟩

theorem readNothing_eq_ok_iff : readNothing v.document = .ok () ↔ v = .null := by
  cases v with
  | null => exact ⟨fun _ => rfl, fun _ => rfl⟩
  | _ => exact ⟨fun h => absurd h (wrong_document _ _ _), nofun⟩

variable {codes : List (String × α)} {code : α → String}

theorem readCodeField_eq_ok_iff (hcodes : ∀ name a, lookUp codes name = .ok a ↔ code a = name)
    {fields : List (String × Json)} {a : α} :
    readCodeField codes (documentFields fields) .closed = .ok a ↔ fields = [(code a, .null)] := by
  cases fields with
  | nil => refine ⟨fun h => ?_, fun h => ?_⟩ <;> cases h
  | cons f fields =>
      obtain ⟨k, w⟩ := f
      simp only [documentFields, readCodeField, pure_bind]
      rw [bind_eq_ok_iff]
      constructor
      · rintro ⟨b, hb, h⟩
        obtain ⟨⟨⟩, hw, h⟩ := bind_eq_ok_iff.mp h
        obtain rfl := readNothing_eq_ok_iff.mp hw
        obtain rfl := (hcodes k b).mp hb
        -- any further field is a fault
        cases fields with
        | nil =>
            obtain rfl := Except.ok.inj h
            rfl
        | cons f fields => cases h
      · intro h
        obtain ⟨hf, rfl⟩ := List.cons.inj h
        obtain ⟨rfl, rfl⟩ := Prod.mk.inj hf
        exact ⟨a, (hcodes _ a).mpr rfl, rfl⟩

theorem readCode_eq_ok_iff (hcodes : ∀ name a, lookUp codes name = .ok a ↔ code a = name) {a : α} :
    v.document.readCode .jsonText codes = .ok a ↔ IsCode code v a := by
  cases v with
  | str s =>
      refine (hcodes s a).trans ?_
      simp [IsCode, eq_comm]
  | obj fields =>
      refine (readCodeField_eq_ok_iff hcodes).trans ?_
      simp [IsCode]
  | _ => 
      refine ⟨nofun, ?_⟩
      rintro (⟨⟨⟩⟩ | ⟨⟨⟩⟩)

theorem readCode_jsonValue_eq_ok_iff
    (hcodes : ∀ name a, lookUp codes name = .ok a ↔ code a = name) {a : α} :
    v.document.readCode .jsonValue codes = .ok a ↔ IsCode code v a := by
  cases v with
  | str s =>
      refine (hcodes s a).trans ?_
      simp [IsCode, eq_comm]
  | obj fields =>
      rcases fields with _ | ⟨⟨k, w⟩, _ | ⟨f, fields⟩⟩
      · exact iff_of_false nofun (by simp [IsCode])
      · change (lookUp codes k >>= fun b => readNothing w.document >>= fun _ => pure b) = .ok a ↔ _
        rw [bind_eq_ok_iff]
        constructor
        · rintro ⟨b, hb, h⟩
          obtain ⟨⟨⟩, hw, h⟩ := bind_eq_ok_iff.mp h
          obtain rfl := Except.ok.inj h
          obtain rfl := readNothing_eq_ok_iff.mp hw
          obtain rfl := (hcodes k b).mp hb
          exact .inr rfl
        · rintro (⟨⟨⟩⟩ | ⟨⟨⟩⟩)
          exact ⟨a, (hcodes _ a).mpr rfl, rfl⟩
      · exact iff_of_false nofun (by simp [IsCode])
  | _ =>
      refine iff_of_false (fun h => absurd h (wrong_document _ _ _)) ?_
      rintro (⟨⟨⟩⟩ | ⟨⟨⟩⟩)

/-- A code is read alike from a text and from a value in memory. -/
theorem readCode_json_eq_ok_iff {medium : Medium} (hmedium : medium ≠ .yaml)
    (hcodes : ∀ name a, lookUp codes name = .ok a ↔ code a = name) {a : α} :
    v.document.readCode medium codes = .ok a ↔ IsCode code v a := by
  cases medium with
  | jsonText => exact readCode_eq_ok_iff hcodes
  | jsonValue => exact readCode_jsonValue_eq_ok_iff hcodes
  | yaml => exact absurd rfl hmedium

/-- Things that have different codes are found by their codes. -/
theorem lookUp_map_eq_ok_iff {all : List α} (hall : ∀ a, a ∈ all)
    (hcode : Function.Injective code) (name : String) (a : α) :
    lookUp (all.map fun a => (code a, a)) name = .ok a ↔ code a = name := by
  rw [lookUp, List.find?_map]
  cases hfind : all.find? ((·.1 == name) ∘ fun a => (code a, a)) with
  | none =>
      refine ⟨nofun, fun hname => ?_⟩
      have hne := List.find?_eq_none.mp hfind a (hall a)
      exact absurd hname (by simpa using hne)
  | some b =>
      have hb : code b = name := by simpa using List.find?_some hfind
      constructor
      · intro h
        obtain rfl := Except.ok.inj h
        exact hb
      · intro h
        obtain rfl := hcode (hb.trans h.symm)
        rfl

end

end ScanRoster.Json
