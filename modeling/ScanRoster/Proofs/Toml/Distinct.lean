import Mathlib.Data.List.Nodup
import ScanRoster.Toml.Reading

/-!
# No key is given twice

A document defines its tables piece by piece, and no piece defines again what is there.  So whatever
is read, no table in it has two fields of one key (`distinct_read?`).
-/

namespace ScanRoster.Toml

/-- No table within a value has two fields of one key. -/
inductive Value.Distinct : Value → Prop
  | text (s : String) : Distinct (.text s)
  | integer (n : Int) : Distinct (.integer n)
  | float (bits : UInt64) : Distinct (.float bits)
  | flag (b : Bool) : Distinct (.flag b)
  | time : Distinct .time
  | list {items : List Value} (hitems : ∀ v ∈ items, Distinct v) : Distinct (.list items)
  | table {fields : List (String × Value)} (hkeys : (fields.map Prod.fst).Nodup)
      (hvalues : ∀ f ∈ fields, Distinct f.2) : Distinct (.table fields)

theorem Value.distinct_table_iff {fields : List (String × Value)} : (Value.table fields).Distinct ↔
    (fields.map Prod.fst).Nodup ∧ ∀ f ∈ fields, f.2.Distinct := by
  constructor
  · rintro (_ | _ | _ | _ | _ | _ | ⟨hkeys, hvalues⟩)
    exact ⟨hkeys, hvalues⟩
  · exact fun h => .table h.1 h.2

/-- No table within an item has two fields of one key. -/
inductive Item.Distinct : Item → Prop
  | value {v : Value} (hv : v.Distinct) : Distinct (.value v)
  | table {implicit dotted : Bool} {fields : Fields} (hkeys : (fields.map Prod.fst).Nodup)
      (hitems : ∀ f ∈ fields, Distinct f.2) : Distinct (.table implicit dotted fields)
  | tables {done : List Fields} {last : Fields}
      (hdoneKeys : ∀ t ∈ done, (t.map Prod.fst).Nodup)
      (hdoneItems : ∀ t ∈ done, ∀ f ∈ t, Distinct f.2) (hkeys : (last.map Prod.fst).Nodup)
      (hitems : ∀ f ∈ last, Distinct f.2) : Distinct (.tables done last)

/-- No table of a document under construction has two fields of one key. -/
structure Fields.Distinct (fields : Fields) : Prop where
  keys : (fields.map Prod.fst).Nodup
  items : ∀ f ∈ fields, f.2.Distinct

theorem keys_completeFields (fields : Fields) :
    (completeFields fields).map Prod.fst = fields.map Prod.fst := by
  induction fields with
  | nil => rfl
  | cons f fields ih => rw [completeFields, List.map_cons, ih, List.map_cons]

mutual

theorem Item.Distinct.complete : ∀ {i : Item}, i.Distinct → i.complete.Distinct
  | .value _, .value hv => hv
  | .table _ _ fields, .table hkeys hitems =>
      .table (by rwa [keys_completeFields]) (distinct_completeFields fields hitems)
  | .tables done last, .tables hdoneKeys hdoneItems hkeys hitems => by
      refine .list fun v hv => ?_
      rcases List.mem_append.mp hv with hv | hv
      · exact distinct_completeTables done hdoneKeys hdoneItems v hv
      · obtain rfl := List.mem_singleton.mp hv
        exact .table (by rwa [keys_completeFields]) (distinct_completeFields last hitems)

theorem distinct_completeFields : ∀ (fields : Fields), (∀ f ∈ fields, f.2.Distinct) →
    ∀ f ∈ completeFields fields, f.2.Distinct
  | [], _ => nofun
  | (_, i) :: rest, h => by
      obtain ⟨hi, hrest⟩ := List.forall_mem_cons.mp h
      exact List.forall_mem_cons.mpr ⟨hi.complete, distinct_completeFields rest hrest⟩

theorem distinct_completeTables : ∀ (tables : List Fields),
    (∀ t ∈ tables, (t.map Prod.fst).Nodup) → (∀ t ∈ tables, ∀ f ∈ t, f.2.Distinct) →
    ∀ v ∈ completeTables tables, v.Distinct
  | [], _, _ => nofun
  | t :: rest, hkeys, hitems => by
      obtain ⟨hkeys, hrestKeys⟩ := List.forall_mem_cons.mp hkeys
      obtain ⟨hitems, hrestItems⟩ := List.forall_mem_cons.mp hitems
      exact List.forall_mem_cons.mpr
        ⟨.table (by rwa [keys_completeFields]) (distinct_completeFields t hitems),
          distinct_completeTables rest hrestKeys hrestItems⟩

end

namespace Fields

variable {fields fields' : Fields} {key : String}

theorem Distinct.complete (h : Distinct fields) : (Value.table (completeFields fields)).Distinct :=
  .table (by rw [keys_completeFields]; exact h.keys) (distinct_completeFields fields h.items)

theorem Distinct.nil : Distinct [] :=
  ⟨List.nodup_nil, nofun⟩

theorem lookup?_eq_none_iff : fields.lookup? key = none ↔ key ∉ fields.map Prod.fst := by
  simp only [lookup?, Option.map_eq_none_iff, List.find?_eq_none, beq_iff_eq, List.mem_map,
    not_exists, not_and]

theorem mem_of_lookup? {i : Item} (h : fields.lookup? key = some i) : (key, i) ∈ fields := by
  obtain ⟨f, hf, rfl⟩ := Option.map_eq_some_iff.mp h
  obtain rfl : f.1 = key := by simpa using List.find?_some hf
  exact List.mem_of_find?_eq_some hf

/-- A field with a new key. -/
theorem Distinct.concat (h : Distinct fields) (hnew : fields.lookup? key = none) {i : Item}
    (hi : i.Distinct) : Distinct (fields ++ [(key, i)]) := by
  refine ⟨?_, ?_⟩
  · rw [List.map_append, List.map_singleton]
    exact List.nodup_append_comm.mp (List.nodup_cons.mpr ⟨lookup?_eq_none_iff.mp hnew, h.keys⟩)
  · rw [List.forall_mem_append]
    exact ⟨h.items, List.forall_mem_singleton.mpr hi⟩

theorem Distinct.replace (h : Distinct fields) (key : String) {i : Item} (hi : i.Distinct) :
    Distinct (fields.replace key i) := by
  refine ⟨?_, fun f hf => ?_⟩
  · have hkeys : (fields.replace key i).map Prod.fst = fields.map Prod.fst := by
      rw [Fields.replace, List.map_map]
      refine List.map_congr_left fun f _ => ?_
      dsimp only [Function.comp]
      split <;> simp_all
    rw [hkeys]
    exact h.keys
  · obtain ⟨g, hg, rfl⟩ := List.mem_map.mp hf
    dsimp only
    split
    · exact hi
    · exact h.items g hg

/-- A change keeps keys apart if what is done at the end of its path does. -/
theorem Distinct.change {byDots : Bool} {act : Bool → Fields → Option Fields}
    (hact : ∀ dotted fields fields', Distinct fields → act dotted fields = some fields' →
      Distinct fields') {path : List String} {dotted : Bool} (h : Distinct fields)
    (hchange : change byDots act dotted path fields = some fields') : Distinct fields' := by
  -- on the path; the table that it leads into is new, or it is there, alone or last of several
  induction path generalizing dotted fields fields' with
  | nil => exact hact dotted fields fields' h hchange
  | cons key path ih =>
      rw [Fields.change] at hchange
      cases hlook : fields.lookup? key with
      | none =>
          rw [hlook] at hchange
          obtain ⟨made, hmade, rfl⟩ : ∃ made, Fields.change byDots act byDots path [] = some made ∧
              fields ++ [(key, .table true byDots made)] = fields' := by
            simpa [Option.bind_eq_some_iff] using hchange
          have hinner := ih .nil hmade
          exact h.concat hlook (.table hinner.keys hinner.items)
      | some i =>
          have hi := h.items _ (mem_of_lookup? hlook)
          rw [hlook] at hchange
          cases hi with
          | value hv => exact absurd hchange nofun
          | @tables done last hdoneKeys hdoneItems hkeys hitems =>
              obtain ⟨last', hlast, rfl⟩ : ∃ last', Fields.change byDots act false path last =
                  some last' ∧ fields.replace key (.tables done last') = fields' := by
                simpa [Option.bind_eq_some_iff] using hchange
              have hinner := ih ⟨hkeys, hitems⟩ hlast
              exact h.replace key (.tables hdoneKeys hdoneItems hinner.keys hinner.items)
          | @table implicit dotted' inner hkeys hitems =>
              simp only at hchange
              split at hchange
              · exact absurd hchange nofun
              · obtain ⟨inner', hinner', rfl⟩ : ∃ inner', Fields.change byDots act dotted' path
                    inner = some inner' ∧
                    fields.replace key (.table implicit dotted' inner') = fields' := by
                  simpa [Option.bind_eq_some_iff] using hchange
                have hinner := ih ⟨hkeys, hitems⟩ hinner'
                exact h.replace key (.table hinner.keys hinner.items)

theorem Distinct.define {path : List String} {v : Value} (h : Distinct fields) (hv : v.Distinct)
    (hdefine : define path key v fields = some fields') : Distinct fields' := by
  refine h.change (fun dotted fields fields' h hact => ?_) hdefine
  split at hact
  · exact absurd hact nofun
  · split at hact
    · rename_i hnew
      obtain rfl := Option.some.inj hact
      exact h.concat hnew (.value hv)
    · exact absurd hact nofun

theorem Distinct.defineIn {header path : List String} {v : Value} (h : Distinct fields)
    (hv : v.Distinct) (hdefine : defineIn header path key v fields = some fields') :
    Distinct fields' :=
  h.change (fun _ _ _ h hact => h.define hv hact) hdefine

theorem Distinct.openTable {path : List String} (h : Distinct fields)
    (hopen : openTable path key fields = some fields') : Distinct fields' := by
  refine h.change (fun dotted fields fields' h hact => ?_) hopen
  split at hact
  · rename_i hnew
    obtain rfl := Option.some.inj hact
    exact h.concat hnew (.table List.nodup_nil nofun)
  · rename_i inner hlook
    obtain rfl := Option.some.inj hact
    cases h.items _ (mem_of_lookup? hlook) with
    | table hkeys hitems => exact h.replace key (.table hkeys hitems)
  · exact absurd hact nofun

theorem Distinct.openTables {path : List String} (h : Distinct fields)
    (hopen : openTables path key fields = some fields') : Distinct fields' := by
  refine h.change (fun dotted fields fields' h hact => ?_) hopen
  split at hact
  · rename_i hnew
    obtain rfl := Option.some.inj hact
    exact h.concat hnew (.tables nofun nofun List.nodup_nil nofun)
  · rename_i done last hlook
    obtain rfl := Option.some.inj hact
    cases h.items _ (mem_of_lookup? hlook) with
    | tables hdoneKeys hdoneItems hkeys hitems =>
        refine h.replace key (.tables ?_ ?_ List.nodup_nil nofun)
        · exact List.forall_mem_append.mpr ⟨hdoneKeys, List.forall_mem_singleton.mpr hkeys⟩
        · exact List.forall_mem_append.mpr ⟨hdoneItems, List.forall_mem_singleton.mpr hitems⟩
  · exact absurd hact nofun

end Fields

/-! ## Values -/

/-- Whatever a reader gives, if it gives something, has a property. -/
def Gives {α β : Type} (P : α → Prop) (x : Option (α × β)) : Prop :=
  ∀ a rest, x = some (a, rest) → P a

namespace Gives

variable {α β γ : Type} {P : α → Prop}

theorem none : Gives (β := β) P none :=
  nofun

theorem some {a : α} {b : β} (h : P a) : Gives P (some (a, b)) := by
  rintro _ _ ⟨⟩
  exact h

theorem bind {x : Option γ} {f : γ → Option (α × β)} (h : ∀ c, x = .some c → Gives P (f c)) :
    Gives P (x >>= f) := by
  cases x with
  | none => exact .none
  | some c => exact h c rfl

theorem map {x : Option γ} {f : γ → α × β} (h : ∀ c, x = .some c → P (f c).1) :
    Gives P (x.map f) := by
  cases x with
  | none => exact .none
  | some c => exact .some (h c rfl)

theorem or {x y : Option (α × β)} (hx : Gives P x) (hy : Gives P y) : Gives P (x.or y) := by
  cases x with
  | none => exact hy
  | some c => exact hx

end Gives

theorem gives_float? (s : List Char) : Gives Value.Distinct (float? s) := by
  unfold float?
  dsimp only
  split
  · exact .some (.float _)
  · exact .some (.float _)
  · refine .bind fun _ _ => ?_
    -- the exponent and the size are looked at in the same way with and without a fraction
    split
    · split
      · exact .none
      · refine .bind fun _ _ => .bind fun _ _ => ?_
        split
        · exact .none
        · refine .bind fun _ _ => ?_
          split
          · exact .none
          · exact .some (.float _)
    · refine .bind fun _ _ => .bind fun _ _ => ?_
      split
      · exact .none
      · refine .bind fun _ _ => ?_
        split
        · exact .none
        · exact .some (.float _)

theorem gives_integer? (s : List Char) : Gives Value.Distinct (integer? s) := by
  have hrange : ∀ p : Int × List Char, Gives Value.Distinct
      (if -0x8000000000000000 ≤ p.1 ∧ p.1 < 0x8000000000000000 then some (.integer p.1, p.2)
        else none) := by
    intro p
    split
    · exact .some (.integer _)
    · exact .none
  unfold integer?
  dsimp only
  split
  · exact .bind fun p _ => hrange p
  · exact .bind fun p _ => hrange p
  · exact .bind fun p _ => hrange p
  · exact .bind fun _ _ => .bind fun _ _ => .bind fun p _ => hrange p

theorem gives_time? (s : List Char) : Gives Value.Distinct (time? s) := by
  unfold time?
  split
  · split
    · split
      · exact .bind fun _ _ => .bind fun _ _ => .some .time
      · exact .some .time
    · exact .some .time
  · exact .map fun _ _ => .time

section

variable {fuel : Nat}

/-- A value, if the items of lists and the fields of tables within it are distinct. -/
theorem gives_value?
    (hitems : ∀ room done s, (∀ v ∈ done, v.Distinct) →
      Gives Value.Distinct (items? fuel room done s))
    (hinline : ∀ room fields s, Fields.Distinct fields →
      Gives Value.Distinct (inline? fuel room fields s)) (room : Nat) (s : List Char) :
    Gives Value.Distinct (value? (fuel + 1) room s) := by
  unfold value?
  split
  · exact .none
  · exact .map fun _ _ => .text _
  · exact .map fun _ _ => .text _
  · split
    · exact .none
    · exact hitems _ _ _ nofun
  · split
    · exact .none
    · split
      · exact .some (.table List.nodup_nil nofun)
      · exact hinline _ _ _ .nil
  · exact .some (.flag true)
  · exact .some (.flag false)
  · exact gives_float? _
  · exact gives_float? _
  · split
    · exact ((gives_time? _).or (gives_float? _)).or (gives_integer? _)
    · exact .none

variable (hvalue : ∀ room s, Gives Value.Distinct (value? fuel room s))
include hvalue

/-- The items of a list, one more after those that were read. -/
theorem gives_items?
    (hitems : ∀ room done s, (∀ v ∈ done, v.Distinct) →
      Gives Value.Distinct (items? fuel room done s))
    (room : Nat) {done : List Value} (hdone : ∀ v ∈ done, v.Distinct) (s : List Char) :
    Gives Value.Distinct (items? (fuel + 1) room done s) := by
  unfold items?
  refine .bind fun _ _ => ?_
  split
  · exact .some (.list fun v hv => hdone v (List.mem_reverse.mp hv))
  · refine .bind fun (v, rest) hread => .bind fun _ _ => ?_
    have hmore : ∀ w ∈ v :: done, w.Distinct :=
      List.forall_mem_cons.mpr ⟨hvalue _ _ v rest hread, hdone⟩
    split
    · exact hitems _ _ _ hmore
    · exact .some (.list fun w hw => hmore w (List.mem_reverse.mp hw))
    · exact .none

/-- The fields of a table on one line, one more after those that were read. -/
theorem gives_inline?
    (hinline : ∀ room fields s, Fields.Distinct fields →
      Gives Value.Distinct (inline? fuel room fields s))
    (room : Nat) {fields : Fields} (hfields : Fields.Distinct fields) (s : List Char) :
    Gives Value.Distinct (inline? (fuel + 1) room fields s) := by
  unfold inline?
  refine .bind fun _ _ => ?_
  split
  dsimp only
  split
  · refine .bind fun read hread => .bind fun fields' hdefine => ?_
    have hmore : Fields.Distinct fields' :=
      hfields.define (hvalue _ _ read.1 read.2 hread) hdefine
    split
    · exact hinline _ _ _ hmore
    · exact .some hmore.complete
    · exact .none
  · exact .none

end

/-- Values, items of lists and fields of tables on one line, by induction on the depth of recursion. -/
theorem gives_values (fuel : Nat) :
    (∀ room s, Gives Value.Distinct (value? fuel room s)) ∧
    (∀ room done s, (∀ v ∈ done, v.Distinct) → Gives Value.Distinct (items? fuel room done s)) ∧
    (∀ room fields s, Fields.Distinct fields →
      Gives Value.Distinct (inline? fuel room fields s)) := by
  induction fuel with
  | zero => exact ⟨fun _ _ => .none, fun _ _ _ _ => .none, fun _ _ _ _ => .none⟩
  | succ fuel ih =>
      obtain ⟨hvalue, hitems, hinline⟩ := ih
      exact ⟨gives_value? hitems hinline, fun room _ s h => gives_items? hvalue hitems room h s,
        fun room _ s h => gives_inline? hvalue hinline room h s⟩

/-! ## Lines -/

theorem gives_line? {p : Progress} (h : Fields.Distinct p.fields) (s : List Char) :
    Gives (fun p : Progress => Fields.Distinct p.fields) (line? p s) := by
  unfold line?
  split
  · exact .some h
  · exact .map fun _ _ => h
  · exact .map fun _ _ => h
  · exact .map fun _ _ => h
  · refine .bind fun _ _ => ?_
    dsimp only
    split
    · refine .bind fun fields' hopen => .bind fun _ _ => .some ?_
      exact h.openTables hopen
    · exact .none
  · refine .bind fun _ _ => ?_
    dsimp only
    split
    · refine .bind fun fields' hopen => .bind fun _ _ => .some ?_
      exact h.openTable hopen
    · exact .none
  · refine .bind fun _ _ => ?_
    dsimp only
    split
    · refine .bind fun read hread => .bind fun fields' hdefine => .bind fun _ _ => .some ?_
      exact h.defineIn ((gives_values _).1 _ _ read.1 read.2 hread) hdefine
    · exact .none

theorem distinct_lines? {fuel : Nat} {p p' : Progress} {s : List Char}
    (h : Fields.Distinct p.fields) (hread : lines? fuel p s = some p') :
    Fields.Distinct p'.fields := by
  induction fuel generalizing p s with
  | zero => exact absurd hread nofun
  | succ fuel ih =>
      rw [lines?] at hread
      split at hread
      · obtain rfl := Option.some.inj hread
        exact h
      · obtain ⟨⟨next, rest⟩, hline, hread⟩ := Option.bind_eq_some_iff.mp hread
        exact ih (gives_line? h _ next rest hline) hread

/-- A document that is read gives no key twice. -/
theorem distinct_read? {text : String} {fields : List (String × Value)}
    (h : read? text = some fields) : (Value.table fields).Distinct := by
  obtain ⟨p, hread, rfl⟩ := Option.map_eq_some_iff.mp h
  exact (distinct_lines? .nil hread).complete

end ScanRoster.Toml
