import ScanRoster.Proofs.Toml.Distinct
import ScanRoster.Proofs.Toml.Text

/-!
# Written documents are read line by line

A line of a written document is a header, a key with its value, or blank.  Reading takes it as what
it was written for and goes on with the rest, and so a written table is read as the table that it was
written for (`lines?_encodeTable`).
-/

namespace ScanRoster.Toml

/-- A name that is written as a key without marks. -/
structure IsBareKey (name : String) : Prop where
  nonempty : name.toList ≠ []
  bare : ∀ c ∈ name.toList, isBareKeyChar c = true

theorem isBareKey_iff {name : String} :
    IsBareKey name ↔ name.toList ≠ [] ∧ name.toList.all isBareKeyChar = true :=
  ⟨fun h => ⟨h.nonempty, List.all_eq_true.mpr h.bare⟩, fun h => ⟨h.1, List.all_eq_true.mp h.2⟩⟩

instance (name : String) : Decidable (IsBareKey name) :=
  decidable_of_iff _ isBareKey_iff.symm

section

variable {name : String} {rest : List Char}

theorem IsBareKey.exists_cons (h : IsBareKey name) :
    ∃ c more, name.toList = c :: more ∧ isBareKeyChar c = true := by
  obtain ⟨c, more, hname⟩ := List.exists_cons_of_ne_nil h.nonempty
  exact ⟨c, more, hname, h.bare c (hname ▸ List.mem_cons_self)⟩

theorem ne_of_isBareKeyChar {c d : Char} (hc : isBareKeyChar c = true)
    (hd : isBareKeyChar d = false) : c ≠ d := by
  rintro rfl
  exact Bool.false_ne_true (hd.symm.trans hc)

theorem isBlank_of_isBareKeyChar {c : Char} (hc : isBareKeyChar c = true) : isBlank c = false := by
  have hspace := ne_of_isBareKeyChar (d := ' ') hc (by decide)
  have htab := ne_of_isBareKeyChar (d := '\t') hc (by decide)
  simp [isBlank, hspace, htab]

theorem keyPart?_bare (h : IsBareKey name) (hrest : ∀ c ∈ rest.head?, isBareKeyChar c = false) :
    keyPart? (name.toList ++ rest) = some (name, rest) := by
  have hrun : (name.toList ++ rest).takeWhile isBareKeyChar = name.toList := by
    rw [List.takeWhile_append_of_pos h.bare]
    cases rest with
    | nil => simp
    | cons c rest => simp [hrest c rfl]
  obtain ⟨c, more, hname, hc⟩ := h.exists_cons
  have hbare : keyPart? (name.toList ++ rest) =
      let run := (name.toList ++ rest).takeWhile isBareKeyChar
      if run.isEmpty then none
      else some (String.ofList run, (name.toList ++ rest).drop run.length) := by
    rw [hname, List.cons_append, keyPart?]
    · exact fun _ heq => ne_of_isBareKeyChar hc (by decide) (List.cons.inj heq).1
    · exact fun _ heq => ne_of_isBareKeyChar hc (by decide) (List.cons.inj heq).1
  have hisEmpty : name.toList.isEmpty = false := by simpa using h.nonempty
  rw [hbare, hrun]
  simp only [hisEmpty, Bool.false_eq_true, if_false, List.drop_left, String.ofList_toList]

/-- A key without marks and dots. -/
theorem key?_bare (h : IsBareKey name) (hrest : ∀ c ∈ rest.head?, isBareKeyChar c = false)
    (hdot : (rest.dropWhile isBlank).head? ≠ some '.') :
    key? (name.toList ++ rest) = some ([], name, rest.dropWhile isBlank) := by
  obtain ⟨c, more, hname, hc⟩ := h.exists_cons
  have hstart : (name.toList ++ rest).dropWhile isBlank = name.toList ++ rest := by
    simp [hname, isBlank_of_isBareKeyChar hc]
  have hparts : keyParts? ((name.toList ++ rest).length + 1) (name.toList ++ rest) =
      some ([], name, rest.dropWhile isBlank) := by
    rw [keyParts?, hstart, keyPart?_bare h hrest, Option.bind_eq_bind, Option.bind_some]
    dsimp only
    split
    · rename_i after hafter
      exact absurd (congrArg List.head? hafter) hdot
    · rfl
  rw [key?, hparts]
  rfl

end

/-! ## Values -/

/-- A value is written as some text and read back from it. -/
structure IsWrittenAs (v : Value) (text : List Char) : Prop where
  start : ∃ c more, text = c :: more ∧ isBlank c = false
  read : ∀ fuel room rest, value? (fuel + 1) room (text ++ '\n' :: rest) = some (v, '\n' :: rest)

/-- A written text starts with a mark of one of the two kinds. -/
theorem encodeText_start (s : List Char) :
    ∃ c more, encodeText s = c :: more ∧ (c = '"' ∨ c = '\'') := by
  have hbetween : ∀ (mark : Char) marks many inside,
      between (mark :: marks) many inside =
        mark :: (marks ++ (if many then ['\n'] else []) ++ inside ++ mark :: marks) := by
    intro mark marks many inside
    simp [between]
  rw [encodeText]
  simp only [hbetween]
  split_ifs <;> exact ⟨_, _, rfl, by simp⟩

theorem isWrittenAs_text (s : String) : IsWrittenAs (.text s) (encodeText s.toList) := by
  obtain ⟨c, more, hstart, hmark⟩ := encodeText_start s.toList
  refine ⟨⟨c, more, hstart, ?_⟩, fun fuel room rest => ?_⟩
  · rcases hmark with rfl | rfl <;> rfl
  · have hread : text? (encodeText s.toList ++ '\n' :: rest) = some (s.toList, '\n' :: rest) :=
      text?_encodeText s.toList (by simp) (by simp)
    have hvalue : value? (fuel + 1) room (encodeText s.toList ++ '\n' :: rest) =
        (text? (encodeText s.toList ++ '\n' :: rest)).map
          fun p => (.text (String.ofList p.1), p.2) := by
      rw [hstart, List.cons_append]
      rcases hmark with rfl | rfl <;> rw [value?]
    rw [hvalue, hread]
    simp

theorem isWrittenAs_flag (b : Bool) : IsWrittenAs (.flag b) (encodeFlag b) := by
  cases b <;> exact ⟨⟨_, _, rfl, rfl⟩, fun fuel room rest => rfl⟩

/-! ## Lines -/

section

variable {fuel : Nat} {p : Progress} {name : String} {rest : List Char}

/-- A line that starts with no blank is read, and then the rest is. -/
theorem lines?_of_line? {c : Char} {text : List Char} {p' : Progress} (hc : isBlank c = false)
    (h : line? p (c :: text) = some (p', rest)) :
    lines? (fuel + 1) p (c :: text) = lines? fuel p' rest := by
  have hstart : (c :: text).dropWhile isBlank = c :: text := by simp [hc]
  rw [lines?, hstart]
  dsimp only
  rw [h]
  rfl

theorem lines?_newline : lines? (fuel + 1) p ('\n' :: rest) = lines? fuel p rest :=
  lines?_of_line? rfl rfl

/-- A header opens its table. -/
theorem lines?_header (h : IsBareKey name) {fields : Fields}
    (hopen : p.fields.openTable [] name = some fields) :
    lines? (fuel + 1) p ('[' :: (name.toList ++ ']' :: '\n' :: rest)) =
      lines? fuel ⟨fields, [name]⟩ rest := by
  have hkey : key? (name.toList ++ ']' :: '\n' :: rest) = some ([], name, ']' :: '\n' :: rest) :=
    key?_bare h (by simp [isBareKeyChar]) (by simp [isBlank])
  refine lines?_of_line? rfl ?_
  rw [line?]
  · rw [hkey, Option.bind_eq_bind, Option.bind_some]
    simp [hopen, finishLine?, isBlank, lineEnd?]
  · intro more heq
    obtain ⟨c, more', hname, hc⟩ := h.exists_cons
    rw [hname] at heq
    exact ne_of_isBareKeyChar hc (by decide) (List.cons.inj heq).1

/-- A line that gives a key its value puts it into the table that is open. -/
theorem lines?_encodeField (h : IsBareKey name) {v : Value} {text : List Char}
    (hv : IsWrittenAs v text) {fields : Fields}
    (hdefine : p.fields.defineIn p.header [] name v = some fields) :
    lines? (fuel + 1) p (encodeField name text ++ rest) =
      lines? fuel { p with fields := fields } rest := by
  obtain ⟨c, more, hname, hc⟩ := h.exists_cons
  obtain ⟨first, more', htext, hfirst⟩ := hv.start
  have hkey : key? (name.toList ++ (' ' :: '=' :: ' ' :: (text ++ '\n' :: rest))) =
      some ([], name, '=' :: ' ' :: (text ++ '\n' :: rest)) :=
    key?_bare h (by simp [isBareKeyChar]) (by simp [isBlank])
  have hform : encodeField name text ++ rest =
      c :: (more ++ (' ' :: '=' :: ' ' :: (text ++ '\n' :: rest))) := by
    simp [encodeField, hname]
  have hgap : (' ' :: (text ++ '\n' :: rest)).dropWhile isBlank = text ++ '\n' :: rest := by
    have hspace : isBlank ' ' = true := rfl
    simp [htext, hspace, hfirst]
  rw [hname, List.cons_append] at hkey
  have hother : ∀ d, isBareKeyChar d = false → c ≠ d := fun d => ne_of_isBareKeyChar hc
  rw [hform]
  refine lines?_of_line? (isBlank_of_isBareKeyChar hc) ?_
  rw [line?]
  · rw [hkey, Option.bind_eq_bind, Option.bind_some]
    simp only [hgap, hv.read, Option.bind_eq_bind, Option.bind_some, hdefine]
    rfl
  · exact List.cons_ne_nil _ _
  all_goals
    intro _ heq
    exact hother _ (by decide) (List.cons.inj heq).1

end

/-! ## Tables -/

namespace Fields

section

variable {before inner : Fields} {name key : String}

theorem lookup?_concat (h : name ∉ before.map Prod.fst) (i : Item) :
    lookup? (before ++ [(name, i)]) name = some i := by
  have hnone := Option.map_eq_none_iff.mp (lookup?_eq_none_iff.mpr h)
  rw [lookup?, List.find?_append, hnone]
  simp

theorem replace_concat (h : name ∉ before.map Prod.fst) (i j : Item) :
    replace (before ++ [(name, i)]) name j = before ++ [(name, j)] := by
  have hsame : replace before name j = before := by
    refine (List.map_congr_left fun f hf => ?_).trans (List.map_id before)
    exact if_neg fun heq : f.1 = name => h (heq ▸ List.mem_map_of_mem hf)
  have hlast : replace [(name, i)] name j = [(name, j)] := by simp [replace]
  exact List.map_append.trans (congrArg₂ (· ++ ·) hsame hlast)

/-- A new key is put at the end of the table that was opened last. -/
theorem defineIn_concat (hname : name ∉ before.map Prod.fst) (hkey : key ∉ inner.map Prod.fst)
    (v : Value) :
    defineIn [name] [] key v (before ++ [(name, .table false false inner)]) =
      some (before ++ [(name, .table false false (inner ++ [(key, .value v)]))]) := by
  rw [defineIn, change, lookup?_concat hname]
  simp [change, define, lookup?_eq_none_iff.mpr hkey, replace_concat hname]

theorem openTable_of_new (hname : name ∉ before.map Prod.fst) :
    before.openTable [] name = some (before ++ [(name, .table false false [])]) := by
  rw [openTable, change, lookup?_eq_none_iff.mpr hname]

end

end Fields

/-- A key, its value and what that is written as. -/
structure WrittenField where
  key : String
  value : Value
  text : List Char
  isBareKey : IsBareKey key
  isWrittenAs : IsWrittenAs value text

namespace WrittenField

/-- What is written for a field. -/
def line (f : WrittenField) : String × List Char :=
  (f.key, f.text)

/-- The field under construction. -/
def item (f : WrittenField) : String × Item :=
  (f.key, .value f.value)

/-- The field. -/
def field (f : WrittenField) : String × Value :=
  (f.key, f.value)

end WrittenField

section

variable {fuel : Nat} {before : Fields} {name : String} {rest : List Char}

/-- Lines that give new keys their values put them into the table that is open. -/
theorem lines?_encodeFields (hname : name ∉ before.map Prod.fst) {written : List WrittenField}
    {inner : Fields} (hkeys : (inner.map Prod.fst ++ written.map WrittenField.key).Nodup) :
    lines? (fuel + written.length) ⟨before ++ [(name, .table false false inner)], [name]⟩
        ((written.map WrittenField.line).flatMap (fun f => encodeField f.1 f.2) ++ rest) =
      lines? fuel ⟨before ++ [(name, .table false false (inner ++ written.map WrittenField.item))],
        [name]⟩ rest := by
  -- on the fields that are left, with those that the table has already
  induction written generalizing inner with
  | nil => simp
  | cons f written ih =>
      have hkey : f.key ∉ inner.map Prod.fst := fun hmem =>
        (List.nodup_append.mp hkeys).2.2 f.key hmem f.key (by simp) rfl
      have hmore : ((inner ++ [f.item]).map Prod.fst ++ written.map WrittenField.key).Nodup := by
        simpa [WrittenField.item] using hkeys
      rw [List.map_cons, List.flatMap_cons, List.append_assoc, List.length_cons, ← Nat.add_assoc,
        WrittenField.line, lines?_encodeField f.isBareKey f.isWrittenAs
          (Fields.defineIn_concat hname hkey f.value)]
      rw [WrittenField.item] at hmore
      rw [ih hmore]
      simp [WrittenField.item]

/-- A written table is read as the table that it was written for. -/
theorem lines?_encodeTable (h : IsBareKey name) (hname : name ∉ before.map Prod.fst)
    {written : List WrittenField} (hkeys : (written.map WrittenField.key).Nodup)
    {header : List String} :
    lines? (fuel + (written.length + 1)) ⟨before, header⟩
        (encodeTable name (written.map WrittenField.line) ++ rest) =
      lines? fuel ⟨before ++ [(name, .table false false (written.map WrittenField.item))], [name]⟩
        rest := by
  have hform : encodeTable name (written.map WrittenField.line) ++ rest = '[' :: (name.toList ++
      ']' :: '\n' :: ((written.map WrittenField.line).flatMap (fun f => encodeField f.1 f.2) ++
        rest)) := by
    simp [encodeTable]
  rw [hform, ← Nat.add_assoc, lines?_header h (Fields.openTable_of_new hname),
    lines?_encodeFields hname (by simpa using hkeys), List.nil_append]

end

theorem completeFields_items (written : List WrittenField) :
    completeFields (written.map WrittenField.item) = written.map WrittenField.field := by
  induction written with
  | nil => rfl
  | cons f written ih =>
      rw [List.map_cons, WrittenField.item, completeFields, ih, Item.complete, List.map_cons,
        WrittenField.field]

/-- A header and each field of a table take more than one character. -/
theorem lt_length_encodeTable (name : String) (written : List WrittenField) :
    written.length + 1 < (encodeTable name (written.map WrittenField.line)).length := by
  induction written with
  | nil => simp [encodeTable]
  | cons f written ih =>
      simp only [encodeTable, List.map_cons, List.flatMap_cons, List.length_append, encodeField,
        List.length_cons] at ih ⊢
      omega

/-! ## Documents -/

/-- A document that starts with no byte order mark is its lines. -/
theorem read?_of_lines? {text : String} {p : Progress} (hmark : text.toList.head? ≠ some '\ufeff')
    (h : lines? (text.toList.length + 1) ⟨[], []⟩ text.toList = some p) :
    read? text = some (completeFields p.fields) := by
  have hhead : (text.toList.head? == some '\ufeff') = false := by simpa using hmark
  rw [read?, hhead]
  simp only [Bool.false_eq_true, if_false, h, Option.map_some]

/-- A document of one written table is read as the table. -/
theorem read?_encodeTable {name : String} (h : IsBareKey name) (written : List WrittenField)
    (hkeys : (written.map WrittenField.key).Nodup) {text : String}
    (htext : text.toList = encodeTable name (written.map WrittenField.line)) :
    read? text = some [(name, .table (written.map WrittenField.field))] := by
  have hlength := lt_length_encodeTable name written
  rw [← htext] at hlength
  obtain ⟨fuel, hfuel⟩ : ∃ fuel, text.toList.length + 1 = fuel + 1 + (written.length + 1) :=
    ⟨text.toList.length - (written.length + 1), by omega⟩
  have hlines : lines? (text.toList.length + 1) ⟨[], []⟩ text.toList =
      some ⟨[(name, .table false false (written.map WrittenField.item))], [name]⟩ := by
    rw [hfuel, htext, ← List.append_nil (encodeTable _ _), lines?_encodeTable h List.not_mem_nil hkeys]
    rfl
  have hmark : text.toList.head? ≠ some '\ufeff' := by simp [htext, encodeTable]
  rw [read?_of_lines? hmark hlines]
  simp [completeFields, Item.complete, completeFields_items]

end ScanRoster.Toml
