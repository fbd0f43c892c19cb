import Mathlib.Data.List.TakeDrop
import Mathlib.Data.List.TakeWhile
import ScanRoster.Proofs.Json.Spelling

/-!
# Texts of JSON values are read

Whichever way a value is written, reading takes exactly what was written for it off the start of the
text, and gives the value as a tree that is nowhere broken (`ofJsonText_isText`).  The fuel is enough
since every level of the value has a character of its own.
-/

namespace ScanRoster.Json

open Document JsonText

/-! ## Strings -/

/-- A unit that is a character of its own. -/
theorem assemble_unit {n : Nat} (hwhole : n < 0xD800 ∨ 0xDFFF < n) (parts : List Piece) :
    assemble (.unit n :: parts) = (assemble parts).cons (Char.ofNat n) := by
  rw [assemble.eq_def]
  dsimp only
  rw [if_neg (by omega), if_pos (by omega)]

/-- Two units that are one character. -/
theorem assemble_pair {n m : Nat} (hleading : 0xD800 ≤ n ∧ n ≤ 0xDBFF)
    (htrailing : 0xDC00 ≤ m ∧ m ≤ 0xDFFF) (parts : List Piece) :
    assemble (.unit n :: .unit m :: parts) =
      (assemble parts).cons (Char.ofNat (0x10000 + (n - 0xD800) * 0x400 + (m - 0xDC00))) := by
  rw [assemble.eq_def]
  dsimp only
  rw [if_neg (by omega), if_neg (by omega), if_neg (by omega)]

/-- The pieces of a spelled string amount to the string. -/
theorem SpelledText.pieces {body text : List Char} (h : SpelledText body text) (rest : List Char) :
    ∃ parts, pieces (body ++ '"' :: rest) = (parts, .ok rest) ∧ assemble parts = .text text := by
  induction h with
  | nil => exact ⟨[], rfl, rfl⟩
  | @plain c body text hquote hescape hcontrol _ ih =>
      obtain ⟨parts, hparts, htext⟩ := ih
      refine ⟨.plain c :: parts, ?_, ?_⟩
      · rw [List.cons_append, JsonText.pieces]
        · rw [if_neg (by omega), hparts]
        · exact hquote
        all_goals simp [hescape]
      · rw [assemble, htext, Assembled.cons]
  | @escape e c body text he _ ih =>
      obtain ⟨parts, hparts, htext⟩ := ih
      have hunit : e ≠ 'u' := by
        rintro rfl
        exact absurd he nofun
      refine ⟨.plain c :: parts, ?_, ?_⟩
      · rw [List.cons_append, List.cons_append, JsonText.pieces]
        · rw [he, hparts]
        all_goals simp [hunit]
      · rw [assemble, htext, Assembled.cons]
  | @unit a b c d n body text hn hwhole _ ih =>
      obtain ⟨parts, hparts, htext⟩ := ih
      refine ⟨.unit n :: parts, ?_, ?_⟩
      · simp only [List.cons_append, JsonText.pieces, hn, hparts]
      · rw [assemble_unit hwhole, htext, Assembled.cons]
  | @pair a b c d a' b' c' d' n m body text hn hleading hm htrailing _ ih =>
      obtain ⟨parts, hparts, htext⟩ := ih
      refine ⟨.unit n :: .unit m :: parts, ?_, ?_⟩
      · simp only [List.cons_append, JsonText.pieces, hn, hm, hparts]
      · rw [assemble_pair hleading htrailing, htext, Assembled.cons]

theorem SpelledText.string {body text : List Char} (h : SpelledText body text) (rest : List Char) :
    string (body ++ '"' :: rest) = (.text (String.ofList text), rest) := by
  obtain ⟨parts, hparts, htext⟩ := h.pieces rest
  rw [JsonText.string, hparts]
  dsimp only
  rw [htext]

/-! ## Numbers -/

/-- What may follow a value: the end, a blank, or what separates or closes. -/
def Delimited (rest : List Char) : Prop :=
  ∀ c ∈ rest.head?, isBlank c = true ∨ c = ',' ∨ c = ']' ∨ c = '\x7d'

theorem Delimited.head {rest : List Char} (h : Delimited rest) :
    ∀ c ∈ rest.head?, c.isDigit = false ∧ c ≠ '.' ∧ c ≠ 'e' ∧ c ≠ 'E' := by
  intro c hc
  have hcases : c = ' ' ∨ c = '\n' ∨ c = '\t' ∨ c = '\r' ∨ c = ',' ∨ c = ']' ∨ c = '\x7d' := by
    simpa [isBlank, or_assoc] using h c hc
  rcases hcases with rfl | rfl | rfl | rfl | rfl | rfl | rfl <;> decide

section

variable {digits rest : List Char} (hdigits : ∀ c ∈ digits, c.isDigit = true)
  (hrest : ∀ c ∈ rest.head?, c.isDigit = false)
include hdigits hrest

theorem takeWhile_digits : (digits ++ rest).takeWhile Char.isDigit = digits := by
  rw [List.takeWhile_append_of_pos hdigits]
  cases rest with
  | nil => simp
  | cons c rest => simp [hrest c rfl]

theorem dropWhile_digits : (digits ++ rest).dropWhile Char.isDigit = rest := by
  rw [List.dropWhile_append_of_pos hdigits]
  cases rest with
  | nil => rfl
  | cons c rest => simp [hrest c rfl]

end

section

variable {f : NumberForm} {rest : List Char}

/-- No digit and no point follows the fraction. -/
theorem NumberForm.IsValid.head_exponentText (hf : f.IsValid) (hrest : Delimited rest) :
    ∀ c ∈ (f.exponentText ++ rest).head?, c.isDigit = false ∧ c ≠ '.' := by
  intro c hc
  rw [exponentText] at hc
  cases he : f.exponent with
  | none =>
      rw [he] at hc
      exact ⟨(hrest.head c hc).1, (hrest.head c hc).2.1⟩
  | some parts =>
      obtain ⟨e, sign, digits⟩ := parts
      rw [he] at hc
      obtain rfl : e = c := by simpa using hc
      rcases (hf.exponent e sign digits he).1 with rfl | rfl <;> decide

/-- No digit follows the whole part. -/
theorem NumberForm.IsValid.head_fractionText (hf : f.IsValid) (hrest : Delimited rest) :
    ∀ c ∈ (f.fractionText ++ (f.exponentText ++ rest)).head?, c.isDigit = false := by
  intro c hc
  rw [fractionText] at hc
  cases hd : f.fraction with
  | none =>
      rw [hd] at hc
      exact (hf.head_exponentText hrest c hc).1
  | some digits =>
      rw [hd] at hc
      obtain rfl : '.' = c := by simpa using hc
      decide

theorem afterFraction_exponentText (hf : f.IsValid) (hrest : Delimited rest) :
    afterFraction f.negative f.whole f.fraction (f.exponentText ++ rest) =
      (f.numeral.value, rest) := by
  rw [NumberForm.exponentText, NumberForm.numeral]
  cases he : f.exponent with
  | none =>
      cases rest with
      | nil => rfl
      | cons c rest =>
          obtain ⟨-, -, he, hE⟩ := hrest.head c rfl
          simp [afterFraction, he, hE]
  | some parts =>
      obtain ⟨e, sign, digits⟩ := parts
      obtain ⟨hletter, hsign, hne, hdigits⟩ := hf.exponent e sign digits he
      have hletter' : (e == 'e' || e == 'E') = true := by simpa using hletter
      have htake := takeWhile_digits hdigits fun c hc => (hrest.head c hc).1
      have hdrop := dropWhile_digits hdigits fun c hc => (hrest.head c hc).1
      rcases hsign with rfl | rfl | rfl
      · obtain ⟨d, more, rfl⟩ := List.exists_cons_of_ne_nil hne
        have hd := hdigits d List.mem_cons_self
        have hminus : d ≠ '-' := by
          rintro rfl
          exact absurd hd (by decide)
        have hplus : d ≠ '+' := by
          rintro rfl
          exact absurd hd (by decide)
        rw [List.cons_append] at htake hdrop
        simp [afterFraction, hletter', htake, hdrop, hminus, hplus]
      · simp [afterFraction, hletter', htake, hdrop, hne]
      · simp [afterFraction, hletter', htake, hdrop, hne]

theorem afterWhole_fractionText (hf : f.IsValid) (hrest : Delimited rest) :
    afterWhole f.negative f.whole (f.fractionText ++ (f.exponentText ++ rest)) =
      (f.numeral.value, rest) := by
  have hexponent := afterFraction_exponentText hf hrest
  rw [NumberForm.fractionText]
  cases hd : f.fraction with
  | none =>
      rw [hd] at hexponent
      rw [Option.elim_none, List.nil_append, afterWhole]
      · exact hexponent
      · intro more heq
        exact (hf.head_exponentText hrest '.' (by rw [heq]; rfl)).2 rfl
  | some digits =>
      obtain ⟨hne, hdigits⟩ := hf.fraction digits hd
      have htake := takeWhile_digits hdigits fun c hc => (hf.head_exponentText hrest c hc).1
      have hdrop := dropWhile_digits hdigits fun c hc => (hf.head_exponentText hrest c hc).1
      rw [hd] at hexponent
      simp [afterWhole, htake, hdrop, hne, hexponent]

/-- A number is read to its end. -/
theorem number_text (hf : f.IsValid) (hrest : Delimited rest) :
    JsonText.number (f.text ++ rest) = (f.numeral.value, rest) := by
  obtain ⟨hne, hdigits⟩ := hf.whole
  have hsign : afterSign f.negative (f.whole ++ (f.fractionText ++ (f.exponentText ++ rest))) =
      (f.numeral.value, rest) := by
    rw [afterSign, List.span_eq_takeWhile_dropWhile,
      takeWhile_digits hdigits (hf.head_fractionText hrest),
      dropWhile_digits hdigits (hf.head_fractionText hrest)]
    dsimp only
    split
    · next heq => exact absurd heq hne
    · next heq => exact absurd (hf.noLeadingZero _ heq) (List.cons_ne_nil _ _)
    · exact afterWhole_fractionText hf hrest
  have hform : f.text ++ rest = (if f.negative then ['-'] else []) ++
      (f.whole ++ (f.fractionText ++ (f.exponentText ++ rest))) := by
    simp [NumberForm.text]
  rw [hform]
  cases hnegative : f.negative with
  | true =>
      rw [hnegative] at hsign
      exact hsign
  | false =>
      rw [hnegative] at hsign
      rw [if_neg (by simp), List.nil_append, JsonText.number]
      · exact hsign
      · intro more heq
        obtain ⟨d, whole, hwhole⟩ := List.exists_cons_of_ne_nil hne
        rw [hwhole] at heq
        obtain ⟨rfl, -⟩ := List.cons.inj heq
        exact absurd (hdigits '-' (hwhole ▸ List.mem_cons_self)) (by decide)

end

/-! ## Values -/

theorem IsGap.dropWhile {gap : List Char} (h : IsGap gap) (s : List Char) :
    (gap ++ s).dropWhile isBlank = s.dropWhile isBlank :=
  List.dropWhile_append_of_pos h

/-- Blanks end where something else stands. -/
theorem IsGap.dropWhile_cons {gap : List Char} (h : IsGap gap) {c : Char}
    (hc : isBlank c = false) (s : List Char) : (gap ++ c :: s).dropWhile isBlank = c :: s := by
  rw [h.dropWhile, List.dropWhile_cons, if_neg (by simp [hc])]

theorem IsGap.delimited {gap : List Char} (h : IsGap gap) {c : Char} {rest : List Char}
    (hc : c = ',' ∨ c = ']' ∨ c = '\x7d') : Delimited (gap ++ c :: rest) := by
  intro d hd
  cases gap with
  | nil =>
      obtain rfl : c = d := by simpa using hd
      exact .inr hc
  | cons b gap =>
      obtain rfl : b = d := by simpa using hd
      exact .inl (h b List.mem_cons_self)

/-- Blanks before a value are passed over. -/
theorem value_gap {gap : List Char} (h : IsGap gap) (fuel : Nat) (s : List Char) :
    JsonText.value fuel (gap ++ s) = JsonText.value fuel s := by
  cases fuel with
  | zero => rw [JsonText.value, JsonText.value]
  | succ fuel => rw [JsonText.value, JsonText.value, h.dropWhile]

/-- A number starts with its sign or with a digit. -/
theorem NumberForm.IsValid.start {f : NumberForm} (hf : f.IsValid) :
    ∃ c more, f.text = c :: more ∧ (c == '-' || c.isDigit) = true := by
  obtain ⟨d, whole, hwhole⟩ := List.exists_cons_of_ne_nil hf.whole.1
  have hd := hf.whole.2 d (hwhole ▸ List.mem_cons_self)
  rw [text, hwhole]
  cases f.negative with
  | true => exact ⟨_, _, rfl, rfl⟩
  | false => exact ⟨_, _, rfl, by simp [hd]⟩

theorem ne_of_start {c d : Char} (hc : (c == '-' || c.isDigit) = true)
    (hd : (d == '-' || d.isDigit) = false) : c ≠ d := by
  rintro rfl
  exact Bool.false_ne_true (hd.symm.trans hc)

theorem isBlank_of_start {c : Char} (hc : (c == '-' || c.isDigit) = true) : isBlank c = false := by
  have hspace := ne_of_start (d := ' ') hc (by decide)
  have hline := ne_of_start (d := '\n') hc (by decide)
  have htab := ne_of_start (d := '\t') hc (by decide)
  have hreturn := ne_of_start (d := '\r') hc (by decide)
  simp [isBlank, hspace, hline, htab, hreturn]

/-- A part starts with no blank, and with nothing that closes a list or an object. -/
theorem Spelled.start {part : Part} {s : List Char} (h : Spelled part s) :
    ∃ c more, s = c :: more ∧ isBlank c = false ∧ c ≠ ']' ∧ c ≠ '\x7d' := by
  induction h with
  | number hf _ =>
      obtain ⟨c, more, htext, hc⟩ := hf.start
      exact ⟨c, more, htext, isBlank_of_start hc, ne_of_start hc (by decide),
        ne_of_start hc (by decide)⟩
  | lastItem _ _ ih | moreItems _ _ _ _ ih _ | lastField _ _ ih | moreFields _ _ _ _ ih _ =>
      obtain ⟨c, more, rfl, hc⟩ := ih
      exact ⟨c, _, rfl, hc⟩
  | _ => exact ⟨_, _, rfl, by decide⟩

theorem Spelled.dropWhile {part : Part} {s : List Char} (h : Spelled part s) (rest : List Char) :
    (s ++ rest).dropWhile isBlank = s ++ rest := by
  obtain ⟨c, more, rfl, hc, -⟩ := h.start
  simp [hc]

section

variable {fuel : Nat} {s after next rest : List Char} {v : Json} {k : String}

/-- The last item of a list. -/
theorem items_last (hv : JsonText.value fuel s = (v.document, after))
    (hafter : after.dropWhile isBlank = ']' :: rest) :
    JsonText.items (fuel + 1) s = ([v.document], .closed, rest) := by
  rw [JsonText.items, hv]
  cases v <;> simp [document, hafter]

/-- An item that others follow. -/
theorem items_more (hv : JsonText.value fuel s = (v.document, after))
    (hafter : after.dropWhile isBlank = ',' :: next) {c : Char} {t : List Char}
    (hnext : next.dropWhile isBlank = c :: t) (hc : c ≠ ']') {more : List Document}
    (hmore : JsonText.items fuel (c :: t) = (more, .closed, rest)) :
    JsonText.items (fuel + 1) s = (v.document :: more, .closed, rest) := by
  rw [JsonText.items, hv]
  cases v <;> simp [document, hafter, hnext, hc, hmore]

/-- A key with its value, at the start of fields. -/
structure FieldRead (fuel : Nat) (s : List Char) (k : String) (v : Json) (after : List Char) :
    Prop where
  exists_value : ∃ between value, JsonText.value fuel s = (.text k, between) ∧
    between.dropWhile isBlank = ':' :: value ∧ JsonText.value fuel value = (v.document, after)

/-- The last field of an object. -/
theorem fields_last (h : FieldRead fuel s k v after)
    (hafter : after.dropWhile isBlank = '\x7d' :: rest) :
    JsonText.fields (fuel + 1) s = ([(.text k, v.document)], .closed, rest) := by
  obtain ⟨between, value, hk, hcolon, hv⟩ := h
  rw [JsonText.fields, hk]
  cases v <;> simp_all [document]

/-- A field that others follow. -/
theorem fields_more (h : FieldRead fuel s k v after)
    (hafter : after.dropWhile isBlank = ',' :: next) {c : Char} {t : List Char}
    (hnext : next.dropWhile isBlank = c :: t) (hc : c ≠ '\x7d')
    {more : List (Document × Document)}
    (hmore : JsonText.fields fuel (c :: t) = (more, .closed, rest)) :
    JsonText.fields (fuel + 1) s = ((.text k, v.document) :: more, .closed, rest) := by
  obtain ⟨between, value, hk, hcolon, hv⟩ := h
  rw [JsonText.fields, hk]
  cases v <;> simp_all [document]

end

/-- A number is told by its start. -/
theorem value_number {fuel : Nat} {c : Char} {s : List Char}
    (hc : (c == '-' || c.isDigit) = true) :
    JsonText.value (fuel + 1) (c :: s) = JsonText.number (c :: s) := by
  have hstart : (c :: s).dropWhile isBlank = c :: s := by simp [isBlank_of_start hc]
  have hother : ∀ d : Char, (d == '-' || d.isDigit) = false → ∀ more, c :: s ≠ d :: more :=
    fun d hd more heq => ne_of_start hc hd (List.cons.inj heq).1
  rw [JsonText.value, hstart]
  split
  · next heq => exact absurd heq (List.cons_ne_nil _ _)
  · next heq => exact absurd heq (hother _ (by decide) _)
  · next heq => exact absurd heq (hother _ (by decide) _)
  · next heq => exact absurd heq (hother _ (by decide) _)
  · next heq => exact absurd heq (hother _ (by decide) _)
  · next heq => exact absurd heq (hother _ (by decide) _)
  · next heq => exact absurd heq (hother _ (by decide) _)
  · next heq =>
      obtain ⟨rfl, rfl⟩ := List.cons.inj heq
      rw [if_pos hc]

section

variable {fuel : Nat} {gap s rest : List Char}

/-- What stands after an opening bracket decides whether there are items. -/
theorem value_bracket (fuel : Nat) (s : List Char) :
    JsonText.value (fuel + 1) ('[' :: s) =
      match s.dropWhile isBlank with
      | ']' :: rest => (.list [] .closed, rest)
      | [] => (.list [] .ended, [])
      | rest =>
        let (items, ending, rest) := JsonText.items fuel rest
        (.list items ending, rest) := by
  rw [JsonText.value]
  rfl

/-- What stands after an opening brace decides whether there are fields. -/
theorem value_brace (fuel : Nat) (s : List Char) :
    JsonText.value (fuel + 1) ('\x7b' :: s) =
      match s.dropWhile isBlank with
      | '\x7d' :: rest => (.object [] .closed, rest)
      | [] => (.object [] .ended, [])
      | rest =>
        let (fields, ending, rest) := JsonText.fields fuel rest
        (.object fields ending, rest) := by
  rw [JsonText.value]
  rfl

/-- A list that is not empty. -/
theorem value_list (hgap : IsGap gap) {vs : List Json} (h : Spelled (.items vs) s)
    (hitems : JsonText.items fuel (s ++ rest) = (documents vs, .closed, rest)) :
    JsonText.value (fuel + 1) ('[' :: (gap ++ (s ++ rest))) = (document (.arr vs), rest) := by
  obtain ⟨c, more, rfl, -, hclose, -⟩ := h.start
  rw [value_bracket, hgap.dropWhile, h.dropWhile]
  split
  · next heq => exact absurd (List.cons.inj heq).1 hclose
  · next heq => exact absurd heq (List.cons_ne_nil _ _)
  · rw [hitems]
    rfl

/-- An object that is not empty. -/
theorem value_object (hgap : IsGap gap) {fs : List (String × Json)} (h : Spelled (.fields fs) s)
    (hfields : JsonText.fields fuel (s ++ rest) = (documentFields fs, .closed, rest)) :
    JsonText.value (fuel + 1) ('\x7b' :: (gap ++ (s ++ rest))) = (document (.obj fs), rest) := by
  obtain ⟨c, more, rfl, -, -, hclose⟩ := h.start
  rw [value_brace, hgap.dropWhile, h.dropWhile]
  split
  · next heq => exact absurd (List.cons.inj heq).1 hclose
  · next heq => exact absurd heq (List.cons_ne_nil _ _)
  · rw [hfields]
    rfl

end

/-- What reading a part gives. -/
def Reads : Part → List Char → Prop
  | .value v, s => ∀ fuel rest, s.length ≤ fuel → Delimited rest →
      JsonText.value fuel (s ++ rest) = (v.document, rest)
  | .items vs, s => ∀ fuel rest, s.length ≤ fuel →
      JsonText.items fuel (s ++ rest) = (documents vs, .closed, rest)
  | .field k v, s => ∀ fuel rest, s.length ≤ fuel → Delimited rest →
      FieldRead fuel (s ++ rest) k v rest
  | .fields fs, s => ∀ fuel rest, s.length ≤ fuel →
      JsonText.fields fuel (s ++ rest) = (documentFields fs, .closed, rest)

/-- A spelled part is read as what it stands for. -/
theorem Spelled.reads {part : Part} {s : List Char} (h : Spelled part s) : Reads part s := by
  -- on the way the part is written; each step of the reader is paid for by a character of the text
  induction h with
  | null | yes | no =>
      intro fuel rest hfuel _
      obtain ⟨fuel, rfl⟩ := Nat.exists_eq_add_one_of_ne_zero (Nat.ne_zero_of_lt hfuel)
      simp [JsonText.value, isBlank, word, document]
  | number hf hvalue =>
      intro fuel rest hfuel hrest
      obtain ⟨c, more, htext, hc⟩ := hf.start
      rw [htext] at hfuel
      obtain ⟨fuel, rfl⟩ := Nat.exists_eq_add_one_of_ne_zero (Nat.ne_zero_of_lt hfuel)
      have hread := number_text hf hrest
      rw [htext, List.cons_append] at hread ⊢
      rw [value_number hc, hread, hvalue]
      rfl
  | text h =>
      intro fuel rest hfuel _
      obtain ⟨fuel, rfl⟩ := Nat.exists_eq_add_one_of_ne_zero (Nat.ne_zero_of_lt hfuel)
      have hstring := h.string rest
      simp [JsonText.value, isBlank, document, hstring]
  | emptyList hgap =>
      intro fuel rest hfuel _
      obtain ⟨fuel, rfl⟩ := Nat.exists_eq_add_one_of_ne_zero (Nat.ne_zero_of_lt hfuel)
      rw [List.cons_append, List.append_assoc, List.singleton_append, value_bracket,
        hgap.dropWhile_cons rfl]
      rfl
  | list hgap h ih =>
      intro fuel rest hfuel _
      obtain ⟨fuel, rfl⟩ := Nat.exists_eq_add_one_of_ne_zero (Nat.ne_zero_of_lt hfuel)
      simp only [List.length_cons, List.length_append] at hfuel
      rw [List.cons_append, List.append_assoc]
      exact value_list hgap h (ih fuel rest (by omega))
  | emptyObject hgap =>
      intro fuel rest hfuel _
      obtain ⟨fuel, rfl⟩ := Nat.exists_eq_add_one_of_ne_zero (Nat.ne_zero_of_lt hfuel)
      rw [List.cons_append, List.append_assoc, List.singleton_append, value_brace,
        hgap.dropWhile_cons rfl]
      rfl
  | object hgap h ih =>
      intro fuel rest hfuel _
      obtain ⟨fuel, rfl⟩ := Nat.exists_eq_add_one_of_ne_zero (Nat.ne_zero_of_lt hfuel)
      simp only [List.length_cons, List.length_append] at hfuel
      rw [List.cons_append, List.append_assoc]
      exact value_object hgap h (ih fuel rest (by omega))
  | lastItem h hgap ih =>
      intro fuel rest hfuel
      rw [List.length_append, List.length_append, List.length_singleton] at hfuel
      obtain ⟨fuel, rfl⟩ : ∃ fuel', fuel = fuel' + 1 := ⟨fuel - 1, by omega⟩
      rw [List.append_assoc, List.append_assoc, List.singleton_append]
      exact items_last (ih fuel _ (by omega) (hgap.delimited (.inr (.inl rfl))))
        (hgap.dropWhile_cons rfl _)
  | @moreItems v vs s gap gap' t h hgap hgap' ht ih iht =>
      intro fuel rest hfuel
      simp only [List.length_append, List.length_cons] at hfuel
      obtain ⟨fuel, rfl⟩ : ∃ fuel', fuel = fuel' + 1 := ⟨fuel - 1, by omega⟩
      obtain ⟨c, more, rfl, hc, hclose, -⟩ := ht.start
      simp only [List.append_assoc, List.cons_append]
      simp only [List.length_cons] at hfuel
      have hv := ih fuel (gap ++ ',' :: (gap' ++ c :: (more ++ rest))) (by omega)
        (hgap.delimited (.inl rfl))
      exact items_more hv (hgap.dropWhile_cons rfl _) (hgap'.dropWhile_cons hc _) hclose
        (iht fuel rest (by rw [List.length_cons]; omega))
  | @field body text gap gap' s v hk hgap hgap' h ih =>
      intro fuel rest hfuel hrest
      obtain ⟨fuel, rfl⟩ := Nat.exists_eq_add_one_of_ne_zero (Nat.ne_zero_of_lt hfuel)
      simp only [List.length_cons, List.length_append] at hfuel
      refine ⟨gap ++ ':' :: (gap' ++ (s ++ rest)), gap' ++ (s ++ rest), ?_, ?_, ?_⟩
      · have hstring := hk.string (gap ++ ':' :: (gap' ++ (s ++ rest)))
        simp [JsonText.value, isBlank, hstring]
      · exact hgap.dropWhile_cons rfl _
      · rw [value_gap hgap']
        exact ih (fuel + 1) rest (by omega) hrest
  | lastField h hgap ih =>
      intro fuel rest hfuel
      rw [List.length_append, List.length_append, List.length_singleton] at hfuel
      obtain ⟨fuel, rfl⟩ : ∃ fuel', fuel = fuel' + 1 := ⟨fuel - 1, by omega⟩
      rw [List.append_assoc, List.append_assoc, List.singleton_append]
      exact fields_last (ih fuel _ (by omega) (hgap.delimited (.inr (.inr rfl))))
        (hgap.dropWhile_cons rfl _)
  | @moreFields k v fs s gap gap' t h hgap hgap' ht ih iht =>
      intro fuel rest hfuel
      simp only [List.length_append, List.length_cons] at hfuel
      obtain ⟨fuel, rfl⟩ : ∃ fuel', fuel = fuel' + 1 := ⟨fuel - 1, by omega⟩
      obtain ⟨c, more, rfl, hc, -, hclose⟩ := ht.start
      simp only [List.append_assoc, List.cons_append]
      simp only [List.length_cons] at hfuel
      have hf := ih fuel (gap ++ ',' :: (gap' ++ c :: (more ++ rest))) (by omega)
        (hgap.delimited (.inl rfl))
      exact fields_more hf (hgap.dropWhile_cons rfl _) (hgap'.dropWhile_cons hc _) hclose
        (iht fuel rest (by rw [List.length_cons]; omega))

/-- A text of a value is read as the value, and nothing is left over. -/
theorem ofJsonText_isText {v : Json} {text : String} (h : IsText v text) :
    Document.ofJsonText text = (v.document, false) := by
  obtain ⟨before, s, after, hbefore, hafter, hs, htext⟩ := h
  have hrest : Delimited after := fun c hc => .inl (hafter c (List.mem_of_mem_head? hc))
  have hread : JsonText.value (2 * text.toList.length + 2) text.toList = (v.document, after) := by
    rw [htext, value_gap hbefore]
    refine hs.reads _ _ ?_ hrest
    simp only [List.length_append]
    omega
  have hend : after.dropWhile isBlank = [] := List.dropWhile_eq_nil_iff.mpr hafter
  rw [Document.ofJsonText, hread]
  simp [hend]

end ScanRoster.Json
