import Mathlib.Tactic.SplitIfs
import ScanRoster.Proofs.Json.Spelling

/-!
# Compact texts

The compact text of a value is one of its texts, where the numbers are whole ones of at most 64 bits
(`isText_compactText`).  So what is written compactly is read back as it was.
-/

namespace ScanRoster.Json

open Document JsonText

/-! ## Strings -/

/-- The digits of a control character, and no others, stand for it. -/
theorem unit?_control : ∀ n < 0x20,
    unit? '0' '0' (Nat.digitChar (n / 16)) (Nat.digitChar (n % 16)) = some n := by
  decide +kernel

/-- A character is spelled as it is encoded. -/
theorem SpelledText.encodeChar {body text : List Char} (h : SpelledText body text) (c : Char) :
    SpelledText (Json.encodeChar c ++ body) (c :: text) := by
  rw [Json.encodeChar]
  simp only [beq_iff_eq]
  split_ifs with hquote hescape hcontrol hline htab hreturn hback hfeed
  · subst hquote
    exact .escape rfl h
  · subst hescape
    exact .escape rfl h
  · exact .plain hquote hescape hcontrol h
  · subst hline
    exact .escape rfl h
  · subst htab
    exact .escape rfl h
  · subst hreturn
    exact .escape rfl h
  · obtain rfl : c = '\x08' := Char.toNat_inj.mp hback
    exact .escape rfl h
  · obtain rfl : c = '\x0c' := Char.toNat_inj.mp hfeed
    exact .escape rfl h
  · have hunit := SpelledText.unit (unit?_control c.toNat (by omega)) (by omega) h
    rwa [Char.ofNat_toNat] at hunit

theorem spelledText_flatMap (text : List Char) :
    SpelledText (text.flatMap Json.encodeChar) text := by
  induction text with
  | nil => exact .nil
  | cons c text ih =>
      rw [List.flatMap_cons]
      exact ih.encodeChar c

/-! ## Whole numbers -/

theorem le_ofDigitChars (digits : List Char) (start : Nat) :
    start ≤ Nat.ofDigitChars 10 digits start := by
  induction digits generalizing start with
  | nil => exact Nat.le_refl _
  | cons c digits ih =>
      rw [Nat.ofDigitChars_cons]
      exact Nat.le_trans (by omega) (ih _)

/-- All digits are gathered where the number fits 64 bits. -/
theorem gather_eq {digits : List Char} {start : Nat}
    (h : Nat.ofDigitChars 10 digits start < UInt64.size) :
    gather start digits = (Nat.ofDigitChars 10 digits start, digits.length, 0) := by
  induction digits generalizing start with
  | nil => rfl
  | cons c digits ih =>
      rw [Nat.ofDigitChars_cons] at h ⊢
      have hle := le_ofDigitChars digits (10 * start + (c.toNat - '0'.toNat))
      rw [gather]
      dsimp only
      rw [if_neg (by omega), ih h, List.length_cons]

/-- A number greater than zero does not start with a zero. -/
theorem head?_toDigits_ne {n : Nat} (hn : 0 < n) : (Nat.toDigits 10 n).head? ≠ some '0' := by
  have hdigit : ∀ n < 10, 0 < n → Nat.digitChar n ≠ '0' := by decide
  induction n using Nat.strongRecOn with
  | ind n ih =>
      rcases Nat.lt_or_ge n 10 with hlt | hge
      · rw [Nat.toDigits_of_lt_base hlt]
        simpa using hdigit n hlt hn
      · -- without the last digit, the digits are those of a tenth of the number
        have hne : Nat.toDigits 10 (n / 10) ≠ [] := Nat.toDigits_ne_nil
        obtain ⟨c, more, hmore⟩ := List.exists_cons_of_ne_nil hne
        have hc := ih (n / 10) (by omega) (by omega)
        rw [hmore] at hc
        rw [Nat.toDigits_of_base_le (by decide) hge, hmore]
        exact hc

/-- How a whole number is written. -/
def wholeForm (n : Int) : NumberForm :=
  ⟨decide (n < 0), Nat.toDigits 10 n.natAbs, none, none⟩

theorem isValid_wholeForm (n : Int) : (wholeForm n).IsValid where
  whole := ⟨Nat.toDigits_ne_nil, fun _ => Nat.isDigit_of_mem_toDigits (by decide) (by decide)⟩
  noLeadingZero rest h := by
    rcases Nat.eq_zero_or_pos n.natAbs with hzero | hpos
    · rw [wholeForm, hzero] at h
      exact (List.cons.inj h).2.symm
    · exact absurd (congrArg List.head? h) (head?_toDigits_ne hpos)
  fraction := nofun
  exponent := nofun

theorem text_wholeForm (n : Int) : (wholeForm n).text = (toString n).toList := by
  cases n with
  | ofNat n =>
      have hsign : decide (Int.ofNat n < 0) = false := by simp
      have hdigits : (toString (Int.ofNat n)).toList = Nat.toDigits 10 n := by
        change (toString n).toList = _
        rw [Nat.toString_eq_ofList_toDigits, String.toList_ofList]
      rw [hdigits, wholeForm, hsign]
      simp [NumberForm.text, NumberForm.fractionText, NumberForm.exponentText]
  | negSucc n =>
      have hsign : decide (Int.negSucc n < 0) = true := by simp
      have hdigits : (toString (Int.negSucc n)).toList = '-' :: Nat.toDigits 10 (n + 1) := by
        change ("-" ++ toString (n + 1)).toList = _
        rw [Nat.toString_eq_ofList_toDigits]
        simp
      rw [hdigits, wholeForm, hsign]
      simp [NumberForm.text, NumberForm.fractionText, NumberForm.exponentText]

/-- A whole number that fits 64 bits, with a sign or without, is what its digits stand for. -/
theorem value_wholeForm {n : Int} (hleast : -0x8000000000000000 ≤ n)
    (hmost : n < 0x10000000000000000) :
    (wholeForm n).numeral.value = .number (.whole n) := by
  have hsize : UInt64.size = 0x10000000000000000 := rfl
  have hdigits : Nat.ofDigitChars 10 (Nat.toDigits 10 n.natAbs) 0 = n.natAbs :=
    Nat.ofDigitChars_ten_toDigits
  have hgather : gather 0 (Nat.toDigits 10 n.natAbs) =
      (n.natAbs, (Nat.toDigits 10 n.natAbs).length, 0) := by
    rw [gather_eq (by omega), hdigits]
  rw [wholeForm, NumberForm.numeral, Numeral.value]
  dsimp only [Option.map_none]
  rw [hgather]
  dsimp only
  rw [if_pos rfl]
  by_cases hn : n < 0
  · rw [if_neg (by simp [hn]), if_neg (by omega)]
    congr 2
    omega
  · rw [if_pos (by simp [hn])]
    congr 2
    omega

/-! ## Values -/

/-- Every number within a value is a whole one that fits 64 bits, with a sign or without. -/
inductive Integral : Json → Prop
  | null : Integral .null
  | bool (b : Bool) : Integral (.bool b)
  | int {n : Int} (hleast : -0x8000000000000000 ≤ n) (hmost : n < 0x10000000000000000) :
      Integral (.int n)
  | str (s : String) : Integral (.str s)
  | arr {items : List Json} (hitems : ∀ v ∈ items, Integral v) : Integral (.arr items)
  | obj {fields : List (String × Json)} (hvalues : ∀ f ∈ fields, Integral f.2) :
      Integral (.obj fields)

theorem integral_arr_iff {items : List Json} :
    (Json.arr items).Integral ↔ ∀ v ∈ items, v.Integral := by
  constructor
  · rintro (_ | _ | _ | _ | hitems)
    exact hitems
  · exact .arr

theorem integral_obj_iff {fields : List (String × Json)} :
    (Json.obj fields).Integral ↔ ∀ f ∈ fields, f.2.Integral := by
  constructor
  · rintro (_ | _ | _ | _ | _ | hvalues)
    exact hvalues
  · exact .obj

theorem isGap_nil : IsGap [] :=
  nofun

theorem spelled_encodeString (s : String) : Spelled (.value (.str s)) (encodeString s) := by
  have h := Spelled.text (spelledText_flatMap s.toList)
  rw [String.ofList_toList] at h
  exact h

/-- A key with its value. -/
theorem spelled_field (k : String) {v : Json} (hv : Spelled (.value v) v.compact) :
    Spelled (.field k v) (encodeString k ++ ':' :: v.compact) := by
  have h := Spelled.field (spelledText_flatMap k.toList) isGap_nil isGap_nil hv
  rw [String.ofList_toList] at h
  simpa [encodeString] using h

/-- The items of a list, up to its end. -/
theorem spelled_items {v : Json} {rest : List Json}
    (h : ∀ w ∈ v :: rest, Spelled (.value w) w.compact) :
    Spelled (.items (v :: rest)) (v.compact ++ compactItems rest) := by
  induction rest generalizing v with
  | nil => exact .lastItem (h v List.mem_cons_self) isGap_nil
  | cons w rest ih =>
      obtain ⟨hv, hrest⟩ := List.forall_mem_cons.mp h
      have hmore := Spelled.moreItems hv isGap_nil isGap_nil (ih hrest)
      exact hmore

/-- The fields of an object, up to its end. -/
theorem spelled_fields {k : String} {v : Json} {rest : List (String × Json)}
    (h : ∀ f ∈ (k, v) :: rest, Spelled (.value f.2) f.2.compact) :
    Spelled (.fields ((k, v) :: rest))
      (encodeString k ++ ':' :: (v.compact ++ compactFields rest)) := by
  induction rest generalizing k v with
  | nil =>
      have hlast := Spelled.lastField (spelled_field k (h (k, v) List.mem_cons_self)) isGap_nil
      rw [List.append_assoc] at hlast
      exact hlast
  | cons f rest ih =>
      obtain ⟨hv, hrest⟩ := List.forall_mem_cons.mp h
      have hmore := Spelled.moreFields (spelled_field k hv) isGap_nil isGap_nil (ih hrest)
      rw [List.append_assoc] at hmore
      exact hmore

/-- A value is spelled by its compact text. -/
theorem Integral.spelled {v : Json} (h : v.Integral) : Spelled (.value v) v.compact := by
  induction h with
  | null => exact .null
  | bool b =>
      cases b with
      | true => exact .yes
      | false => exact .no
  | @int n hleast hmost =>
      have hnumber := Spelled.number (isValid_wholeForm n) (value_wholeForm hleast hmost)
      rw [text_wholeForm] at hnumber
      exact hnumber
  | str s => exact spelled_encodeString s
  | @arr items _ ih =>
      cases items with
      | nil => exact .emptyList isGap_nil
      | cons v rest =>
          have hlist := Spelled.list isGap_nil (spelled_items ih)
          exact hlist
  | @obj fields _ ih =>
      cases fields with
      | nil => exact .emptyObject isGap_nil
      | cons f rest =>
          have hobject := Spelled.object isGap_nil (spelled_fields ih)
          exact hobject

/-- The compact text of a value is a text of it. -/
theorem isText_compactText {v : Json} (h : v.Integral) : v.IsText v.compactText :=
  ⟨[], v.compact, [], isGap_nil, isGap_nil, h.spelled, by simp [compactText]⟩

end ScanRoster.Json
