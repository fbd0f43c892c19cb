import Mathlib.Data.List.Infix
import ScanRoster.EntryFilter
import ScanRoster.Proofs.Text.Lowercase

/-!
# What a name filter finds

Names and needles are put in lower case as wholes and then compared.  A needle that stands in a name
as it is written may thus be missed: a capital sigma that ends the needle gets another form than the
same sigma within a word of the name.  Needles that leave no such doubt are found wherever they stand,
and no others are (`literal_needle_found_iff`).
-/

namespace ScanRoster.EntryFilter

open Text Text.Lowercase

theorem occursIn_iff {needle text : List Char} :
    occursIn needle text = true ↔ needle <:+: text := by
  induction text with
  | nil => simp [occursIn]
  | cons c rest ih =>
      rw [occursIn, Bool.or_eq_true, List.isPrefixOf_iff_prefix, ih, List.infix_cons_iff]

theorem accepts_ssidContains_iff {e : Entry} {needle : String} :
    (ssidContains needle).accepts e = true ↔
      lowercase needle.toList <:+: lowercase e.key.ssid.toList :=
  occursIn_iff

/-- An entry of an open network of some name. -/
def entryNamed (ssid : String) : Entry :=
  .ofObservation ⟨ssid, .openAccess⟩ ⟨ssid, "", "", .openAccess, 0, none, none⟩

/-- A steady needle is found in every name in which it stands. -/
theorem accepts_of_steady {needle : String} (h : Steady needle.toList) {e : Entry}
    (hstands : needle.toList <:+: e.key.ssid.toList) : (ssidContains needle).accepts e = true := by
  obtain ⟨before, after, hname⟩ := hstands
  rw [accepts_ssidContains_iff, ← hname]
  exact steady_iff_isInfix.mp h before after

/-- A steady needle is found wherever a longer one is. -/
theorem accepts_of_accepts_longer {needle longer : String} (h : Steady needle.toList)
    (hstands : needle.toList <:+: longer.toList) {e : Entry}
    (hlonger : (ssidContains longer).accepts e = true) :
    (ssidContains needle).accepts e = true := by
  obtain ⟨before, after, hname⟩ := hstands
  rw [accepts_ssidContains_iff] at hlonger ⊢
  refine List.IsInfix.trans ?_ hlonger
  rw [← hname]
  exact steady_iff_isInfix.mp h before after

/-- A needle that is found in every name in which it stands is steady. -/
theorem steady_of_forall_accepts {needle : String}
    (h : ∀ e : Entry, needle.toList <:+: e.key.ssid.toList →
      (ssidContains needle).accepts e = true) : Steady needle.toList := by
  rw [steady_iff_isInfix]
  intro before after
  have hname : (entryNamed (String.ofList (before ++ needle.toList ++ after))).key.ssid.toList =
      before ++ needle.toList ++ after := String.toList_ofList
  have haccepts := h (entryNamed (String.ofList (before ++ needle.toList ++ after)))
    ⟨before, after, hname.symm⟩
  rwa [accepts_ssidContains_iff, hname] at haccepts

/-- A needle is found in every name in which it stands as it is written exactly if it is steady, and
so is it found wherever a longer needle is that it stands in.  Every needle without a capital sigma is
steady. -/
theorem literal_needle_found_iff (needle : String) :
    ((∀ e : Entry, needle.toList <:+: e.key.ssid.toList →
        (ssidContains needle).accepts e = true) ↔ Steady needle.toList) ∧
    ((∀ (e : Entry) (longer : String), needle.toList <:+: longer.toList →
        (ssidContains longer).accepts e = true → (ssidContains needle).accepts e = true) ↔
      Steady needle.toList) ∧
    ('Σ' ∉ needle.toList → Steady needle.toList) := by
  refine ⟨⟨steady_of_forall_accepts, fun h e hstands => accepts_of_steady h hstands⟩,
    ⟨fun h => steady_of_forall_accepts fun e hstands => ?_,
      fun h e longer hstands hlonger => accepts_of_accepts_longer h hstands hlonger⟩,
    fun h before after => .of_not_mem h before after⟩
  -- a whole name is a needle that is found in it
  exact h e e.key.ssid hstands (accepts_ssidContains_iff.mpr List.infix_rfl)

/-- A needle with two sigmas that shows that both end a word, and so is found within a longer
name. -/
theorem literal_needle_found_two_words :
    let e := entryNamed "ΠΡΟΣ ΟΔΟΣ 1Α"
    Steady "ΟΣ ΟΔΟΣ 1".toList ∧ "ΟΣ ΟΔΟΣ 1".toList <:+: e.key.ssid.toList ∧
      (ssidContains "ΟΣ ΟΔΟΣ 1").accepts e = true ∧
      'Σ' ∉ "1Α".toList ∧ (ssidContains "1Α").accepts e = true := by
  intro e
  have hsteady : Steady "ΟΣ ΟΔΟΣ 1".toList := by
    rw [steady_iff]
    exact ⟨by decide +kernel, by decide +kernel⟩
  have hstands : "ΟΣ ΟΔΟΣ 1".toList <:+: e.key.ssid.toList := by decide +kernel
  have hplain : 'Σ' ∉ "1Α".toList := by decide +kernel
  have hplainSteady := (literal_needle_found_iff "1Α").2.2 hplain
  exact ⟨hsteady, hstands, (literal_needle_found_iff "ΟΣ ΟΔΟΣ 1").1.mpr hsteady e hstands, hplain,
    (literal_needle_found_iff "1Α").1.mpr hplainSteady e (by decide +kernel)⟩

/-- The first word of a name is missed, although a needle with one letter more is found. -/
theorem literal_needle_missed :
    let e := entryNamed "ΚΑΦΕΣΑΚΙ"
    "ΚΑΦΕΣ".toList <:+: e.key.ssid.toList ∧ "ΚΑΦΕΣ".toList <:+: "ΚΑΦΕΣΑ".toList ∧
      (ssidContains "ΚΑΦΕΣΑ").accepts e = true ∧ (ssidContains "ΚΑΦΕΣ").accepts e = false := by
  decide +kernel

end ScanRoster.EntryFilter
