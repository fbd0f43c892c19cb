import Mathlib.Algebra.Ring.Nat
import Mathlib.Data.List.Basic
import ScanRoster.Replay.View

/-!
# Plain listings read line by line

A plain listing has the keys of its entries one after the other, with a line feed between two.  Names
are printed as they are, so the lines of the listing are the lines of the keys: one for each entry as
long as no name has a line feed in it, and one more for each line feed in a name.
-/

namespace ScanRoster

namespace Output

/-- The lines of a text: what stands between its line feeds. -/
def lines (s : String) : List String :=
  (s.toList.splitOn '\n').map String.ofList

theorem lines_append (s t : String) : lines (s ++ "\n" ++ t) = lines s ++ lines t := by
  have hfeed : "\n".toList = ['\n'] := rfl
  rw [lines, String.toList_append, String.toList_append, hfeed, List.append_assoc,
    List.singleton_append, List.splitOn_append_cons_self, List.map_append]
  rfl

theorem lines_eq_singleton {s : String} (h : '\n' ∉ s.toList) : lines s = [s] := by
  rw [lines, List.splitOn_eq_singleton h, List.map_singleton, String.ofList_toList]

/-- There is one line more than there are line feeds. -/
theorem length_lines (s : String) : (lines s).length = s.toList.count '\n' + 1 := by
  rw [lines, List.length_map]
  induction s.toList with
  | nil => rfl
  | cons c rest ih =>
      rw [List.splitOn_cons_eq_if_modifyHead]
      by_cases hfeed : c = '\n'
      · subst hfeed
        simp [ih]
      · simp [hfeed, ih]

theorem lines_intercalate {texts : List String} (h : texts ≠ []) :
    lines ("\n".intercalate texts) = texts.flatMap lines := by
  induction texts with
  | nil => exact absurd rfl h
  | cons s rest ih =>
      cases rest with
      | nil => simp
      | cons t rest =>
          rw [String.intercalate_cons_cons, lines_append, ih (List.cons_ne_nil t rest)]
          rfl

theorem length_flatMap_lines (texts : List String) :
    (texts.flatMap lines).length =
      texts.length + (texts.map fun s => s.toList.count '\n').sum := by
  induction texts with
  | nil => rfl
  | cons s rest ih =>
      simp only [List.flatMap_cons, List.length_append, ih, length_lines, List.length_cons,
        List.map_cons, List.sum_cons]
      omega

/-- Texts are the lines of what they are put together to if there is no line feed in any of them. -/
theorem flatMap_lines_eq_iff {texts : List String} :
    texts.flatMap lines = texts ↔ ∀ s ∈ texts, '\n' ∉ s.toList := by
  constructor
  · intro h s hs
    have hlength := length_flatMap_lines texts
    rw [h] at hlength
    have hnone : (texts.map fun s => s.toList.count '\n').sum = 0 := by omega
    rw [List.sum_eq_zero_iff_forall_eq_nat] at hnone
    exact List.count_eq_zero.mp (hnone _ (List.mem_map_of_mem hs))
  · intro h
    calc texts.flatMap lines
        = texts.flatMap fun s => [s] := List.flatMap_congr fun s hs => lines_eq_singleton (h s hs)
      _ = texts := by simp

end Output

namespace Replay.EntryView

open Output

/-- The comma and the code of a class bring no line feed into a key. -/
theorem count_key (v : EntryView) : v.key.toList.count '\n' = v.ssid.toList.count '\n' := by
  have hcode : v.security.code.toList.count '\n' = 0 := by
    cases v.security <;> decide +kernel
  simp [key, hcode]

theorem newline_mem_key_iff (v : EntryView) : '\n' ∈ v.key.toList ↔ '\n' ∈ v.ssid.toList := by
  rw [← List.count_pos_iff, ← List.count_pos_iff, count_key]

/-- The lines of a plain listing are the lines of the keys of its entries, in order.  There is one
more line than there are entries for each line feed in a name, and so each line is the key of an entry
exactly if no name has a line feed in it. -/
theorem plain_listing_lines (color : Bool) {views : List EntryView} (h : views ≠ []) :
    let shown := lines ((listing color).text .plain views)
    shown = (views.map key).flatMap lines ∧
    shown.length = views.length + (views.map fun v => v.ssid.toList.count '\n').sum ∧
    (shown = views.map key ↔ ∀ v ∈ views, '\n' ∉ v.ssid.toList) := by
  have hlines : lines ((listing color).text .plain views) = (views.map key).flatMap lines :=
    lines_intercalate (List.map_eq_nil_iff.not.mpr h)
  refine ⟨hlines, ?_, ?_⟩
  · rw [hlines, length_flatMap_lines, List.length_map, List.map_map]
    exact congrArg _ (congrArg _ (List.map_congr_left fun v _ => count_key v))
  · rw [hlines, flatMap_lines_eq_iff, List.forall_mem_map]
    exact forall₂_congr fun v _ => (newline_mem_key_iff v).not

/-- An entry of an open network of some name, seen just now. -/
def seenNow (ssid : String) : EntryView :=
  ofEntry 0 (.ofObservation ⟨ssid, .openAccess⟩ ⟨ssid, "", "", .openAccess, 0, none, none⟩)

/-- Names with commas, blanks and other line breaks than line feeds, and beside them one with two
line feeds. -/
theorem plain_listing_lines_breaks :
    let friendly := [seenNow "a,open", seenNow "b\rc", seenNow " "]
    friendly ≠ [] ∧ lines ((listing true).text .plain friendly) = friendly.map key ∧
    friendly ++ [seenNow "d\n\ne"] ≠ [] ∧
    (lines ((listing true).text .plain (friendly ++ [seenNow "d\n\ne"]))).length = 6 := by
  intro friendly
  have hfriendly : friendly ≠ [] := List.cons_ne_nil _ _
  have hmore : friendly ++ [seenNow "d\n\ne"] ≠ [] := List.cons_ne_nil _ _
  refine ⟨hfriendly, ?_, hmore, ?_⟩
  · exact (plain_listing_lines true hfriendly).2.2.mpr (by decide +kernel)
  · rw [(plain_listing_lines true hmore).2.1]
    decide +kernel

/-- A name that a radio may report, and that is shown with a line feed in it, forges the lines of two
other networks. -/
theorem plain_listing_forged :
    let sighting : Sighting := ⟨some "Guest,open\nHome", "a", "", 0, none, none⟩
    let views := (sighting.observation?.map fun o => ofEntry 0 (.ofObservation o.key o)).toList
    views.map ssid = ["Guest,open\nHome"] ∧
      lines ((listing false).text .plain views) ≠ views.map key ∧
      (listing false).text .plain views =
        (listing false).text .plain [seenNow "Guest", seenNow "Home"] := by
  decide +kernel

end Replay.EntryView

end ScanRoster
