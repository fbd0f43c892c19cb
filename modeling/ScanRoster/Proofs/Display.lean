import ScanRoster.Proofs.Tracker.Refinement
import ScanRoster.Replay.View

/-!
# Keys as they are shown

A key is shown as its name, a comma and the code of its class.  A name may hold any character, commas
and codes of classes included, but no code has a comma in it.  So the last comma is the one that was
put there, and the text can be read back to the key (`NetworkKey.ofDisplay?_display`).  Since no list
that a tracker shows has two entries of one network, its entries are told apart by their texts.
-/

namespace ScanRoster

/-! ## The last comma of a text -/

namespace Text

/-- What stands before the last comma of a text and what stands after it. -/
def cutAtLastComma? : List Char → Option (List Char × List Char)
  | [] => none
  | c :: rest =>
      match cutAtLastComma? rest with
      | some (before, after) => some (c :: before, after)
      | none => if c = ',' then some ([], rest) else none

theorem cutAtLastComma?_eq_none_iff {s : List Char} : cutAtLastComma? s = none ↔ ',' ∉ s := by
  induction s with
  | nil => simp [cutAtLastComma?]
  | cons c rest ih =>
      rw [cutAtLastComma?, List.mem_cons, not_or, ← ih]
      cases cutAtLastComma? rest with
      | none => simp [eq_comm]
      | some parts => simp

theorem cutAtLastComma?_append {before after : List Char} (h : ',' ∉ after) :
    cutAtLastComma? (before ++ ',' :: after) = some (before, after) := by
  induction before with
  | nil =>
      rw [List.nil_append, cutAtLastComma?, cutAtLastComma?_eq_none_iff.mpr h]
      rfl
  | cons c before ih =>
      rw [List.cons_append, cutAtLastComma?, ih]

end Text

/-! ## Reading a key that is shown -/

namespace SecurityClass

theorem ofCodeIgnoringCase?_code (c : SecurityClass) : ofCodeIgnoringCase? c.code = some c := by
  cases c <;> decide +kernel

theorem comma_not_mem_code (c : SecurityClass) : ',' ∉ c.code.toList := by
  cases c <;> decide +kernel

end SecurityClass

namespace NetworkKey

/-- The key that is shown as some text: its name stands before the last comma, and the code of its
class after it. -/
def ofDisplay? (s : String) : Option NetworkKey :=
  (Text.cutAtLastComma? s.toList).bind fun parts =>
    (SecurityClass.ofCodeIgnoringCase? (String.ofList parts.2)).map fun security =>
      ⟨String.ofList parts.1, security⟩

/-- The last comma of a key that is shown stands between the name and the code. -/
theorem cutAtLastComma?_display (k : NetworkKey) :
    Text.cutAtLastComma? k.display.toList = some (k.ssid.toList, k.security.code.toList) := by
  have hparts : k.display.toList = k.ssid.toList ++ ',' :: k.security.code.toList := by
    simp [display]
  rw [hparts]
  exact Text.cutAtLastComma?_append k.security.comma_not_mem_code

theorem ofDisplay?_display (k : NetworkKey) : ofDisplay? k.display = some k := by
  rw [ofDisplay?, cutAtLastComma?_display, Option.bind_some]
  dsimp only
  rw [String.ofList_toList, String.ofList_toList, SecurityClass.ofCodeIgnoringCase?_code,
    Option.map_some]

theorem display_injective : Function.Injective display := by
  intro k k' h
  have hread := ofDisplay?_display k'
  rw [← h, ofDisplay?_display] at hread
  exact Option.some.inj hread

/-- A name that ends like a key of another class. -/
example : ofDisplay? "Cafe,open,psk" = some ⟨"Cafe,open", .psk⟩ := by decide +kernel

end NetworkKey

/-! ## Lists without doubles -/

/-- Entries of different networks are shown with different texts. -/
theorem nodup_displays {entries : List Entry} (h : (entries.map (·.key)).Nodup) :
    (entries.map (·.key.display)).Nodup := by
  have hmap := h.map NetworkKey.display_injective
  rwa [List.map_map] at hmap

namespace Reference

/-- Neither the roster of a reference store nor what it has published last has two entries of one
network. -/
structure Distinct (r : Reference) : Prop where
  roster : (r.store.roster.entries.map (·.key)).Nodup
  snapshot : (r.store.feed.snapshot.map (·.key)).Nodup

theorem Distinct.follow {r : Reference} (h : r.Distinct) (policy : AgePolicy) (e : Happening) :
    (r.follow policy e).Distinct := by
  cases e with
  | scanTaken c =>
      have hroster := Roster.nodup_keys_apply c h.roster
      exact ⟨hroster, hroster⟩
  | spawned =>
      -- a roster that was lost is replaced by an empty one, and readers keep the list they have
      unfold Reference.follow
      dsimp only
      split
      · exact ⟨List.nodup_nil, h.snapshot⟩
      · exact h
  | _ => exact ⟨h.roster, h.snapshot⟩

theorem distinct_of (policy : AgePolicy) (happenings : List Happening) :
    (of policy happenings).Distinct := by
  induction happenings using List.reverseRecOn with
  | nil => exact ⟨List.nodup_nil, List.nodup_nil⟩
  | append_singleton happenings e ih =>
      rw [of_append]
      exact ih.follow policy e

end Reference

theorem Tracker.nodup_keys_entries (config : TrackerConfig) (radio : Radio) (clock : Int64)
    (steps : List Step) :
    (((Tracker.new config radio clock).after steps).entries.map (·.key)).Nodup := by
  have hfeed := (mirrors_after config radio clock steps).feed
  rw [Tracker.entries, hfeed]
  exact (Reference.distinct_of _ _).snapshot

/-- A key is known by the text it is shown as: what stands before the last comma is its name, and
what stands after it is the code of its class.  So in no list that a store has published or that a
tracker shows are two entries shown with one text, and a view of an entry, at whatever time, has the
same text as the entry. -/
theorem displays_identify_entries :
    (∀ k : NetworkKey, ∃ code, Text.cutAtLastComma? k.display.toList = some (k.ssid.toList, code) ∧
      SecurityClass.ofCodeIgnoringCase? (String.ofList code) = some k.security) ∧
    (∀ k k' : NetworkKey, k.display = k'.display ↔ k = k') ∧
    (∀ policy cycles, (((Store.empty policy).ingestAll cycles).feed.snapshot.map
      (·.key.display)).Nodup) ∧
    (∀ config radio clock steps, (((Tracker.new config radio clock).after steps).entries.map
      (·.key.display)).Nodup) ∧
    (∀ (e : Entry) (now : Int64), (Replay.EntryView.ofEntry now e).key = e.key.display) := by
  refine ⟨fun k => ?_, fun k k' => NetworkKey.display_injective.eq_iff, ?_, ?_, fun e now => rfl⟩
  · refine ⟨k.security.code.toList, k.cutAtLastComma?_display, ?_⟩
    rw [String.ofList_toList, SecurityClass.ofCodeIgnoringCase?_code]
  · intro policy cycles
    rw [Store.snapshot_ingestAll_empty]
    exact nodup_displays (Store.nodup_keys_ingestAll policy cycles)
  · intro config radio clock steps
    exact nodup_displays (Tracker.nodup_keys_entries config radio clock steps)

end ScanRoster
