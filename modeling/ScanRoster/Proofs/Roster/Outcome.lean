import ScanRoster.Proofs.Roster.Consistency

/-!
# The outcome of a cycle

What a cycle leaves is fixed entry by entry: those that were there stand first, each at its place,
then the networks that are new, in the order in which they were first met, and of all these the ones
that are too old for the cycle are gone (`entries_apply_eq`).
-/

namespace ScanRoster

/-! ## The networks of a scan list -/

/-- The network of a sighting, if it has a name. -/
def Sighting.network? (s : Sighting) : Option NetworkKey :=
  (s.ssid.filter (· ≠ "")).map fun ssid => ⟨ssid, .ofCapabilities s.capabilities⟩

theorem Sighting.map_key_observation? (s : Sighting) :
    s.observation?.map Observation.key = s.network? := by
  unfold observation? network?
  cases s.ssid with
  | none => rfl
  | some ssid => by_cases hname : ssid = "" <;> simp [hname, Option.filter, Observation.key]

theorem Sighting.map_key_observeAll (sightings : List Sighting) :
    (observeAll sightings).map Observation.key = sightings.filterMap network? := by
  rw [observeAll, List.map_filterMap]
  exact List.filterMap_congr fun s _ => s.map_key_observation?

/-! ## Lists of entries by their networks -/

/-- Where no network has two entries, the networks and the entry of each make up the list. -/
theorem filterMap_entryOf? {entries : List Entry} (hnodup : (entries.map (·.key)).Nodup) :
    (entries.map (·.key)).filterMap (entryOf? · entries) = entries := by
  have hfound : ∀ e ∈ entries, entryOf? e.key entries = some e :=
    fun e he => entryOf?_of_mem hnodup he
  rw [List.filterMap_map]
  exact (List.filterMap_congr hfound).trans List.filterMap_some

namespace Roster

/-- An entry once the observations of a cycle have come in. -/
def refresh (observations : List Observation) (e : Entry) : Entry :=
  match freshest? e.key observations with
  | none => e
  | some o => if o.observedAtMillis < e.lastSeenMillis then e else .ofObservation e.key o

/-- The entries of the networks that a cycle is the first to bring, in the order in which they were
met. -/
def newcomers (observations : List Observation) (entries : List Entry) : List Entry :=
  ((observations.map Observation.key).eraseDups.filter (· ∉ entries.map (·.key))).filterMap
    fun k => (freshest? k observations).map (.ofObservation k)

/-- Refreshing leaves an entry, or puts the freshest observation of its network there. -/
theorem refresh_cases (observations : List Observation) (e : Entry) :
    refresh observations e = e ∧
        (∀ o ∈ freshest? e.key observations, o.observedAtMillis < e.lastSeenMillis) ∨
      ∃ o ∈ freshest? e.key observations, ¬ o.observedAtMillis < e.lastSeenMillis ∧
        refresh observations e = .ofObservation e.key o := by
  unfold refresh
  cases freshest? e.key observations with
  | none => exact Or.inl ⟨rfl, by simp⟩
  | some o =>
      by_cases holder : o.observedAtMillis < e.lastSeenMillis
      · exact Or.inl ⟨if_pos holder, by simpa using holder⟩
      · exact Or.inr ⟨o, rfl, holder, if_neg holder⟩

theorem key_refresh (observations : List Observation) (e : Entry) :
    (refresh observations e).key = e.key := by
  rcases refresh_cases observations e with ⟨heq, -⟩ | ⟨o, -, -, heq⟩ <;> rw [heq]
  rfl

/-- No observation makes an entry older. -/
theorem le_lastSeenMillis_refresh (observations : List Observation) (e : Entry) :
    e.lastSeenMillis ≤ (refresh observations e).lastSeenMillis := by
  rcases refresh_cases observations e with ⟨heq, -⟩ | ⟨o, -, hnewer, heq⟩ <;> rw [heq]
  exact not_lt.mp hnewer

theorem refreshed?_eq_refresh (observations : List Observation) (e : Entry) :
    refreshed? e.key (some e) (freshest? e.key observations) = some (refresh observations e) := by
  unfold refresh
  cases freshest? e.key observations with
  | none => rfl
  | some o => exact (apply_ite some _ _ _).symm

theorem refreshed?_none_eq (k : NetworkKey) (fresh : Option Observation) :
    refreshed? k none fresh = fresh.map (.ofObservation k) := by
  cases fresh <;> rfl

/-- Placing the groups of a cycle refreshes what is there and puts the newcomers behind it. -/
theorem placeAll_aggregate {entries : List Entry} (hnodup : (entries.map (·.key)).Nodup)
    (observations : List Observation) :
    (placeAll (aggregate observations) entries).2 =
      entries.map (refresh observations) ++ newcomers observations entries := by
  -- each network has the entry that its observations leave, and the networks are known in order
  have hentry : ∀ k, entryOf? k (placeAll (aggregate observations) entries).2 =
      refreshed? k (entryOf? k entries) (freshest? k observations) := by
    intro k
    rw [entryOf?_placeAll k (nodup_keys_aggregate _), lookup_aggregate]
  rw [← filterMap_entryOf? (nodup_keys_placeAll (aggregate observations) hnodup),
    keys_placeAll (nodup_keys_aggregate _), keys_aggregate, List.filterMap_append]
  simp only [hentry]
  congr 1
  · rw [List.filterMap_map, ← List.filterMap_eq_map]
    refine List.filterMap_congr fun e he => ?_
    simp only [Function.comp_apply, entryOf?_of_mem hnodup he]
    exact refreshed?_eq_refresh observations e
  · refine List.filterMap_congr fun k hk => ?_
    have hnone : entryOf? k entries = none := by
      rw [entryOf?_eq_none_iff]
      simpa using (List.mem_filter.mp hk).2
    rw [hnone, refreshed?_none_eq]

/-- Newcomers are the entries that observations make of networks that were not there. -/
theorem mem_newcomers_iff {observations : List Observation} {entries : List Entry} {e : Entry} :
    e ∈ newcomers observations entries ↔
      e.key ∉ entries.map (·.key) ∧
        ∃ o ∈ freshest? e.key observations, e = .ofObservation e.key o := by
  constructor
  · intro h
    obtain ⟨k, hk, hentry⟩ := List.mem_filterMap.mp h
    obtain ⟨o, ho, rfl⟩ := Option.map_eq_some_iff.mp hentry
    have hnew : k ∉ entries.map (·.key) := by simpa using (List.mem_filter.mp hk).2
    exact ⟨hnew, o, ho, rfl⟩
  · rintro ⟨hnew, o, ho, heq⟩
    obtain ⟨hmem, hkey⟩ := mem_of_freshest? ho
    refine List.mem_filterMap.mpr ⟨e.key, List.mem_filter.mpr ⟨?_, by simpa using hnew⟩, ?_⟩
    · rw [List.mem_eraseDups]
      exact List.mem_map.mpr ⟨o, hmem, hkey⟩
    · rw [ho, Option.map_some, ← heq]

end Roster

/-- Whether an entry is young enough for a cycle: its age is within the highest one, and in a failed
cycle within that and one scan interval. -/
def AgePolicy.keeps (p : AgePolicy) (c : Cycle) (e : Entry) : Bool :=
  let allowed := if c.succeeded then p.maxEntryAge else p.maxEntryAge + p.scanInterval
  decide ((e.ageMillis c.nowMillis).toNat ≤ allowed.millis)

theorem AgePolicy.keeps_eq (p : AgePolicy) (c : Cycle) (e : Entry) :
    p.keeps c e = !isExpired c.nowMillis e.lastSeenMillis (p.effectiveMaxAge c.succeeded) := by
  rw [keeps, ← effectiveMaxAge, Bool.eq_iff_iff, decide_eq_true_iff, Bool.not_eq_true',
    ← Bool.not_eq_true, e.isExpired_iff, Nat.not_lt]

namespace Roster

/-- The entries after a cycle, in their order. -/
theorem entries_apply_eq {r : Roster} (hnodup : (r.entries.map (·.key)).Nodup) (c : Cycle) :
    (r.apply c).1.entries =
      (r.entries.map (refresh c.observations) ++ newcomers c.observations r.entries).filter
        (r.policy.keeps c) := by
  rw [entries_apply, placeAll_aggregate hnodup]
  exact List.filter_congr fun e _ => (r.policy.keeps_eq c e).symm

/-- An empty roster takes in every network of a cycle in which nothing is too old. -/
theorem keys_apply_of_empty {r : Roster} (hempty : r.entries = []) {c : Cycle}
    (hfresh : ∀ o ∈ c.observations, r.policy.keeps c (.ofObservation o.key o) = true) :
    (r.apply c).1.entries.map (·.key) = (c.observations.map Observation.key).eraseDups := by
  have hall : ∀ e ∈ (placeAll (aggregate c.observations) r.entries).2, r.policy.keeps c e = true := by
    intro e he
    rcases mem_placeAll he with hold | ⟨g, hg, rfl⟩
    · rw [hempty] at hold
      contradiction
    · obtain ⟨hmem, hkey⟩ := mem_of_mem_aggregate hg
      rw [← hkey]
      exact hfresh g.2 hmem
  have hkept : (r.apply c).1.entries = (placeAll (aggregate c.observations) r.entries).2 := by
    rw [entries_apply, List.filter_eq_self]
    exact fun e he => (r.policy.keeps_eq c e).symm.trans (hall e he)
  rw [hkept, keys_placeAll (nodup_keys_aggregate _), keys_aggregate, hempty]
  simp

end Roster

namespace Store

/-- A cycle leaves the entries that were there, each at its place and replaced by the freshest
observation of its network unless that is older, and behind them an entry for each network that was
not there, made from its freshest observation, in the order in which the networks were first met; of
these exactly those that the cycle's window keeps.  So an empty store gets the networks of a scan
list with nothing too old in it, each once, in the order in which they were first met. -/
theorem cycle_decides_list (s : Store) (c : Cycle)
    (hdistinct : (s.roster.entries.map (·.key)).Nodup) :
    let after := (s.ingest c).1
    after.roster.entries =
      (s.roster.entries.map (Roster.refresh c.observations) ++
        Roster.newcomers c.observations s.roster.entries).filter (s.roster.policy.keeps c) ∧
    after.feed.snapshot = after.roster.entries ∧
    (s.roster.entries = [] →
      (∀ o ∈ c.observations, s.roster.policy.keeps c (.ofObservation o.key o) = true) →
      after.roster.entries.map (·.key) = (c.observations.map Observation.key).eraseDups ∧
      ∀ sightings, c.observations = Sighting.observeAll sightings →
        after.roster.entries.map (·.key) =
          (sightings.filterMap Sighting.network?).eraseDups) := by
  intro after
  refine ⟨Roster.entries_apply_eq hdistinct c, rfl, fun hempty hfresh => ?_⟩
  have hkeys := Roster.keys_apply_of_empty hempty hfresh
  refine ⟨hkeys, fun sightings hsightings => ?_⟩
  rw [← Sighting.map_key_observeAll, ← hsightings]
  exact hkeys

/-- A cycle with doubles and equal times: one entry is saved by an observation, one is replaced by an
equally fresh one, one is newer than what comes, one has become too old, and of two new networks one
is too old from the start.  An empty store takes in a scan list with a hidden network. -/
theorem cycle_decides_list_mixed :
    let seen (ssid bssid : String) (time : Int64) : Observation :=
      ⟨ssid, bssid, "", .openAccess, time, none, none⟩
    let entry (ssid bssid : String) (time : Int64) : Entry :=
      .ofObservation (seen ssid bssid time).key (seen ssid bssid time)
    let s := ((empty ⟨.ofSeconds 15, .ofSeconds 10⟩).ingest ⟨[seen "Bar" "a" 1000,
      seen "Cafe" "a" 8000, seen "Dock" "a" 2000, seen "Loft" "a" 9000], true, 10000⟩).1
    let c : Cycle := ⟨[seen "Cafe" "b" 8000, seen "Pier" "a" 5000, seen "Pier" "b" 6000,
      seen "Loft" "b" 8500, seen "Quay" "a" 1000, seen "Cafe" "c" 7000, seen "Pier" "c" 6000,
      seen "Bar" "b" 19000], true, 20000⟩
    let list : List Sighting := [⟨some "Cafe", "a", "[WPA2-PSK]", 100, none, none⟩,
      ⟨none, "b", "", 100, none, none⟩, ⟨some "Cafe", "c", "", 90, none, none⟩,
      ⟨some "Cafe", "d", "psk", 300, none, none⟩]
    let first : Cycle := .ofSightings list true 200
    (s.roster.entries.map (·.key)).Nodup ∧
      (s.ingest c).1.roster.entries = [entry "Bar" "b" 19000, entry "Cafe" "b" 8000,
        entry "Loft" "a" 9000, entry "Pier" "b" 6000] ∧
      (((empty s.roster.policy).ingest first).1.roster.entries.map (·.key)) =
        [⟨"Cafe", .psk⟩, ⟨"Cafe", .openAccess⟩] := by
  intro seen entry s c list first
  have hdistinct : (s.roster.entries.map (·.key)).Nodup := by decide +kernel
  have hfresh : ∀ o ∈ first.observations,
      s.roster.policy.keeps first (.ofObservation o.key o) = true := by decide +kernel
  have hempty := cycle_decides_list (empty s.roster.policy) first List.nodup_nil
  exact ⟨hdistinct, (cycle_decides_list s c hdistinct).1.trans (by decide +kernel),
    ((hempty.2.2 rfl hfresh).2 list rfl).trans (by decide +kernel)⟩

end Store

end ScanRoster
