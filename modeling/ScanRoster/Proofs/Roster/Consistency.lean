import ScanRoster.Proofs.Roster.Placement

/-!
# Consistency of the store

However cycles come, and whatever their times, each of them leaves a store in which no network
has two entries, every entry says of its network what its representative says, nothing is too old
for the cycle, and readers see exactly the entries.  The reason is that every entry stands for an
observation of some cycle (`exists_observation_of_mem`).
-/

namespace ScanRoster

namespace Sighting

/-- An observation has a name, and the security class of its own capability text. -/
theorem observation?_eq_some {s : Sighting} {o : Observation} (h : s.observation? = some o) :
    o.ssid ≠ "" ∧ o.security = .ofCapabilities o.capabilities := by
  unfold observation? at h
  cases hssid : s.ssid with
  | none => simp [hssid] at h
  | some ssid =>
      rw [hssid] at h
      dsimp only at h
      split at h
      · contradiction
      · rename_i hne
        obtain rfl := Option.some.inj h
        exact ⟨hne, rfl⟩

theorem of_mem_observeAll {sightings : List Sighting} {o : Observation}
    (h : o ∈ observeAll sightings) :
    o.ssid ≠ "" ∧ o.security = .ofCapabilities o.capabilities := by
  obtain ⟨s, -, hs⟩ := List.mem_filterMap.mp h
  exact observation?_eq_some hs

end Sighting

/-- Whether a cycle was made from a scan list of the radio. -/
def Cycle.FromRadio (c : Cycle) : Prop :=
  ∃ sightings succeeded now, c = .ofSightings sightings succeeded now

namespace Store

/-- The store after some cycles, one after the other. -/
def ingestAll (s : Store) (cycles : List Cycle) : Store :=
  cycles.foldl (fun s c => (s.ingest c).1) s

@[simp] theorem ingestAll_nil (s : Store) : s.ingestAll [] = s := rfl

theorem ingestAll_concat (s : Store) (cycles : List Cycle) (c : Cycle) :
    s.ingestAll (cycles ++ [c]) = ((s.ingestAll cycles).ingest c).1 := by
  simp [ingestAll, List.foldl_append]

theorem roster_ingest (s : Store) (c : Cycle) : (s.ingest c).1.roster = (s.roster.apply c).1 := rfl

theorem feed_ingest (s : Store) (c : Cycle) :
    (s.ingest c).1.feed = s.feed.publish (s.roster.apply c).1.entries := rfl

theorem policy_ingestAll (s : Store) (cycles : List Cycle) :
    (s.ingestAll cycles).roster.policy = s.roster.policy := by
  induction cycles using List.reverseRecOn with
  | nil => rfl
  | append_singleton cycles c ih =>
      rw [ingestAll_concat, roster_ingest, Roster.policy_apply, ih]

theorem nodup_keys_ingestAll_of_nodup {s : Store}
    (hdistinct : (s.roster.entries.map (·.key)).Nodup) (cycles : List Cycle) :
    ((s.ingestAll cycles).roster.entries.map (·.key)).Nodup := by
  induction cycles using List.reverseRecOn with
  | nil => exact hdistinct
  | append_singleton cycles c ih =>
      rw [ingestAll_concat, roster_ingest]
      exact Roster.nodup_keys_apply c ih

theorem version_ingestAll (s : Store) (cycles : List Cycle) :
    (s.ingestAll cycles).feed.version = s.feed.version + cycles.length := by
  induction cycles using List.reverseRecOn with
  | nil => rfl
  | append_singleton cycles c ih =>
      rw [ingestAll_concat, feed_ingest, List.length_append, List.length_singleton]
      simp only [Feed.publish, ih]
      omega

section

variable (policy : AgePolicy)

theorem policy_ingestAll_empty (cycles : List Cycle) :
    ((empty policy).ingestAll cycles).roster.policy = policy :=
  policy_ingestAll _ cycles

/-- Readers see exactly the entries. -/
theorem snapshot_ingestAll_empty (cycles : List Cycle) :
    ((empty policy).ingestAll cycles).feed.snapshot =
      ((empty policy).ingestAll cycles).roster.entries := by
  induction cycles using List.reverseRecOn with
  | nil => rfl
  | append_singleton cycles c ih =>
      rw [ingestAll_concat]
      rfl

theorem nodup_keys_ingestAll (cycles : List Cycle) :
    (((empty policy).ingestAll cycles).roster.entries.map (·.key)).Nodup :=
  nodup_keys_ingestAll_of_nodup (s := empty policy) List.nodup_nil cycles

/-- Every entry stands for an observation that some cycle delivered. -/
theorem exists_observation_of_mem (cycles : List Cycle) {e : Entry}
    (h : e ∈ ((empty policy).ingestAll cycles).roster.entries) :
    ∃ c ∈ cycles, ∃ o ∈ c.observations, e = .ofObservation o.key o := by
  induction cycles using List.reverseRecOn with
  | nil => simp [empty, Roster.empty] at h
  | append_singleton cycles c ih =>
      rw [ingestAll_concat, roster_ingest] at h
      rcases (Roster.mem_apply h).1 with hold | ⟨o, ho, heq⟩
      · obtain ⟨c', hc', o, ho, heq⟩ := ih hold
        exact ⟨c', List.mem_append_left _ hc', o, ho, heq⟩
      · exact ⟨c, by simp, o, ho, heq⟩

/-- What holds of every store between two cycles. -/
structure Consistent (s : Store) : Prop where
  nodup_keys : (s.roster.entries.map (·.key)).Nodup
  key_eq : ∀ e ∈ s.roster.entries, e.key = e.representative.key
  lastSeen_eq : ∀ e ∈ s.roster.entries, e.lastSeenMillis = e.representative.observedAtMillis
  snapshot_eq : s.feed.snapshot = s.roster.entries
  size_eq : s.feed.snapshot.length = s.size

/-- Each cycle leaves the store consistent, without entries that are too old for it, and
published once more; where all scan lists came from the radio, every entry has a name and the
class of its representative's capability text. -/
theorem consistent_ingestAll (earlier : List Cycle) (last : Cycle) :
    let s := (empty policy).ingestAll (earlier ++ [last])
    Consistent s ∧
    (∀ e ∈ s.roster.entries, isExpired last.nowMillis e.lastSeenMillis
      (policy.effectiveMaxAge last.succeeded) = false) ∧
    s.feed.version = earlier.length + 1 ∧
    ((∀ c ∈ earlier ++ [last], c.FromRadio) → ∀ e ∈ s.roster.entries,
      e.key.ssid ≠ "" ∧ e.key.security = .ofCapabilities e.representative.capabilities) := by
  intro s
  have hstep : s = (((empty policy).ingestAll earlier).ingest last).1 :=
    ingestAll_concat _ _ _
  have hsnapshot : s.feed.snapshot = s.roster.entries := by
    rw [hstep]
    rfl
  have horigin : ∀ e ∈ s.roster.entries, ∃ c ∈ earlier ++ [last], ∃ o ∈ c.observations,
      e = .ofObservation o.key o := fun e he => exists_observation_of_mem policy _ he
  refine ⟨⟨nodup_keys_ingestAll policy _, ?_, ?_, hsnapshot, congrArg List.length hsnapshot⟩,
    ?_, ?_, ?_⟩
  · intro e he
    obtain ⟨c, -, o, -, rfl⟩ := horigin e he
    rfl
  · intro e he
    obtain ⟨c, -, o, -, rfl⟩ := horigin e he
    rfl
  · intro e he
    rw [hstep, roster_ingest] at he
    have hfresh := (Roster.mem_apply he).2
    rwa [policy_ingestAll] at hfresh
  · rw [version_ingestAll, List.length_append, List.length_singleton]
    exact Nat.zero_add _
  · intro hradio e he
    obtain ⟨c, hc, o, ho, rfl⟩ := horigin e he
    obtain ⟨sightings, succeeded, now, rfl⟩ := hradio c hc
    exact Sighting.of_mem_observeAll ho

end

/-- A scan list with a hidden network, and a later cycle that goes back in time. -/
theorem consistent_ingestAll_hidden :
    let policy : AgePolicy := ⟨.ofSeconds 15, .ofSeconds 10⟩
    let seen : List Sighting :=
      [⟨some "Cafe", "a", "[WPA2-PSK]", 100, none, none⟩, ⟨none, "b", "[ESS]", 100, none, none⟩]
    let first : Cycle := .ofSightings seen true 100
    let last : Cycle := .ofSightings [⟨some "Cafe", "c", "psk", 90, none, none⟩] false 40
    (∀ c ∈ [first, last], c.FromRadio) ∧
    ∀ e ∈ ((empty policy).ingestAll [first, last]).roster.entries,
      e.key.ssid ≠ "" ∧ e.key.security = .ofCapabilities e.representative.capabilities := by
  intro policy seen first last
  have hradio : ∀ c ∈ [first, last], c.FromRadio := by
    intro c hc
    rcases List.mem_cons.mp hc with rfl | hc
    · exact ⟨_, _, _, rfl⟩
    · rw [List.mem_singleton.mp hc]
      exact ⟨_, _, _, rfl⟩
  exact ⟨hradio, (consistent_ingestAll policy [first] last).2.2.2 hradio⟩

end Store

end ScanRoster
