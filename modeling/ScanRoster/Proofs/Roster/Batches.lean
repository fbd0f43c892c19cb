import Mathlib.Data.List.MinMax
import Mathlib.Data.List.Perm.Basic
import ScanRoster.Proofs.Roster.Consistency

/-!
# Batches

The observations of one moment may come in one cycle or in several, in any order.  An entry may then
be evicted between two of them and come back, or an observation may count that is too old beside a
later one; but as what is older than something expired is expired too, every network ends up with the
latest of its times, if that is not too old (`storedTime_ingestAll`).
-/

namespace ScanRoster

namespace Batches

/-- The time at which an entry's network was seen last, if there is an entry. -/
def seenTime : Option Entry → WithBot Int64
  | none => ⊥
  | some e => e.lastSeenMillis

/-- The time at which a network was seen last, if it has an entry. -/
def storedTime (k : NetworkKey) (entries : List Entry) : WithBot Int64 :=
  seenTime (entryOf? k entries)

/-- The latest time of a network among some observations, if it was observed. -/
def latestTime (k : NetworkKey) (observations : List Observation) : WithBot Int64 :=
  ((observations.filter (·.key = k)).map (·.observedAtMillis)).maximum

/-- A time, if it is not too old. -/
def unexpired (now : Int64) (d : Duration) : WithBot Int64 → WithBot Int64
  | ⊥ => ⊥
  | (time : Int64) => if isExpired now time d then ⊥ else time

/-- The networks of some entries with the times at which they were seen last. -/
def timesOf (entries : List Entry) : List (NetworkKey × Int64) :=
  entries.map fun e => (e.key, e.lastSeenMillis)

@[simp] theorem unexpired_bot (now : Int64) (d : Duration) : unexpired now d ⊥ = ⊥ := rfl

theorem unexpired_coe (now : Int64) (d : Duration) (time : Int64) :
    unexpired now d time = if isExpired now time d then ⊥ else (time : WithBot Int64) := rfl

/-- Something expired hides nothing that is not. -/
theorem unexpired_max_unexpired (now : Int64) (d : Duration) (a b : WithBot Int64) :
    unexpired now d (max (unexpired now d a) b) = unexpired now d (max a b) := by
  induction a with
  | bot => rfl
  | coe time =>
      rw [unexpired_coe]
      split
      · rename_i hexpired
        rcases le_total (time : WithBot Int64) b with hle | hle
        · rw [max_eq_right hle, max_eq_right bot_le]
        · -- whatever is not later is expired too
          rw [max_eq_left hle, max_eq_right bot_le, unexpired_coe, if_pos hexpired]
          induction b with
          | bot => rfl
          | coe time' =>
              rw [unexpired_coe, if_pos]
              exact isExpired_of_le hexpired le_rfl (WithBot.coe_le_coe.mp hle) le_rfl
      · rfl

/-! ## The latest time of some observations -/

section

variable (k : NetworkKey)

theorem latestTime_append (observations more : List Observation) :
    latestTime k (observations ++ more) =
      max (latestTime k observations) (latestTime k more) := by
  rw [latestTime, List.filter_append, List.map_append, List.maximum_append]
  rfl

theorem latestTime_perm {observations observations' : List Observation}
    (h : observations.Perm observations') :
    latestTime k observations = latestTime k observations' := by
  have htimes := (h.filter (·.key = k)).map (·.observedAtMillis)
  exact le_antisymm (List.maximum_mono htimes.subset) (List.maximum_mono htimes.symm.subset)

/-- The freshest observation has the latest time. -/
theorem latestTime_eq (observations : List Observation) :
    latestTime k observations =
      match freshest? k observations with
      | none => ⊥
      | some o => o.observedAtMillis := by
  cases hfresh : freshest? k observations with
  | none =>
      have hnone : observations.filter (·.key = k) = [] := by
        simpa [List.filter_eq_nil_iff] using freshest?_eq_none_iff.mp hfresh
      rw [latestTime, hnone]
      rfl
  | some o =>
      obtain ⟨hmem, hkey⟩ := mem_of_freshest? hfresh
      refine List.maximum_eq_coe_iff.mpr ⟨List.mem_map.mpr ⟨o, ?_, rfl⟩, fun time htime => ?_⟩
      · simpa using ⟨hmem, hkey⟩
      · obtain ⟨o', ho', rfl⟩ := List.mem_map.mp htime
        have hmem' : o' ∈ observations ∧ o'.key = k := by simpa using ho'
        exact le_of_freshest? hfresh hmem'.1 hmem'.2

end

/-! ## Cycles of one moment -/

theorem storedTime_eq_coe_iff {k : NetworkKey} {entries : List Entry} {time : Int64} :
    storedTime k entries = time ↔ ∃ e, entryOf? k entries = some e ∧ e.lastSeenMillis = time := by
  unfold storedTime
  cases entryOf? k entries with
  | none => simp [seenTime]
  | some e => simp [seenTime]

/-- An observation counts where it is not older than the entry. -/
theorem seenTime_refreshed? (k : NetworkKey) (old : Option Entry) (o : Observation) :
    seenTime (refreshed? k old (some o)) = max (seenTime old) o.observedAtMillis := by
  cases old with
  | none => rfl
  | some e =>
      rw [refreshed?_some_some]
      split
      · rename_i holder
        exact (max_eq_left (WithBot.coe_le_coe.mpr holder.le)).symm
      · rename_i hnewer
        exact (max_eq_right (WithBot.coe_le_coe.mpr (not_lt.mp hnewer))).symm

theorem seenTime_filter (now : Int64) (d : Duration) (old : Option Entry) :
    seenTime (old.filter fun e => !isExpired now e.lastSeenMillis d) =
      unexpired now d (seenTime old) := by
  cases old with
  | none => rfl
  | some e =>
      rw [seenTime.eq_2, unexpired_coe, Option.filter_some]
      cases isExpired now e.lastSeenMillis d <;> rfl

/-- A cycle leaves a network the latest of its times, if that is not too old. -/
theorem storedTime_apply {r : Roster} (hdistinct : (r.entries.map (·.key)).Nodup) (c : Cycle)
    (k : NetworkKey) :
    storedTime k (r.apply c).1.entries =
      unexpired c.nowMillis (r.policy.effectiveMaxAge c.succeeded)
        (max (storedTime k r.entries) (latestTime k c.observations)) := by
  rw [storedTime, Roster.entryOf?_apply hdistinct, seenTime_filter, latestTime_eq]
  cases freshest? k c.observations with
  | none =>
      dsimp only
      rw [refreshed?_none, max_eq_left bot_le, storedTime]
  | some o =>
      dsimp only
      rw [seenTime_refreshed?, storedTime]

/-- However the observations of one moment are spread over cycles, a network gets the latest of its
times, if that is not too old. -/
theorem storedTime_ingestAll {s : Store} (hdistinct : (s.roster.entries.map (·.key)).Nodup)
    (succeeded : Bool) (now : Int64) (first : List Observation) (rest : List (List Observation))
    (k : NetworkKey) :
    storedTime k (s.ingestAll ((first :: rest).map (⟨·, succeeded, now⟩))).roster.entries =
      unexpired now (s.roster.policy.effectiveMaxAge succeeded)
        (max (storedTime k s.roster.entries) (latestTime k (first :: rest).flatten)) := by
  induction rest using List.reverseRecOn with
  | nil =>
      rw [List.flatten_cons, List.flatten_nil, List.append_nil]
      exact storedTime_apply hdistinct _ k
  | append_singleton rest batch ih =>
      rw [← List.cons_append, List.map_append, List.map_singleton, Store.ingestAll_concat,
        Store.roster_ingest, storedTime_apply (Store.nodup_keys_ingestAll_of_nodup hdistinct _),
        Store.policy_ingestAll, ih, unexpired_max_unexpired, List.flatten_append,
        List.flatten_singleton, latestTime_append, max_assoc]

/-! ## All networks together -/

theorem mem_timesOf_iff {entries : List Entry} (hdistinct : (entries.map (·.key)).Nodup)
    {k : NetworkKey} {time : Int64} :
    (k, time) ∈ timesOf entries ↔ storedTime k entries = time := by
  rw [storedTime_eq_coe_iff, timesOf, List.mem_map]
  constructor
  · rintro ⟨e, he, heq⟩
    obtain ⟨rfl, rfl⟩ := Prod.mk.inj heq
    exact ⟨e, entryOf?_of_mem hdistinct he, rfl⟩
  · rintro ⟨e, he, rfl⟩
    exact ⟨e, mem_of_entryOf? he, by rw [key_of_entryOf? he]⟩

theorem nodup_timesOf {entries : List Entry} (hdistinct : (entries.map (·.key)).Nodup) :
    (timesOf entries).Nodup := by
  have hkeys : (timesOf entries).map Prod.fst = entries.map (·.key) := by
    rw [timesOf, List.map_map]
    rfl
  exact List.Nodup.of_map Prod.fst (hkeys.symm ▸ hdistinct)

/-- Where every network has the same time in two lists, they hold the same networks and times. -/
theorem timesOf_perm {entries entries' : List Entry}
    (hdistinct : (entries.map (·.key)).Nodup) (hdistinct' : (entries'.map (·.key)).Nodup)
    (h : ∀ k, storedTime k entries = storedTime k entries') :
    (timesOf entries).Perm (timesOf entries') := by
  rw [List.perm_ext_iff_of_nodup (nodup_timesOf hdistinct) (nodup_timesOf hdistinct')]
  rintro ⟨k, time⟩
  rw [mem_timesOf_iff hdistinct, mem_timesOf_iff hdistinct', h k]

/-- Batches of one moment leave what one cycle with all their observations leaves, in any order. -/
theorem timesOf_ingestAll_perm {s : Store} (hdistinct : (s.roster.entries.map (·.key)).Nodup)
    (succeeded : Bool) (now : Int64) {first : List Observation} {rest : List (List Observation)}
    {all : List Observation} (hall : all.Perm (first :: rest).flatten) :
    (timesOf (s.ingestAll ((first :: rest).map (⟨·, succeeded, now⟩))).roster.entries).Perm
      (timesOf (s.ingest ⟨all, succeeded, now⟩).1.roster.entries) := by
  refine timesOf_perm (Store.nodup_keys_ingestAll_of_nodup hdistinct _)
    (Roster.nodup_keys_apply _ hdistinct) fun k => ?_
  rw [storedTime_ingestAll hdistinct, Store.roster_ingest, storedTime_apply hdistinct,
    latestTime_perm k hall]

/-- The observations of one moment may come in two cycles, in either order, or in one, in any order:
the networks that have an entry afterwards and their times are the same. -/
theorem batching_keeps_times (s : Store) (a b all : List Observation) (succeeded : Bool) (now : Int64)
    (hdistinct : (s.roster.entries.map (·.key)).Nodup) (hall : all.Perm (a ++ b)) :
    let batches := fun lists : List (List Observation) =>
      timesOf (s.ingestAll (lists.map (⟨·, succeeded, now⟩))).roster.entries
    (batches [a, b]).Perm (batches [all]) ∧ (batches [b, a]).Perm (batches [all]) ∧
      (batches [a ++ b]).Perm (batches [all]) := by
  refine ⟨timesOf_ingestAll_perm hdistinct succeeded now ?_,
    timesOf_ingestAll_perm hdistinct succeeded now ?_,
    timesOf_ingestAll_perm hdistinct succeeded now ?_⟩
  · simpa using hall
  · simpa using hall.trans List.perm_append_comm
  · simpa using hall

/-- One entry is evicted by the first cycle and comes back with the second, one is refreshed by one
batch and the other is too old beside it, and one network has two observations of one time; the
networks stand in another order, with other representatives, and the times are the same. -/
theorem batching_keeps_times_evicted_between :
    let seen (ssid bssid : String) (time : Int64) : Observation :=
      ⟨ssid, bssid, "", .openAccess, time, none, none⟩
    let s := ((Store.empty ⟨.ofSeconds 15, .ofSeconds 10⟩).ingest
      ⟨[seen "Bar" "a" 1000, seen "Cafe" "a" 8000], true, 10000⟩).1
    let a := [seen "Cafe" "b" 12000, seen "Pier" "a" 9000, seen "Quay" "a" 2000]
    let b := [seen "Pier" "b" 9000, seen "Bar" "b" 7000, seen "Cafe" "c" 9000]
    let all := [seen "Cafe" "c" 9000, seen "Quay" "a" 2000, seen "Pier" "b" 9000,
      seen "Bar" "b" 7000, seen "Pier" "a" 9000, seen "Cafe" "b" 12000]
    let after := fun lists : List (List Observation) =>
      (s.ingestAll (lists.map (⟨·, true, 20000⟩))).roster.entries
    (s.roster.entries.map (·.key)).Nodup ∧ all.Perm (a ++ b) ∧
      (after [a, b]).map (fun e => (e.key.ssid, e.representative.bssid)) =
        [("Cafe", "b"), ("Pier", "b"), ("Bar", "b")] ∧
      (after [all]).map (fun e => (e.key.ssid, e.representative.bssid)) =
        [("Bar", "b"), ("Cafe", "b"), ("Pier", "b")] ∧
      (timesOf (after [a, b])).Perm (timesOf (after [all])) ∧
      (timesOf (after [b, a])).Perm (timesOf (after [all])) := by
  intro seen s a b all after
  have hdistinct : (s.roster.entries.map (·.key)).Nodup := by decide +kernel
  have hall : all.Perm (a ++ b) := by decide +kernel
  have hbatches := batching_keeps_times s a b all true 20000 hdistinct hall
  exact ⟨hdistinct, hall, by decide +kernel, by decide +kernel, hbatches.1, hbatches.2.1⟩

end Batches

end ScanRoster
