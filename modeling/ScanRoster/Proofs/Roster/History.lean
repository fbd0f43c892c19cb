import ScanRoster.Proofs.Roster.Consistency

/-!
# The roster and its history

A store forgets: entries are evicted, and how soon depends on whether each cycle succeeded.  While
times do not go back this leaves no trace after a cycle that succeeded.  The proof compares the
store with one that never evicts: the two agree on a network unless what is remembered of it is
already too old for a cycle that succeeds (`Shadows`).
-/

namespace ScanRoster

namespace History

/-- Whether the times of some cycles never go back. -/
def InOrder (cycles : List Cycle) : Prop :=
  (cycles.map (·.nowMillis)).Pairwise (· ≤ ·)

instance (cycles : List Cycle) : Decidable (InOrder cycles) :=
  inferInstanceAs (Decidable (List.Pairwise _ _))

/-- All observations of a network, as they came. -/
def observationsOf (k : NetworkKey) (cycles : List Cycle) : List Observation :=
  (cycles.flatMap (·.observations)).filter (·.key = k)

/-- The latest time at which a network was seen, if it ever was. -/
def lastSeen? (k : NetworkKey) (cycles : List Cycle) : Option Int64 :=
  ((observationsOf k cycles).map (·.observedAtMillis)).max?

/-- The first observation of a network at a time, in the latest cycle that has one. -/
def standIn? (k : NetworkKey) (time : Int64) (cycles : List Cycle) : Option Observation :=
  cycles.reverse.findSome? fun c =>
    c.observations.find? fun o => o.key = k ∧ o.observedAtMillis = time

/-- The entry of a network in a store that never evicts. -/
def remembered? (k : NetworkKey) (cycles : List Cycle) : Option Entry :=
  (cycles.map fun c => freshest? k c.observations).foldl (refreshed? k) none

/-- The entry that a history tells of a network: seen last at the latest time, and represented by
the observation that stands in for it. -/
structure Tells (k : NetworkKey) (cycles : List Cycle) (e : Entry) : Prop where
  entry_eq : e = .ofObservation k e.representative
  mem : e.representative ∈ observationsOf k cycles
  le : ∀ o ∈ observationsOf k cycles, o.observedAtMillis ≤ e.lastSeenMillis
  standIn : standIn? k e.lastSeenMillis cycles = some e.representative

/-! ## Cycles one by one -/

section

variable (k : NetworkKey)

theorem observationsOf_concat (cycles : List Cycle) (c : Cycle) :
    observationsOf k (cycles ++ [c]) =
      observationsOf k cycles ++ c.observations.filter (·.key = k) := by
  simp [observationsOf, List.flatMap_append, List.filter_append]

theorem standIn?_concat (time : Int64) (cycles : List Cycle) (c : Cycle) :
    standIn? k time (cycles ++ [c]) =
      (c.observations.find? fun o => o.key = k ∧ o.observedAtMillis = time).or
        (standIn? k time cycles) := by
  unfold standIn?
  rw [List.reverse_append, List.reverse_singleton, List.singleton_append, List.findSome?_cons]
  cases c.observations.find? fun o => o.key = k ∧ o.observedAtMillis = time <;> rfl

theorem remembered?_concat (cycles : List Cycle) (c : Cycle) :
    remembered? k (cycles ++ [c]) =
      refreshed? k (remembered? k cycles) (freshest? k c.observations) := by
  simp [remembered?, List.foldl_append]

theorem remembered?_eq_none_iff (cycles : List Cycle) :
    remembered? k cycles = none ↔ observationsOf k cycles = [] := by
  induction cycles using List.reverseRecOn with
  | nil => simp [remembered?, observationsOf]
  | append_singleton cycles c ih =>
      rw [remembered?_concat, observationsOf_concat, List.append_eq_nil_iff, ← ih]
      cases hfresh : freshest? k c.observations with
      | none =>
          have hnone : c.observations.filter (·.key = k) = [] := by
            simpa [List.filter_eq_nil_iff] using freshest?_eq_none_iff.mp hfresh
          simp [hnone]
      | some o =>
          obtain ⟨hmem, hkey⟩ := mem_of_freshest? hfresh
          have hne : c.observations.filter (·.key = k) ≠ [] := by
            intro hnil
            exact List.filter_eq_nil_iff.mp hnil o hmem (by simpa using hkey)
          simp only [hne, and_false, iff_false]
          cases remembered? k cycles with
          | none => simp [refreshed?]
          | some e =>
              rw [refreshed?_some_some]
              split <;> simp

/-- One more cycle that has nothing newer changes nothing. -/
theorem Tells.keep {k : NetworkKey} {cycles : List Cycle} {e : Entry} (h : Tells k cycles e)
    {c : Cycle}
    (hnewer : ∀ o, freshest? k c.observations = some o → o.observedAtMillis < e.lastSeenMillis) :
    Tells k (cycles ++ [c]) e := by
  have holder : ∀ o ∈ c.observations, o.key = k → o.observedAtMillis < e.lastSeenMillis := by
    intro o ho hkey
    cases hfresh : freshest? k c.observations with
    | none => exact absurd hkey (freshest?_eq_none_iff.mp hfresh o ho)
    | some newest =>
        exact (le_of_freshest? hfresh ho hkey).trans_lt (hnewer newest hfresh)
  refine ⟨h.entry_eq, ?_, ?_, ?_⟩
  · rw [observationsOf_concat]
    exact List.mem_append_left _ h.mem
  · intro o ho
    rw [observationsOf_concat] at ho
    rcases List.mem_append.mp ho with hold | hnew
    · exact h.le o hold
    · have ho' : o ∈ c.observations ∧ o.key = k := by simpa using hnew
      exact (holder o ho'.1 ho'.2).le
  · have hnone : (c.observations.find? fun o =>
        o.key = k ∧ o.observedAtMillis = e.lastSeenMillis) = none := by
      rw [List.find?_eq_none]
      intro o ho
      simp only [decide_eq_true_eq, not_and]
      intro hkey
      exact (holder o ho hkey).ne
    rw [standIn?_concat, hnone]
    exact h.standIn

/-- One more cycle whose freshest observation is not older than any before. -/
theorem tells_of_freshest {k : NetworkKey} {cycles : List Cycle} {c : Cycle} {o : Observation}
    (hfresh : freshest? k c.observations = some o)
    (hle : ∀ p ∈ observationsOf k cycles, p.observedAtMillis ≤ o.observedAtMillis) :
    Tells k (cycles ++ [c]) (.ofObservation k o) := by
  obtain ⟨hmem, hkey⟩ := mem_of_freshest? hfresh
  refine ⟨rfl, ?_, ?_, ?_⟩
  · rw [observationsOf_concat]
    exact List.mem_append_right _ (List.mem_filter.mpr ⟨hmem, decide_eq_true hkey⟩)
  · intro p hp
    rw [observationsOf_concat] at hp
    rcases List.mem_append.mp hp with hold | hnew
    · exact hle p hold
    · have hp' : p ∈ c.observations ∧ p.key = k := by simpa using hnew
      exact le_of_freshest? hfresh hp'.1 hp'.2
  · rw [standIn?_concat, Entry.ofObservation, find?_of_freshest? hfresh]
    rfl

theorem tells_of_remembered? {cycles : List Cycle} {e : Entry}
    (h : remembered? k cycles = some e) : Tells k cycles e := by
  induction cycles using List.reverseRecOn generalizing e with
  | nil => simp [remembered?] at h
  | append_singleton cycles c ih =>
      rw [remembered?_concat] at h
      cases hfresh : freshest? k c.observations with
      | none =>
          rw [hfresh, refreshed?_none] at h
          exact (ih h).keep (by simp [hfresh])
      | some o =>
          cases hold : remembered? k cycles with
          | none =>
              rw [hfresh, hold] at h
              obtain rfl := Option.some.inj h
              have hnil := (remembered?_eq_none_iff k cycles).mp hold
              exact tells_of_freshest hfresh (by simp [hnil])
          | some e' =>
              rw [hfresh, hold] at h
              have htells := ih hold
              rw [refreshed?_some_some] at h
              split at h
              · rename_i holder
                obtain rfl := Option.some.inj h
                refine htells.keep fun p hp => ?_
                obtain rfl := Option.some.inj (hfresh.symm.trans hp)
                exact holder
              · rename_i hnewer
                obtain rfl := Option.some.inj h
                refine tells_of_freshest hfresh fun p hp => ?_
                exact (htells.le p hp).trans (not_lt.mp hnewer)

/-- The time of what is remembered is the latest one. -/
theorem lastSeen?_eq (cycles : List Cycle) :
    lastSeen? k cycles = (remembered? k cycles).map (·.lastSeenMillis) := by
  cases h : remembered? k cycles with
  | none =>
      have hnil := (remembered?_eq_none_iff k cycles).mp h
      simp [lastSeen?, hnil]
  | some e =>
      have htells := tells_of_remembered? k h
      have htime : e.representative.observedAtMillis = e.lastSeenMillis := by
        rw [htells.entry_eq]
        rfl
      rw [Option.map_some, lastSeen?, List.max?_eq_some_iff]
      refine ⟨List.mem_map.mpr ⟨_, htells.mem, htime⟩, ?_⟩
      intro time htime'
      obtain ⟨o, ho, rfl⟩ := List.mem_map.mp htime'
      exact htells.le o ho

end

/-! ## The store beside its history -/

/-- How what a store holds of a network relates to what is remembered of it: they are the same, or
the memory is too old for any cycle that succeeds and the store holds nothing newer. -/
def Shadows (policy : AgePolicy) (now : Int64) (stored remembered : Option Entry) : Prop :=
  stored = remembered ∨
    ∃ e, remembered = some e ∧ isExpired now e.lastSeenMillis policy.maxEntryAge = true ∧
      ∀ e' ∈ stored, e'.lastSeenMillis ≤ e.lastSeenMillis

variable {policy : AgePolicy}

/-- An eviction takes from what is remembered only what is too old for good. -/
theorem shadows_filter (now : Int64) (succeeded : Bool) (remembered : Option Entry) :
    Shadows policy now
      (remembered.filter fun e =>
        !isExpired now e.lastSeenMillis (policy.effectiveMaxAge succeeded)) remembered := by
  cases remembered with
  | none => exact Or.inl rfl
  | some e =>
      cases hexpired : isExpired now e.lastSeenMillis (policy.effectiveMaxAge succeeded) with
      | false => exact Or.inl (by simp [Option.filter, hexpired])
      | true =>
          refine Or.inr ⟨e, rfl, ?_, by simp [Option.filter, hexpired]⟩
          exact isExpired_of_le hexpired le_rfl le_rfl (policy.millis_maxEntryAge_le succeeded)

/-- A cycle that does not go back in time keeps the store beside its history, whether it
succeeds or not. -/
theorem Shadows.cycle {k : NetworkKey} {now : Int64} {stored remembered : Option Entry}
    (h : Shadows policy now stored remembered) {now' : Int64} (hnow : now ≤ now')
    (succeeded : Bool) (fresh : Option Observation) :
    Shadows policy now'
      ((refreshed? k stored fresh).filter fun e =>
        !isExpired now' e.lastSeenMillis (policy.effectiveMaxAge succeeded))
      (refreshed? k remembered fresh) := by
  rcases h with rfl | ⟨e, rfl, hexpired, hle⟩
  · exact shadows_filter now' succeeded _
  · have hexpired' : isExpired now' e.lastSeenMillis policy.maxEntryAge = true :=
      isExpired_of_le hexpired hnow le_rfl le_rfl
    cases fresh with
    | none =>
        rw [refreshed?_none, refreshed?_none]
        refine Or.inr ⟨e, rfl, hexpired', fun e' he' => hle e' ?_⟩
        exact (Option.mem_filter_iff.mp he').1
    | some o =>
        rw [refreshed?_some_some]
        split
        · -- the store may take in what the memory is already newer than
          rename_i holder
          refine Or.inr ⟨e, rfl, hexpired', fun e' he' => ?_⟩
          have hmem : e' ∈ refreshed? k stored (some o) := (Option.mem_filter_iff.mp he').1
          cases stored with
          | none =>
              obtain rfl := Option.some.inj hmem
              exact holder.le
          | some e₀ =>
              rw [refreshed?_some_some] at hmem
              split at hmem
              · exact hle e' hmem
              · obtain rfl := Option.some.inj hmem
                exact holder.le
        · -- both take in the new observation, and agree from here on
          rename_i hnewer
          have hsame : refreshed? k stored (some o) = some (.ofObservation k o) := by
            cases stored with
            | none => rfl
            | some e₀ =>
                rw [refreshed?_some_some, if_neg]
                exact not_lt.mpr ((hle e₀ rfl).trans (not_lt.mp hnewer))
          rw [hsame]
          exact shadows_filter now' succeeded _

/-- After a cycle that succeeded, an eviction decides by what is remembered. -/
theorem Shadows.filter_eq {now : Int64} {stored remembered : Option Entry}
    (h : Shadows policy now
      (stored.filter fun e => !isExpired now e.lastSeenMillis policy.maxEntryAge) remembered) :
    (stored.filter fun e => !isExpired now e.lastSeenMillis policy.maxEntryAge) =
      remembered.filter fun e => !isExpired now e.lastSeenMillis policy.maxEntryAge := by
  rcases h with rfl | ⟨e, rfl, hexpired, hle⟩
  · simp [Option.filter_filter]
  · have hnone : (stored.filter fun e =>
        !isExpired now e.lastSeenMillis policy.maxEntryAge) = none := by
      rw [Option.eq_none_iff_forall_not_mem]
      intro e' he'
      have hfresh : isExpired now e'.lastSeenMillis policy.maxEntryAge = false := by
        simpa using (Option.mem_filter_iff.mp he').2
      rw [isExpired_of_le hexpired le_rfl (hle e' he') le_rfl] at hfresh
      exact Bool.noConfusion hfresh
    rw [hnone]
    simp [Option.filter, hexpired]

variable (policy) in
theorem shadows_ingestAll (k : NetworkKey) (earlier : List Cycle) (last : Cycle)
    (hordered : InOrder (earlier ++ [last])) :
    Shadows policy last.nowMillis
      (entryOf? k ((Store.empty policy).ingestAll (earlier ++ [last])).roster.entries)
      (remembered? k (earlier ++ [last])) := by
  induction earlier using List.reverseRecOn generalizing last with
  | nil =>
      rw [Store.ingestAll_concat, Store.roster_ingest,
        Roster.entryOf?_apply (Store.nodup_keys_ingestAll policy []), remembered?_concat]
      exact shadows_filter last.nowMillis last.succeeded _
  | append_singleton earlier before ih =>
      have hbefore : InOrder (earlier ++ [before]) :=
        List.Pairwise.sublist ((List.sublist_append_left _ _).map _) hordered
      have hnow : before.nowMillis ≤ last.nowMillis := by
        unfold InOrder at hordered
        rw [List.map_append, List.pairwise_append] at hordered
        exact hordered.2.2 _ (by simp) _ (by simp)
      rw [Store.ingestAll_concat, Store.roster_ingest,
        Roster.entryOf?_apply (Store.nodup_keys_ingestAll policy _), remembered?_concat,
        Store.policy_ingestAll]
      exact (ih before hbefore).cycle hnow last.succeeded _

variable (policy) in
/-- After a cycle that succeeded, a store has of each network what one that never evicts would
show of it. -/
theorem entryOf?_ingestAll (k : NetworkKey) (earlier : List Cycle) (last : Cycle)
    (hordered : InOrder (earlier ++ [last])) (hlast : last.succeeded = true) :
    entryOf? k ((Store.empty policy).ingestAll (earlier ++ [last])).roster.entries =
      (remembered? k (earlier ++ [last])).filter fun e =>
        !isExpired last.nowMillis e.lastSeenMillis policy.maxEntryAge := by
  have hshadows := shadows_ingestAll policy k earlier last hordered
  rw [Store.ingestAll_concat, Store.roster_ingest,
    Roster.entryOf?_apply (Store.nodup_keys_ingestAll policy _), Store.policy_ingestAll,
    hlast] at hshadows ⊢
  exact hshadows.filter_eq

/-- What is remembered depends on the observations alone, and not on which cycles succeeded. -/
theorem remembered?_congr (k : NetworkKey) {cycles cycles' : List Cycle}
    (h : cycles.map (·.observations) = cycles'.map (·.observations)) :
    remembered? k cycles = remembered? k cycles' := by
  have hfresh := congrArg (List.map (freshest? k)) h
  rw [List.map_map, List.map_map] at hfresh
  exact congrArg (List.foldl (refreshed? k) none) hfresh

section

variable (policy) {earlier : List Cycle} {last : Cycle}

/-- A network has an entry where it was seen and its latest time is not too old. -/
theorem exists_entry_iff (k : NetworkKey) (hordered : InOrder (earlier ++ [last]))
    (hlast : last.succeeded = true) :
    (∃ e ∈ ((Store.empty policy).ingestAll (earlier ++ [last])).roster.entries, e.key = k) ↔
      ∃ time, lastSeen? k (earlier ++ [last]) = some time ∧
        isExpired last.nowMillis time policy.maxEntryAge = false := by
  have hentry := entryOf?_ingestAll policy k earlier last hordered hlast
  rw [lastSeen?_eq]
  constructor
  · rintro ⟨e, he, rfl⟩
    rw [entryOf?_of_mem (Store.nodup_keys_ingestAll policy _) he] at hentry
    obtain ⟨hremembered, hfresh⟩ := Option.mem_filter_iff.mp hentry.symm
    refine ⟨e.lastSeenMillis, ?_, by simpa using hfresh⟩
    rw [hremembered]
    rfl
  · rintro ⟨time, htime, hfresh⟩
    obtain ⟨e, hremembered, rfl⟩ := Option.map_eq_some_iff.mp htime
    rw [hremembered] at hentry
    have hfound := hentry.trans (Option.filter_some_pos (by simp [hfresh]))
    exact ⟨e, mem_of_entryOf? hfound, key_of_entryOf? hfound⟩

/-- An entry has the latest time of its network, and the observation that stands in for it. -/
theorem of_mem_entries (hordered : InOrder (earlier ++ [last])) (hlast : last.succeeded = true)
    {e : Entry}
    (he : e ∈ ((Store.empty policy).ingestAll (earlier ++ [last])).roster.entries) :
    lastSeen? e.key (earlier ++ [last]) = some e.lastSeenMillis ∧
      standIn? e.key e.lastSeenMillis (earlier ++ [last]) = some e.representative := by
  have hentry := entryOf?_ingestAll policy e.key earlier last hordered hlast
  rw [entryOf?_of_mem (Store.nodup_keys_ingestAll policy _) he] at hentry
  have hremembered := (Option.mem_filter_iff.mp hentry.symm).1
  refine ⟨?_, (tells_of_remembered? e.key hremembered).standIn⟩
  rw [lastSeen?_eq, hremembered]
  rfl

/-- Which of the earlier cycles succeeded does not matter. -/
theorem perm_entries (hordered : InOrder (earlier ++ [last])) (hlast : last.succeeded = true)
    {other : List Cycle}
    (hother : other.map (fun c => (c.observations, c.nowMillis)) =
      earlier.map (fun c => (c.observations, c.nowMillis))) :
    ((Store.empty policy).ingestAll (other ++ [last])).roster.entries.Perm
      ((Store.empty policy).ingestAll (earlier ++ [last])).roster.entries := by
  have hnows : other.map (·.nowMillis) = earlier.map (·.nowMillis) := by
    simpa [List.map_map, Function.comp_def] using congrArg (List.map Prod.snd) hother
  have hobservations : other.map (·.observations) = earlier.map (·.observations) := by
    simpa [List.map_map, Function.comp_def] using congrArg (List.map Prod.fst) hother
  have hordered' : InOrder (other ++ [last]) := by
    unfold InOrder at hordered ⊢
    rwa [List.map_append, hnows, ← List.map_append]
  refine perm_of_entryOf? (Store.nodup_keys_ingestAll policy _)
    (Store.nodup_keys_ingestAll policy _) fun k => ?_
  have hremembered : remembered? k (other ++ [last]) = remembered? k (earlier ++ [last]) := by
    refine remembered?_congr k ?_
    rw [List.map_append, List.map_append, hobservations]
  rw [entryOf?_ingestAll policy k other last hordered' hlast, hremembered,
    entryOf?_ingestAll policy k earlier last hordered hlast]

end

variable (policy) in
/-- After a cycle that succeeded, and while times do not go back, a store has exactly the networks
that were seen and whose latest time is not too old.  Each entry has that time, and is represented
by the first observation with it in the latest cycle that has one.  Whether earlier cycles
succeeded does not matter. -/
theorem history_decides_entries (earlier : List Cycle) (last : Cycle)
    (hordered : InOrder (earlier ++ [last])) (hlast : last.succeeded = true) :
    let cycles := earlier ++ [last]
    let entries := ((Store.empty policy).ingestAll cycles).roster.entries
    (entries.map (·.key)).Nodup ∧
    (∀ k, (∃ e ∈ entries, e.key = k) ↔
      ∃ time, lastSeen? k cycles = some time ∧
        isExpired last.nowMillis time policy.maxEntryAge = false) ∧
    (∀ e ∈ entries, lastSeen? e.key cycles = some e.lastSeenMillis ∧
      standIn? e.key e.lastSeenMillis cycles = some e.representative) ∧
    (∀ other : List Cycle,
      other.map (fun c => (c.observations, c.nowMillis)) =
        earlier.map (fun c => (c.observations, c.nowMillis)) →
      ((Store.empty policy).ingestAll (other ++ [last])).roster.entries.Perm entries) := by
  intro cycles entries
  refine ⟨Store.nodup_keys_ingestAll policy cycles, ?_, ?_, ?_⟩
  · intro k
    exact exists_entry_iff policy k hordered hlast
  · intro e he
    exact of_mem_entries policy hordered hlast he
  · intro other hother
    exact perm_entries policy hordered hlast hother

/-- A history with a failed cycle that delivers what the radio remembered, and with two
observations of one time in the last cycle. -/
theorem history_decides_entries_after_failure :
    let policy : AgePolicy := ⟨.ofSeconds 15, .ofSeconds 10⟩
    let seen (bssid : String) (time : Int64) : Observation :=
      ⟨"Cafe", bssid, "", .openAccess, time, none, none⟩
    let earlier : List Cycle :=
      [⟨[seen "a" 0], true, 0⟩, ⟨[seen "a" 0], false, 20000⟩, ⟨[], true, 20000⟩]
    let last : Cycle := ⟨[seen "b" 9000, seen "c" 9000], true, 21000⟩
    let entries := ((Store.empty policy).ingestAll (earlier ++ [last])).roster.entries
    InOrder (earlier ++ [last]) ∧ last.succeeded = true ∧
    ((∃ e ∈ entries, e.key = (seen "a" 0).key) ↔
      ∃ time, lastSeen? (seen "a" 0).key (earlier ++ [last]) = some time ∧
        isExpired last.nowMillis time policy.maxEntryAge = false) := by
  intro policy seen earlier last entries
  have hordered : InOrder (earlier ++ [last]) := by decide
  exact ⟨hordered, rfl, (history_decides_entries policy earlier last hordered rfl).2.1 _⟩

end History

end ScanRoster
