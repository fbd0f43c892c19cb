import ScanRoster.Proofs.Roster.History

/-!
# Networks that come back

Once the entry of a network was evicted, a newer observation brings the network back.  An older one
does so only where the evicting cycle had succeeded and the scans after it fail: a failed cycle
looks back one scan interval further, and may take in again what the radio still remembers.  The
first cycle that succeeds drops such an entry.
-/

namespace ScanRoster

namespace AgePolicy

/-- No cycle allows more than the age that a failed one does. -/
theorem millis_effectiveMaxAge_le (p : AgePolicy) (succeeded : Bool) :
    (p.effectiveMaxAge succeeded).millis ≤ (p.effectiveMaxAge false).millis := by
  cases succeeded with
  | true => exact p.millis_maxEntryAge_le false
  | false => exact Nat.le_refl _

end AgePolicy

namespace Roster

/-- The entries that a cycle evicts, as its own observations have left them. -/
def evictedBy (r : Roster) (c : Cycle) : List Entry :=
  (placeAll (aggregate c.observations) r.entries).2.filter fun e =>
    isExpired c.nowMillis e.lastSeenMillis (r.policy.effectiveMaxAge c.succeeded)

theorem mem_evictedBy {r : Roster} {c : Cycle} {e : Entry} :
    e ∈ r.evictedBy c ↔ e ∈ (placeAll (aggregate c.observations) r.entries).2 ∧
      isExpired c.nowMillis e.lastSeenMillis (r.policy.effectiveMaxAge c.succeeded) = true :=
  List.mem_filter

/-- An evicted network has no entry after the cycle. -/
theorem entryOf?_apply_of_evicted {r : Roster} {c : Cycle} {e : Entry}
    (hnodup : (r.entries.map (·.key)).Nodup) (h : e ∈ r.evictedBy c) :
    entryOf? e.key (r.apply c).1.entries = none := by
  obtain ⟨hplaced, hexpired⟩ := mem_evictedBy.mp h
  have hfound := entryOf?_of_mem (nodup_keys_placeAll (aggregate c.observations) hnodup) hplaced
  rw [entries_apply, entryOf?_filter (nodup_keys_placeAll _ hnodup), hfound]
  simp [Option.filter, hexpired]

end Roster

namespace History

/-- Whether some cycle delivers an observation of a network from after a time. -/
def News (k : NetworkKey) (time : Int64) (cycles : List Cycle) : Prop :=
  ∃ c ∈ cycles, ∃ o ∈ c.observations, o.key = k ∧ time < o.observedAtMillis

/-- Whether some cycles end in failed ones, one of which delivers an observation of a network at
a time. -/
def RememberedByRadio (k : NetworkKey) (time : Int64) (cycles : List Cycle) : Prop :=
  ∃ settled failed, cycles = settled ++ failed ∧ (∀ c ∈ failed, c.succeeded = false) ∧
    ∃ c ∈ failed, ∃ o ∈ c.observations, o.key = k ∧ o.observedAtMillis = time

variable {policy : AgePolicy} {k : NetworkKey} {time : Int64}

instance (k : NetworkKey) (time : Int64) (cycles : List Cycle) : Decidable (News k time cycles) :=
  inferInstanceAs (Decidable (∃ c ∈ cycles, ∃ o ∈ c.observations, _))

theorem News.append_right {cycles : List Cycle} (more : List Cycle) (h : News k time cycles) :
    News k time (cycles ++ more) := by
  obtain ⟨c, hc, ho⟩ := h
  exact ⟨c, List.mem_append_left _ hc, ho⟩

/-- One more failed cycle keeps what the radio has delivered. -/
theorem RememberedByRadio.concat {cycles : List Cycle} (h : RememberedByRadio k time cycles)
    {c : Cycle} (hfailed : c.succeeded = false) : RememberedByRadio k time (cycles ++ [c]) := by
  obtain ⟨settled, failed, rfl, hall, c', hc', ho⟩ := h
  refine ⟨settled, failed ++ [c], List.append_assoc _ _ _, ?_, c', List.mem_append_left _ hc', ho⟩
  intro c'' hc''
  rcases List.mem_append.mp hc'' with hold | hnew
  · exact hall c'' hold
  · rw [List.mem_singleton.mp hnew]
    exact hfailed

theorem rememberedByRadio_of_mem (cycles : List Cycle) {c : Cycle} {o : Observation}
    (hfailed : c.succeeded = false) (ho : o ∈ c.observations) (hkey : o.key = k) :
    RememberedByRadio k o.observedAtMillis (cycles ++ [c]) := by
  refine ⟨cycles, [c], rfl, ?_, c, List.mem_singleton.mpr rfl, o, ho, hkey, rfl⟩
  intro c' hc'
  rw [List.mem_singleton.mp hc']
  exact hfailed

/-- What may be stored of an evicted network while nothing newer is delivered: nothing, or an entry
that the evicted one is not older than and that failed cycles have brought. -/
def Remnant (k : NetworkKey) (time : Int64) (later : List Cycle) (stored : Option Entry) : Prop :=
  ∀ e ∈ stored, e.lastSeenMillis ≤ time ∧ RememberedByRadio k e.lastSeenMillis later

/-- What a cycle that succeeds would evict is kept by failed ones only. -/
theorem not_succeeded_of_fresh {now : Int64} {succeeded : Bool} {seen : Int64}
    (hexpired : isExpired now time policy.maxEntryAge = true) (hseen : seen ≤ time)
    (hfresh : isExpired now seen (policy.effectiveMaxAge succeeded) = false) :
    succeeded = false := by
  cases succeeded with
  | false => rfl
  | true =>
      rw [AgePolicy.effectiveMaxAge, if_pos rfl,
        isExpired_of_le hexpired le_rfl hseen le_rfl] at hfresh
      contradiction

/-- One more cycle without news. -/
theorem Remnant.cycle {later : List Cycle} {stored : Option Entry} (h : Remnant k time later stored)
    {c : Cycle} (hexpired : isExpired c.nowMillis time policy.maxEntryAge = true)
    (hquiet : ∀ o ∈ c.observations, o.key = k → o.observedAtMillis ≤ time) :
    Remnant k time (later ++ [c])
      ((refreshed? k stored (freshest? k c.observations)).filter fun e =>
        !isExpired c.nowMillis e.lastSeenMillis (policy.effectiveMaxAge c.succeeded)) := by
  intro e he
  obtain ⟨hmem, hkept⟩ := Option.mem_filter_iff.mp he
  rw [Bool.not_eq_true'] at hkept
  -- an entry that was stored stays one that failed cycles have brought
  have hold : e ∈ stored → e.lastSeenMillis ≤ time ∧
      RememberedByRadio k e.lastSeenMillis (later ++ [c]) := by
    intro hstored
    obtain ⟨hle, hradio⟩ := h e hstored
    exact ⟨hle, hradio.concat (not_succeeded_of_fresh hexpired hle hkept)⟩
  cases hfresh : freshest? k c.observations with
  | none =>
      rw [hfresh, refreshed?_none] at hmem
      exact hold hmem
  | some o =>
      obtain ⟨ho, hkey⟩ := mem_of_freshest? hfresh
      have hnew : e = .ofObservation k o → e.lastSeenMillis ≤ time ∧
          RememberedByRadio k e.lastSeenMillis (later ++ [c]) := by
        rintro rfl
        have hle := hquiet o ho hkey
        have hfailed := not_succeeded_of_fresh hexpired hle hkept
        exact ⟨hle, rememberedByRadio_of_mem later hfailed ho hkey⟩
      rw [hfresh] at hmem
      cases stored with
      | none => exact hnew (Option.some.inj hmem).symm
      | some e₀ =>
          rw [refreshed?_some_some] at hmem
          split at hmem
          · exact hold hmem
          · exact hnew (Option.some.inj hmem).symm

/-- Times that never go back put each cycle after those before it. -/
theorem InOrder.le {before after : List Cycle} (h : InOrder (before ++ after)) {c c' : Cycle}
    (hc : c ∈ before) (hc' : c' ∈ after) : c.nowMillis ≤ c'.nowMillis := by
  unfold InOrder at h
  rw [List.map_append, List.pairwise_append] at h
  exact h.2.2 _ (List.mem_map_of_mem hc) _ (List.mem_map_of_mem hc')

variable (policy) in
/-- While nothing newer is delivered, only a remnant of an evicted network is stored. -/
theorem remnant_ingestAll (before later : List Cycle) (evicting : Cycle) {e : Entry}
    (hordered : InOrder (before ++ [evicting] ++ later))
    (hevicted : e ∈ ((Store.empty policy).ingestAll before).roster.evictedBy evicting)
    (hquiet : ¬ News e.key e.lastSeenMillis later) :
    Remnant e.key e.lastSeenMillis later
      (entryOf? e.key
        ((Store.empty policy).ingestAll (before ++ [evicting] ++ later)).roster.entries) := by
  have hexpired := (Roster.mem_evictedBy.mp hevicted).2
  rw [Store.policy_ingestAll_empty] at hexpired
  induction later using List.reverseRecOn with
  | nil =>
      rw [List.append_nil, Store.ingestAll_concat, Store.roster_ingest,
        Roster.entryOf?_apply_of_evicted (Store.nodup_keys_ingestAll policy _) hevicted]
      exact nofun
  | append_singleton later c ih =>
      rw [← List.append_assoc] at hordered ⊢
      have hbefore : InOrder (before ++ [evicting] ++ later) :=
        List.Pairwise.sublist ((List.sublist_append_left _ _).map _) hordered
      have hnow : evicting.nowMillis ≤ c.nowMillis :=
        hordered.le (by simp) (List.mem_singleton.mpr rfl)
      rw [Store.ingestAll_concat, Store.roster_ingest,
        Roster.entryOf?_apply (Store.nodup_keys_ingestAll policy _), Store.policy_ingestAll_empty]
      refine (ih hbefore fun hnews => hquiet (hnews.append_right _)).cycle ?_ ?_
      · exact isExpired_of_le hexpired hnow le_rfl (policy.millis_maxEntryAge_le _)
      · intro o ho hkey
        by_contra hnewer
        exact hquiet ⟨c, by simp, o, ho, hkey, not_le.mp hnewer⟩

/-- The entry of a network is evicted, and the network has an entry again after some more
cycles. -/
structure ComesBack (policy : AgePolicy) (before : List Cycle) (evicting : Cycle)
    (later : List Cycle) (evicted back : Entry) : Prop where
  mem_evicted : evicted ∈ ((Store.empty policy).ingestAll before).roster.evictedBy evicting
  mem_entries :
    back ∈ ((Store.empty policy).ingestAll (before ++ [evicting] ++ later)).roster.entries
  key_eq : back.key = evicted.key

/-- A network that a cycle has evicted comes back with the observation that it had before, because
the next cycle fails and looks back one scan interval further. -/
theorem comes_back_without_news :
    let policy : AgePolicy := ⟨.ofSeconds 15, .ofSeconds 10⟩
    let seen : Observation := ⟨"Cafe", "a", "", .openAccess, 0, none, none⟩
    let before : List Cycle := [⟨[seen], true, 0⟩]
    let evicting : Cycle := ⟨[], true, 20000⟩
    let later : List Cycle := [⟨[seen], false, 20000⟩]
    let entry : Entry := .ofObservation seen.key seen
    InOrder (before ++ [evicting] ++ later) ∧
      ComesBack policy before evicting later entry entry ∧
      ¬ News entry.key entry.lastSeenMillis later := by
  intro policy seen before evicting later entry
  exact ⟨by decide, ⟨by decide +kernel, by decide +kernel, rfl⟩, by decide⟩

/-- An evicted network comes back with a newer observation.  The only other way is that the
evicting cycle had succeeded, the cycle at hand has failed, and one of the failed cycles that led
to it has delivered again an observation that is too old for a cycle that succeeds, but not for a
failed one. -/
theorem comes_back_with_news_or_grace (policy : AgePolicy) (before later : List Cycle)
    (evicting last : Cycle) (evicted back : Entry)
    (hordered : InOrder (before ++ [evicting] ++ (later ++ [last])))
    (h : ComesBack policy before evicting (later ++ [last]) evicted back) :
    News evicted.key evicted.lastSeenMillis (later ++ [last]) ∨
      (evicting.succeeded = true ∧ last.succeeded = false ∧
        back.lastSeenMillis ≤ evicted.lastSeenMillis ∧
        RememberedByRadio evicted.key back.lastSeenMillis (later ++ [last]) ∧
        isExpired last.nowMillis back.lastSeenMillis policy.maxEntryAge = true ∧
        isExpired last.nowMillis back.lastSeenMillis
          (policy.maxEntryAge + policy.scanInterval) = false) := by
  by_cases hnews : News evicted.key evicted.lastSeenMillis (later ++ [last])
  · exact Or.inl hnews
  · right
    have hfound := entryOf?_of_mem (Store.nodup_keys_ingestAll policy _) h.mem_entries
    rw [h.key_eq] at hfound
    obtain ⟨hle, hradio⟩ :=
      remnant_ingestAll policy before (later ++ [last]) evicting hordered h.mem_evicted hnews back hfound
    -- the entry that is back is young enough for the last cycle
    have hback := h.mem_entries
    rw [← List.append_assoc, Store.ingestAll_concat, Store.roster_ingest] at hback
    have hfresh := (Roster.mem_apply hback).2
    rw [Store.policy_ingestAll_empty] at hfresh
    have hnow : evicting.nowMillis ≤ last.nowMillis := hordered.le (by simp) (by simp)
    have hexpired := (Roster.mem_evictedBy.mp h.mem_evicted).2
    rw [Store.policy_ingestAll_empty] at hexpired
    have htooOld : isExpired last.nowMillis evicted.lastSeenMillis policy.maxEntryAge = true :=
      isExpired_of_le hexpired hnow le_rfl (policy.millis_maxEntryAge_le _)
    have hfailed : last.succeeded = false := not_succeeded_of_fresh htooOld hle hfresh
    refine ⟨?_, hfailed, hle, hradio, isExpired_of_le htooOld le_rfl hle le_rfl, ?_⟩
    · -- what a failed cycle evicts is too old for every later one
      cases hsucceeded : evicting.succeeded with
      | true => rfl
      | false =>
          rw [hsucceeded] at hexpired
          rw [isExpired_of_le hexpired hnow hle (policy.millis_effectiveMaxAge_le _)] at hfresh
          contradiction
    · rw [hfailed] at hfresh
      exact hfresh

/-- A network that comes back in the second of two failed cycles, brought by the first. -/
theorem comes_back_with_news_or_grace_twice_failed :
    let policy : AgePolicy := ⟨.ofSeconds 15, .ofSeconds 10⟩
    let seen (time : Int64) : Observation := ⟨"Cafe", "a", "", .openAccess, time, none, none⟩
    let before : List Cycle := [⟨[seen 0, seen 3000], true, 4000⟩]
    let evicting : Cycle := ⟨[], true, 20000⟩
    let later : List Cycle := [⟨[seen 1000], false, 21000⟩]
    let last : Cycle := ⟨[seen 0], false, 26000⟩
    let evicted : Entry := .ofObservation (seen 3000).key (seen 3000)
    let back : Entry := .ofObservation (seen 1000).key (seen 1000)
    InOrder (before ++ [evicting] ++ (later ++ [last])) ∧
      ComesBack policy before evicting (later ++ [last]) evicted back ∧
      RememberedByRadio evicted.key back.lastSeenMillis (later ++ [last]) := by
  intro policy seen before evicting later last evicted back
  have hordered : InOrder (before ++ [evicting] ++ (later ++ [last])) := by decide
  have hback : ComesBack policy before evicting (later ++ [last]) evicted back :=
    ⟨by decide +kernel, by decide +kernel, rfl⟩
  have hquiet : ¬ News evicted.key evicted.lastSeenMillis (later ++ [last]) := by decide
  rcases comes_back_with_news_or_grace policy before later evicting last evicted back hordered
    hback with hnews | hgrace
  · exact absurd hnews hquiet
  · exact ⟨hordered, hback, hgrace.2.2.2.1⟩

end History

end ScanRoster
