import Mathlib.Data.List.Forall2
import ScanRoster.Proofs.Roster.Consistency

/-!
# Wider windows

Two stores take in the same observations at the same times, and one of them allows a higher age in
every cycle.  They evict in different cycles, and so the same observation may be new to one of them
and too old to count for the other.  Yet whatever the narrower store has, the wider one has too, and
seen no earlier; times may go back as they like.
-/

namespace ScanRoster

/-- An observation leaves an entry that is seen no earlier than the observation or than the entry
before it, and that takes its time from one of the two. -/
theorem exists_refreshed?_some (k : NetworkKey) (old : Option Entry) (o : Observation) :
    ∃ e, refreshed? k old (some o) = some e ∧ o.observedAtMillis ≤ e.lastSeenMillis ∧
      (∀ e₀ ∈ old, e₀.lastSeenMillis ≤ e.lastSeenMillis) ∧
      (e.lastSeenMillis = o.observedAtMillis ∨ e ∈ old) := by
  cases old with
  | none => exact ⟨_, rfl, le_rfl, nofun, Or.inl rfl⟩
  | some e₀ =>
      rw [refreshed?_some_some]
      by_cases holder : o.observedAtMillis < e₀.lastSeenMillis
      · rw [if_pos holder]
        refine ⟨e₀, rfl, holder.le, fun e he => ?_, Or.inr rfl⟩
        rw [Option.some.inj he]
      · rw [if_neg holder]
        refine ⟨_, rfl, le_rfl, fun e he => ?_, Or.inl rfl⟩
        rw [← Option.some.inj he]
        exact not_lt.mp holder

namespace AgePolicy

/-- Longer ages, and more cycles that fail, widen the window of a cycle. -/
theorem nanos_effectiveMaxAge_le {p q : AgePolicy} (hage : p.maxEntryAge.nanos ≤ q.maxEntryAge.nanos)
    (hinterval : p.scanInterval.nanos ≤ q.scanInterval.nanos) {succeeded succeeded' : Bool}
    (hfails : succeeded = false → succeeded' = false) :
    (p.effectiveMaxAge succeeded).nanos ≤ (q.effectiveMaxAge succeeded').nanos := by
  have hfits : p.maxEntryAge.nanos ≤ Duration.longest.nanos := Nat.le_of_lt_succ p.maxEntryAge.nanos_lt
  have hsum (r : AgePolicy) : (r.effectiveMaxAge false).nanos =
      min (r.maxEntryAge.nanos + r.scanInterval.nanos) Duration.longest.nanos :=
    Duration.nanos_add r.maxEntryAge r.scanInterval
  cases succeeded with
  | true =>
      cases succeeded' with
      | true => exact hage
      | false =>
          show p.maxEntryAge.nanos ≤ _
          rw [hsum]
          omega
  | false =>
      rw [hfails rfl, hsum, hsum]
      omega

end AgePolicy

namespace Window

/-- Whether two cycles bring the same at the same time, and the second one, under its policy, allows
at least the age that the first one does under its own. -/
structure Widens (p q : AgePolicy) (c c' : Cycle) : Prop where
  observations_eq : c'.observations = c.observations
  now_eq : c'.nowMillis = c.nowMillis
  age_le : (p.effectiveMaxAge c.succeeded).nanos ≤ (q.effectiveMaxAge c'.succeeded).nanos

/-- Whether two cycles are the same but for their flags, and the second one has failed where the
first one has. -/
structure FailsMore (c c' : Cycle) : Prop where
  observations_eq : c'.observations = c.observations
  now_eq : c'.nowMillis = c.nowMillis
  failed : c.succeeded = false → c'.succeeded = false

instance (c c' : Cycle) : Decidable (FailsMore c c') :=
  decidable_of_iff (c'.observations = c.observations ∧ c'.nowMillis = c.nowMillis ∧
      (c.succeeded = false → c'.succeeded = false))
    ⟨fun h => ⟨h.1, h.2.1, h.2.2⟩, fun h => ⟨h.observations_eq, h.now_eq, h.failed⟩⟩

/-- Whether every network of some entries has an entry among some others too, seen no earlier. -/
def KeptIn (narrow wide : List Entry) : Prop :=
  ∀ e ∈ narrow, ∃ e' ∈ wide, e'.key = e.key ∧ e.lastSeenMillis ≤ e'.lastSeenMillis

/-- Whether the entry of one network is kept. -/
def Retained (narrow wide : Option Entry) : Prop :=
  ∀ e ∈ narrow, ∃ e' ∈ wide, e.lastSeenMillis ≤ e'.lastSeenMillis

/-- How the entries of a narrower store relate to those of a wider one. -/
structure Within (narrow wide : List Entry) : Prop where
  nodup_narrow : (narrow.map (·.key)).Nodup
  nodup_wide : (wide.map (·.key)).Nodup
  retained : ∀ k, Retained (entryOf? k narrow) (entryOf? k wide)

variable {p q : AgePolicy} {c c' : Cycle} {cycles cycles' : List Cycle}

theorem FailsMore.widens (h : FailsMore c c') (hage : p.maxEntryAge.nanos ≤ q.maxEntryAge.nanos)
    (hinterval : p.scanInterval.nanos ≤ q.scanInterval.nanos) : Widens p q c c' :=
  ⟨h.observations_eq, h.now_eq, AgePolicy.nanos_effectiveMaxAge_le hage hinterval h.failed⟩

/-! ## One network -/

section

variable {narrow wide : Option Entry}

/-- Both sides take in an observation, or one of them has something newer. -/
theorem Retained.refresh (h : Retained narrow wide) (k : NetworkKey) (fresh : Option Observation) :
    Retained (refreshed? k narrow fresh) (refreshed? k wide fresh) := by
  cases fresh with
  | none =>
      rw [refreshed?_none, refreshed?_none]
      exact h
  | some o =>
      intro e he
      obtain ⟨e₁, heq, -, -, hsource⟩ := exists_refreshed?_some k narrow o
      obtain rfl := Option.some.inj (heq.symm.trans he)
      obtain ⟨e', heq', htaken, hnewer, -⟩ := exists_refreshed?_some k wide o
      refine ⟨e', heq', ?_⟩
      rcases hsource with hnew | hold
      · rw [hnew]
        exact htaken
      · obtain ⟨e₀, he₀, hle⟩ := h e₁ hold
        exact hle.trans (hnewer e₀ he₀)

/-- What the wider side evicts, the narrower one does too. -/
theorem Retained.evict (h : Retained narrow wide) (now : Int64) {d d' : Duration}
    (hage : d.millis ≤ d'.millis) :
    Retained (narrow.filter fun e => !isExpired now e.lastSeenMillis d)
      (wide.filter fun e => !isExpired now e.lastSeenMillis d') := by
  intro e he
  obtain ⟨hmem, hkept⟩ := Option.mem_filter_iff.mp he
  obtain ⟨e', hmem', hle⟩ := h e hmem
  refine ⟨e', Option.mem_filter_iff.mpr ⟨hmem', ?_⟩, hle⟩
  rw [Bool.not_eq_true'] at hkept ⊢
  rw [← Bool.not_eq_true] at hkept ⊢
  exact fun hexpired => hkept (isExpired_of_le hexpired le_rfl hle hage)

end

/-! ## All networks -/

theorem Within.keptIn {narrow wide : List Entry} (h : Within narrow wide) : KeptIn narrow wide := by
  intro e he
  obtain ⟨e', hfound, hle⟩ := h.retained e.key e (entryOf?_of_mem h.nodup_narrow he)
  exact ⟨e', mem_of_entryOf? hfound, key_of_entryOf? hfound, hle⟩

/-- One cycle. -/
theorem Within.apply {r r' : Roster} (h : Within r.entries r'.entries)
    (hwidens : Widens r.policy r'.policy c c') :
    Within (r.apply c).1.entries (r'.apply c').1.entries where
  nodup_narrow := Roster.nodup_keys_apply c h.nodup_narrow
  nodup_wide := Roster.nodup_keys_apply c' h.nodup_wide
  retained k := by
    rw [Roster.entryOf?_apply h.nodup_narrow, Roster.entryOf?_apply h.nodup_wide,
      hwidens.observations_eq, hwidens.now_eq]
    exact ((h.retained k).refresh k _).evict _ (Nat.div_le_div_right hwidens.age_le)

/-- A run of cycles. -/
theorem Within.ingestAll {s s' : Store} (h : Within s.roster.entries s'.roster.entries)
    (hwidens : List.Forall₂ (Widens s.roster.policy s'.roster.policy) cycles cycles') :
    Within (s.ingestAll cycles).roster.entries (s'.ingestAll cycles').roster.entries := by
  generalize hp : s.roster.policy = p at hwidens
  generalize hq : s'.roster.policy = q at hwidens
  induction hwidens generalizing s s' with
  | nil => exact h
  | cons hfirst _ ih =>
      rw [← hp, ← hq] at hfirst
      -- a cycle leaves the policies as they are
      exact ih (h.apply hfirst) hp hq

theorem keptIn_ingestAll_empty (hwidens : List.Forall₂ (Widens p q) cycles cycles') (n : Nat) :
    KeptIn ((Store.empty p).ingestAll (cycles.take n)).roster.entries
      ((Store.empty q).ingestAll (cycles'.take n)).roster.entries := by
  have hempty : Within (Store.empty p).roster.entries (Store.empty q).roster.entries :=
    ⟨List.nodup_nil, List.nodup_nil, fun _ => nofun⟩
  exact (hempty.ingestAll (List.forall₂_take n hwidens)).keptIn

/-- Of two stores that begin empty and take in the same observations at the same times, the one that
allows at least the other's age in every cycle has after every cycle all networks that the other has,
seen no earlier.  It does so where its policy has the longer durations and where more of its cycles
fail. -/
theorem wider_window_keeps_entries (p q : AgePolicy) (cycles cycles' : List Cycle) :
    (List.Forall₂ (Widens p q) cycles cycles' → ∀ n,
      KeptIn ((Store.empty p).ingestAll (cycles.take n)).roster.entries
        ((Store.empty q).ingestAll (cycles'.take n)).roster.entries) ∧
    (p.maxEntryAge.nanos ≤ q.maxEntryAge.nanos → p.scanInterval.nanos ≤ q.scanInterval.nanos →
      List.Forall₂ FailsMore cycles cycles' → ∀ n,
      KeptIn ((Store.empty p).ingestAll (cycles.take n)).roster.entries
        ((Store.empty q).ingestAll (cycles'.take n)).roster.entries) := by
  refine ⟨fun hwidens n => keptIn_ingestAll_empty hwidens n, fun hage hinterval hfails n => ?_⟩
  have hwidens : List.Forall₂ (Widens p q) cycles cycles' :=
    hfails.imp fun _ _ hcycle => hcycle.widens hage hinterval
  exact keptIn_ingestAll_empty hwidens n

/-- The wider store keeps an entry that the narrower one evicts.  Later the clock goes back, and an
observation that is new to the narrower store is too old to count for the wider one. -/
theorem wider_window_keeps_entries_clock_back :
    let policy : AgePolicy := ⟨.ofSeconds 15, .ofSeconds 10⟩
    let seen (time : Int64) : Observation := ⟨"Cafe", "a", "", .openAccess, time, none, none⟩
    let entry (time : Int64) : Entry := .ofObservation (seen time).key (seen time)
    let told (failed : Bool) : List Cycle :=
      [⟨[seen 5000], true, 5000⟩, ⟨[], !failed, 21000⟩, ⟨[seen 4000], true, 10000⟩]
    let narrow := ((Store.empty policy).ingestAll ((told false).take 3)).roster.entries
    let wide := ((Store.empty policy).ingestAll ((told true).take 3)).roster.entries
    List.Forall₂ (Widens policy policy) (told false) (told true) ∧
      List.Forall₂ FailsMore (told false) (told true) ∧
      narrow = [entry 4000] ∧ wide = [entry 5000] ∧ KeptIn narrow wide := by
  intro policy seen entry told narrow wide
  have hfails : List.Forall₂ FailsMore (told false) (told true) := by decide
  have hwidens : List.Forall₂ (Widens policy policy) (told false) (told true) :=
    hfails.imp fun _ _ hcycle => hcycle.widens le_rfl le_rfl
  have hkept := wider_window_keeps_entries policy policy (told false) (told true)
  exact ⟨hwidens, hfails, by decide +kernel, by decide +kernel, hkept.2 le_rfl le_rfl hfails 3⟩

end Window

end ScanRoster
