import ScanRoster.Proofs.Roster.Outcome
import ScanRoster.Proofs.Roster.Report

/-!
# A cycle that comes twice

After a cycle every entry is what the cycle would make of it, and whatever else the cycle brings is
too old for it: an entry of that network, or of the observation itself, has just been evicted for its
age.  So the cycle finds nothing to do when it comes again (`Settled.apply`).
-/

namespace ScanRoster

/-- A window that keeps an entry keeps one that was seen later. -/
theorem AgePolicy.keeps_of_le {p : AgePolicy} {c : Cycle} {e e' : Entry} (h : p.keeps c e = true)
    (hseen : e.lastSeenMillis ≤ e'.lastSeenMillis) : p.keeps c e' = true := by
  rw [keeps_eq, Bool.not_eq_true', ← Bool.not_eq_true] at h ⊢
  intro hexpired
  exact h (isExpired_of_le hexpired le_rfl hseen le_rfl)

namespace Roster

/-- An entry that holds the freshest observation of its network stays as it is. -/
theorem refresh_ofObservation {k : NetworkKey} {observations : List Observation} {o : Observation}
    (h : freshest? k observations = some o) :
    refresh observations (.ofObservation k o) = .ofObservation k o := by
  rcases refresh_cases observations (.ofObservation k o) with ⟨heq, -⟩ | ⟨o', ho', -, heq⟩
  · exact heq
  · obtain rfl : o = o' := Option.some.inj (h.symm.trans ho')
    exact heq

theorem refresh_refresh (observations : List Observation) (e : Entry) :
    refresh observations (refresh observations e) = refresh observations e := by
  rcases refresh_cases observations e with ⟨heq, -⟩ | ⟨o, ho, -, heq⟩
  · rw [heq, heq]
  · rw [heq, refresh_ofObservation ho]

/-- A refreshed entry is as fresh as the observations of its network. -/
theorem le_lastSeenMillis_refresh_of_freshest {observations : List Observation} {e : Entry}
    {o : Observation} (h : freshest? e.key observations = some o) :
    o.observedAtMillis ≤ (refresh observations e).lastSeenMillis := by
  rcases refresh_cases observations e with ⟨heq, holder⟩ | ⟨o', ho', -, heq⟩ <;> rw [heq]
  · exact (holder o h).le
  · obtain rfl : o = o' := Option.some.inj (h.symm.trans ho')
    exact le_rfl

/-- A cycle has nothing to do: its observations change no entry, none is too old for it, and what it
would add is. -/
structure Settled (r : Roster) (c : Cycle) : Prop where
  refreshed : ∀ e ∈ r.entries, refresh c.observations e = e
  kept : ∀ e ∈ r.entries, r.policy.keeps c e = true
  stale : ∀ e ∈ newcomers c.observations r.entries, r.policy.keeps c e = false

theorem Settled.apply {r : Roster} {c : Cycle} (h : r.Settled c)
    (hdistinct : (r.entries.map (·.key)).Nodup) : (r.apply c).1 = r := by
  have hentries : (r.apply c).1.entries = r.entries := by
    rw [entries_apply_eq hdistinct, List.map_congr_left h.refreshed, List.map_id',
      List.filter_append, List.filter_eq_self.mpr h.kept, List.filter_eq_nil_iff.mpr,
      List.append_nil]
    intro e he
    simp [h.stale e he]
  exact congrArg (Roster.mk r.policy) hentries

variable {r : Roster} (hdistinct : (r.entries.map (·.key)).Nodup) (c : Cycle)
include hdistinct

/-- The entries after a cycle are the refreshed ones and the newcomers, less what is too old. -/
theorem mem_apply_iff {e : Entry} :
    e ∈ (r.apply c).1.entries ↔
      ((∃ e₀ ∈ r.entries, refresh c.observations e₀ = e) ∨ e ∈ newcomers c.observations r.entries) ∧
        r.policy.keeps c e = true := by
  rw [entries_apply_eq hdistinct, List.mem_filter, List.mem_append, List.mem_map]

theorem refresh_of_mem_apply {e : Entry} (h : e ∈ (r.apply c).1.entries) :
    refresh c.observations e = e := by
  rcases ((mem_apply_iff hdistinct c).mp h).1 with ⟨e₀, -, rfl⟩ | hnew
  · exact refresh_refresh c.observations e₀
  · obtain ⟨-, o, ho, heq⟩ := mem_newcomers_iff.mp hnew
    rw [heq]
    exact refresh_ofObservation ho

/-- What a cycle would add after itself is too old for it. -/
theorem not_keeps_of_mem_newcomers_apply {e : Entry}
    (h : e ∈ newcomers c.observations (r.apply c).1.entries) : r.policy.keeps c e = false := by
  obtain ⟨hgone, o, ho, heq⟩ := mem_newcomers_iff.mp h
  rw [← Bool.not_eq_true]
  intro hkept
  apply hgone
  by_cases hold : e.key ∈ r.entries.map (·.key)
  · -- the entry that the network had before, refreshed, is no older
    obtain ⟨e₀, he₀, hkey⟩ := List.mem_map.mp hold
    have hle : e.lastSeenMillis ≤ (refresh c.observations e₀).lastSeenMillis := by
      rw [heq]
      exact le_lastSeenMillis_refresh_of_freshest (hkey ▸ ho)
    have hmem : refresh c.observations e₀ ∈ (r.apply c).1.entries :=
      (mem_apply_iff hdistinct c).mpr ⟨Or.inl ⟨e₀, he₀, rfl⟩, AgePolicy.keeps_of_le hkept hle⟩
    exact List.mem_map.mpr ⟨_, hmem, (key_refresh c.observations e₀).trans hkey⟩
  · -- a newcomer already the first time
    have hnew : e ∈ newcomers c.observations r.entries := mem_newcomers_iff.mpr ⟨hold, o, ho, heq⟩
    exact List.mem_map_of_mem ((mem_apply_iff hdistinct c).mpr ⟨Or.inr hnew, hkept⟩)

/-- A cycle leaves nothing to do for itself. -/
theorem settled_apply : (r.apply c).1.Settled c where
  refreshed := fun _ => refresh_of_mem_apply hdistinct c
  kept := fun _ he => ((mem_apply_iff hdistinct c).mp he).2
  stale := fun _ => not_keeps_of_mem_newcomers_apply hdistinct c

theorem apply_apply : ((r.apply c).1.apply c).1 = (r.apply c).1 :=
  (settled_apply hdistinct c).apply (nodup_keys_apply c hdistinct)

end Roster

namespace Store

/-- A cycle that comes again at once leaves the entries exactly as they are, each at its place, and
is published once more.  What it inserts it evicts, and it retains as many entries within the same
age. -/
theorem redelivery_changes_nothing (s : Store) (c : Cycle)
    (hdistinct : (s.roster.entries.map (·.key)).Nodup) :
    let once := s.ingest c
    let twice := once.1.ingest c
    twice.1.roster = once.1.roster ∧
    twice.1.feed.snapshot = once.1.feed.snapshot ∧
    twice.1.feed.version = once.1.feed.version + 1 ∧
    twice.2.inserted = twice.2.evicted ∧
    twice.2.retained = once.2.retained ∧
    twice.2.effectiveMaxAge = once.2.effectiveMaxAge := by
  intro once twice
  have hroster : twice.1.roster = once.1.roster := Roster.apply_apply hdistinct c
  have hretained : twice.2.retained = once.1.roster.entries.length := by
    rw [← hroster]
    rfl
  have hbalance : twice.2.retained + twice.2.evicted =
      once.1.roster.entries.length + twice.2.inserted :=
    Roster.retained_add_evicted_apply once.1.roster c
  refine ⟨hroster, congrArg Roster.entries hroster, rfl, ?_, hretained, rfl⟩
  omega

/-- One entry is replaced by an equally fresh observation, one is newer than what comes, one is
refreshed and too old all the same, and one network is new and too old: the last two are inserted
and evicted when the cycle comes again. -/
theorem redelivery_changes_nothing_too_old :
    let seen (ssid bssid : String) (time : Int64) : Observation :=
      ⟨ssid, bssid, "", .openAccess, time, none, none⟩
    let s := ((empty ⟨.ofSeconds 15, .ofSeconds 10⟩).ingest ⟨[seen "Bar" "a" 1000,
      seen "Cafe" "a" 8000, seen "Loft" "a" 9000], true, 10000⟩).1
    let c : Cycle := ⟨[seen "Quay" "a" 1000, seen "Loft" "b" 8500, seen "Cafe" "b" 8000,
      seen "Bar" "b" 2000, seen "Cafe" "c" 8000], true, 20000⟩
    (s.roster.entries.map (·.key)).Nodup ∧
      ((s.ingest c).1.ingest c).1.roster.entries.map
        (fun e => (e.key.ssid, e.representative.bssid)) = [("Cafe", "b"), ("Loft", "a")] ∧
      ((s.ingest c).2.inserted, (s.ingest c).2.evicted) = (1, 2) ∧
      ((s.ingest c).1.ingest c).2.inserted = ((s.ingest c).1.ingest c).2.evicted ∧
      ((s.ingest c).1.ingest c).2.evicted = 2 := by
  intro seen s c
  have hdistinct : (s.roster.entries.map (·.key)).Nodup := by decide +kernel
  have hagain := redelivery_changes_nothing s c hdistinct
  refine ⟨hdistinct, ?_, by decide +kernel, hagain.2.2.2.1, by decide +kernel⟩
  rw [hagain.1]
  decide +kernel

end Store

end ScanRoster
