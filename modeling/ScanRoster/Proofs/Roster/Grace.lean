import ScanRoster.Proofs.Roster.Outcome
import ScanRoster.Proofs.Roster.Return

/-!
# The grace of a failed cycle

A cycle that fails looks back one scan interval further.  So where it comes within one scan interval
of a cycle that succeeded, it evicts nothing that this one has left, whatever it brings.  Whole
milliseconds of two durations never make more than those of their sum, and where the sum is cut off
no age reaches it, so this holds up to the ends of the clock and of durations.
-/

namespace ScanRoster

/-- The whole milliseconds of a sum are those of its parts at least, or more than any age. -/
theorem Duration.min_millis_le_millis_add (a b : Duration) :
    min ((a.millis : Int) + b.millis) Clock.lastMillis ≤ (a + b).millis := by
  have hsum := Duration.nanos_add a b
  have hlongest : Duration.longest.nanos = 18446744073709551615999999999 := rfl
  have hlast : Clock.lastMillis = 0x7fffffffffffffff := rfl
  unfold Duration.millis
  omega

/-- What is not too old for a window is not too old for one that is longer by the time that has passed
since. -/
theorem isExpired_add_eq_false {now now' seen seen' : Int64} {d interval : Duration}
    (h : isExpired now seen d = false) (hseen : seen ≤ seen')
    (hnear : now'.toInt - now.toInt ≤ interval.millis) :
    isExpired now' seen' (d + interval) = false := by
  rw [← Bool.not_eq_true, isExpired_iff, Int.not_lt] at h ⊢
  rw [Int64.le_iff_toInt_le] at hseen
  have hbound := Duration.min_millis_le_millis_add d interval
  have hlast : Clock.lastMillis = 0x7fffffffffffffff := rfl
  have hfirst : Clock.firstMillis = -0x8000000000000000 := rfl
  unfold Clock.since at h ⊢
  omega

namespace Roster

/-- What a cycle that succeeds has left, a failed one keeps that comes within one scan interval. -/
theorem keeps_refresh {r : Roster} {c c' : Cycle} (hsucceeded : c.succeeded = true)
    (hfailed : c'.succeeded = false)
    (hnear : c'.nowMillis.toInt - c.nowMillis.toInt ≤ r.policy.scanInterval.millis) {e : Entry}
    (he : e ∈ (r.apply c).1.entries) :
    r.policy.keeps c' (refresh c'.observations e) = true := by
  have hfresh := (mem_apply he).2
  rw [hsucceeded] at hfresh
  rw [AgePolicy.keeps_eq, hfailed, Bool.not_eq_true']
  exact isExpired_add_eq_false hfresh (le_lastSeenMillis_refresh _ e) hnear

end Roster

namespace Store

open Roster

/-- A failed cycle that comes within one scan interval of a cycle that succeeded evicts no entry that
this one has left.  Each of them is still there, at its place and before everything that is new, and
refreshed by what the failed cycle brings of its network. -/
theorem grace_keeps_entries (s : Store) (c c' : Cycle)
    (hdistinct : (s.roster.entries.map (·.key)).Nodup) (hsucceeded : c.succeeded = true)
    (hfailed : c'.succeeded = false)
    (hnear : c'.nowMillis.toInt - c.nowMillis.toInt ≤ s.roster.policy.scanInterval.millis) :
    let before := (s.ingest c).1.roster
    let after := ((s.ingest c).1.ingest c').1.roster
    (∀ e ∈ before.evictedBy c', e.key ∉ before.entries.map (·.key)) ∧
    before.entries.map (refresh c'.observations) <+: after.entries ∧
    before.entries.map (·.key) <+: after.entries.map (·.key) := by
  intro before after
  have hnodup : (before.entries.map (·.key)).Nodup := nodup_keys_apply c hdistinct
  have hkept : ∀ e ∈ before.entries.map (refresh c'.observations), before.policy.keeps c' e = true := by
    intro e he
    obtain ⟨e₀, he₀, rfl⟩ := List.mem_map.mp he
    exact keeps_refresh hsucceeded hfailed hnear he₀
  have hafter : after.entries = before.entries.map (refresh c'.observations) ++
      (newcomers c'.observations before.entries).filter (before.policy.keeps c') := by
    refine (entries_apply_eq hnodup c').trans ?_
    rw [List.filter_append, List.filter_eq_self.mpr hkept]
  have hprefix : before.entries.map (refresh c'.observations) <+: after.entries :=
    ⟨_, hafter.symm⟩
  refine ⟨fun e he => ?_, hprefix, ?_⟩
  · obtain ⟨hplaced, hexpired⟩ := mem_evictedBy.mp he
    rw [placeAll_aggregate hnodup] at hplaced
    rcases List.mem_append.mp hplaced with hold | hnew
    · have hstays := hkept e hold
      rw [AgePolicy.keeps_eq, hexpired] at hstays
      contradiction
    · exact (mem_newcomers_iff.mp hnew).1
  · have hsame : (·.key) ∘ refresh c'.observations = (·.key) := funext (key_refresh c'.observations)
    have hkeys := hprefix.map (·.key)
    rwa [List.map_map, hsame] at hkeys

/-- Durations with a rest below one millisecond, and a failed cycle at the last moment that counts: it
brings again what the radio remembers, an older observation among it, and a network too old for it. -/
theorem grace_keeps_entries_last_moment :
    let policy : AgePolicy := ⟨⟨15000600000, by decide⟩, ⟨10000700000, by decide⟩⟩
    let seen (ssid bssid : String) (time : Int64) : Observation :=
      ⟨ssid, bssid, "", .openAccess, time, none, none⟩
    let s := ((empty policy).ingest ⟨[seen "Cafe" "a" 0, seen "Bar" "a" 3000], true, 3000⟩).1
    let c : Cycle := ⟨[], true, 15000⟩
    let c' : Cycle := ⟨[seen "Quay" "a" (-2), seen "Bar" "b" 2000, seen "Pier" "a" 20000,
      seen "Cafe" "b" 0], false, 25000⟩
    (s.roster.entries.map (·.key)).Nodup ∧
      c'.nowMillis.toInt - c.nowMillis.toInt ≤ s.roster.policy.scanInterval.millis ∧
      ((s.ingest c).1.roster.evictedBy c').map (·.key.ssid) = ["Quay"] ∧
      (s.ingest c).1.roster.entries.map (·.key.ssid) = ["Cafe", "Bar"] ∧
      (s.ingest c).1.roster.entries.map (·.key) <+:
        ((s.ingest c).1.ingest c').1.roster.entries.map (·.key) := by
  intro policy seen s c c'
  have hdistinct : (s.roster.entries.map (·.key)).Nodup := by decide +kernel
  have hnear : c'.nowMillis.toInt - c.nowMillis.toInt ≤ s.roster.policy.scanInterval.millis := by
    decide +kernel
  exact ⟨hdistinct, hnear, by decide +kernel, by decide +kernel,
    (grace_keeps_entries s c c' hdistinct rfl rfl hnear).2.2⟩

end Store

end ScanRoster
