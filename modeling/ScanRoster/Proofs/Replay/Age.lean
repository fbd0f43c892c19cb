import ScanRoster.Proofs.Replay.Fold

/-!
# One test of age

The roster, the age of an entry and the filter of a replay each have a test of their own for what is
too old, with bounds of their own: a difference clamped to 64 bits with a sign, an age in 64 bits
without one, and a window cut off at the longest that these can hold.  None of the bounds shows: the
tests agree, and they compare the exact difference (`age_tests_agree`).
-/

namespace ScanRoster

namespace Clock

/-- The clamp does not show in a comparison with anything that is neither below the first time nor as
late as the last. -/
theorem lt_since_iff {n : Int} (hfirst : firstMillis ≤ n) (hlast : n < lastMillis)
    {now earlier : Int64} : n < since now earlier ↔ n < now.toInt - earlier.toInt := by
  unfold since
  omega

end Clock

/-- A window shorter than the last time is compared with the exact difference. -/
theorem isExpired_iff_of_lt {now lastSeen : Int64} {d : Duration}
    (h : d.millis < 0x7fffffffffffffff) :
    isExpired now lastSeen d = true ↔ (d.millis : Int) < now.toInt - lastSeen.toInt := by
  have hfirst : Clock.firstMillis ≤ d.millis := Int.le_trans (by decide) (Int.natCast_nonneg _)
  have hlast : (d.millis : Int) < Clock.lastMillis := by
    have hvalue : Clock.lastMillis = 0x7fffffffffffffff := rfl
    omega
  rw [isExpired_iff, Clock.lt_since_iff hfirst hlast]

/-- Nothing is too old for a window as long as all time or longer. -/
theorem isExpired_eq_false_of_le {now lastSeen : Int64} {d : Duration}
    (h : 0x7fffffffffffffff ≤ d.millis) : isExpired now lastSeen d = false := by
  rw [← Bool.not_eq_true, isExpired_iff]
  have hsince := Clock.since_le_lastMillis now lastSeen
  have hvalue : Clock.lastMillis = 0x7fffffffffffffff := rfl
  omega

namespace Store

/-- What a cycle leaves in a store is not too old for the age that the cycle allows. -/
theorem isExpired_of_mem_ingest {s : Store} {c : Cycle} {e : Entry}
    (h : e ∈ (s.ingest c).1.roster.entries) :
    isExpired c.nowMillis e.lastSeenMillis (s.roster.policy.effectiveMaxAge c.succeeded) = false := by
  rw [roster_ingest] at h
  exact (Roster.mem_apply h).2

end Store

namespace Replay

/-- The filter of a window of time: what was seen within as many milliseconds, of which there are no
more than 64 bits can hold. -/
def windowFilter (now : Int64) (d : Duration) : EntryFilter :=
  .seenWithin now (UInt64.ofNat (min d.millis (UInt64.size - 1)))

/-- A selection with a window has the filter of the window after its other filters. -/
theorem Selection.filters_window (s : Selection) (now : Int64) (d : Duration) :
    { s with seenWithin := some d }.filters now =
      { s with seenWithin := none }.filters now ++ [windowFilter now d] := by
  simp [filters, windowFilter]

/-- The filter of a window rejects what is too old for it. -/
theorem accepts_windowFilter (now : Int64) (d : Duration) (e : Entry) :
    (windowFilter now d).accepts e = !isExpired now e.lastSeenMillis d := by
  rw [Bool.eq_iff_iff, Bool.not_eq_true', ← Bool.not_eq_true, Entry.isExpired_iff, Nat.not_lt]
  exact decide_eq_true_iff.trans (le_millis_iff _ d)

/-- Whatever the times and the duration, these agree: an entry is too old by the test of the roster,
its age is above the duration, and the filter of a window of that duration rejects it.  Below
2^63 - 1 milliseconds each of them compares the exact difference of the times, and from there on
nothing is too old.  So what a cycle leaves in a store is let through, at the time of the cycle, by
the filter of every window that is no shorter than the age that the cycle allows. -/
theorem age_tests_agree (e : Entry) (now : Int64) (d : Duration) :
    (isExpired now e.lastSeenMillis d = true ↔ d.millis < (e.ageMillis now).toNat) ∧
    (∀ s : Selection, { s with seenWithin := some d }.filters now =
      { s with seenWithin := none }.filters now ++ [windowFilter now d]) ∧
    ((windowFilter now d).accepts e = false ↔ isExpired now e.lastSeenMillis d = true) ∧
    (d.millis < 0x7fffffffffffffff → (isExpired now e.lastSeenMillis d = true ↔
      (d.millis : Int) < now.toInt - e.lastSeenMillis.toInt)) ∧
    (0x7fffffffffffffff ≤ d.millis → isExpired now e.lastSeenMillis d = false) ∧
    (∀ (s : Store) (c : Cycle), c.nowMillis = now → e ∈ (s.ingest c).1.roster.entries →
      (s.roster.policy.effectiveMaxAge c.succeeded).millis ≤ d.millis →
      (windowFilter now d).accepts e = true) := by
  refine ⟨e.isExpired_iff, fun s => s.filters_window now d, ?_, isExpired_iff_of_lt,
    isExpired_eq_false_of_le, ?_⟩
  · rw [accepts_windowFilter, Bool.not_eq_false']
  · rintro s c rfl hmem hwindow
    have hkept := Store.isExpired_of_mem_ingest hmem
    rw [accepts_windowFilter, Bool.not_eq_true', ← Bool.not_eq_true]
    intro hexpired
    have hnarrow := isExpired_of_le hexpired le_rfl le_rfl hwindow
    rw [hkept] at hnarrow
    exact Bool.false_ne_true hnarrow

/-- An entry from the first time, looked at at the last time, and an entry that a failed cycle has
left. -/
theorem age_tests_agree_extremes :
    let network (seen : Int64) : Entry :=
      .ofObservation ⟨"Cafe", .openAccess⟩ ⟨"Cafe", "a", "", .openAccess, seen, none, none⟩
    let policy : AgePolicy := ⟨.ofSeconds 15, .ofSeconds 10⟩
    let s : Store := ⟨⟨policy, [network 0]⟩, .empty⟩
    let c : Cycle := ⟨[], false, 20000⟩
    isExpired Int64.maxValue (network Int64.minValue).lastSeenMillis
      (.ofMillis 0x7ffffffffffffffe) = true ∧
    isExpired Int64.maxValue (network Int64.minValue).lastSeenMillis
      (.ofMillis 0x7fffffffffffffff) = false ∧
    network 0 ∈ (s.ingest c).1.roster.entries ∧
    (policy.effectiveMaxAge c.succeeded).millis ≤ (Duration.ofSeconds 25).millis ∧
    (windowFilter 20000 (.ofSeconds 25)).accepts (network 0) = true ∧
    (windowFilter 20000 (.ofSeconds 15)).accepts (network 0) = false := by
  intro network policy s c
  have hshort : (Duration.ofMillis 0x7ffffffffffffffe).millis < 0x7fffffffffffffff := by
    decide +kernel
  have hlong : 0x7fffffffffffffff ≤ (Duration.ofMillis 0x7fffffffffffffff).millis := by
    decide +kernel
  have hmem : network 0 ∈ (s.ingest c).1.roster.entries := by decide +kernel
  have hwindow : (policy.effectiveMaxAge c.succeeded).millis ≤ (Duration.ofSeconds 25).millis := by
    decide +kernel
  refine ⟨?_, ?_, hmem, hwindow, ?_, ?_⟩
  · refine ((age_tests_agree (network Int64.minValue) Int64.maxValue _).2.2.2.1 hshort).mpr ?_
    decide +kernel
  · exact (age_tests_agree (network Int64.minValue) Int64.maxValue _).2.2.2.2.1 hlong
  · exact (age_tests_agree (network 0) 20000 _).2.2.2.2.2 s c rfl hmem hwindow
  · exact (age_tests_agree (network 0) 20000 _).2.2.1.mpr (by decide +kernel)

end Replay

end ScanRoster
