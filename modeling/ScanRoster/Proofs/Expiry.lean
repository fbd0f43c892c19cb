import Mathlib.Order.Defs.LinearOrder
import ScanRoster.AgePolicy
import ScanRoster.Entry

/-!
# The order of times and expiry

Times form a linear order, and what is old stays old: an expired observation is still expired at
a later time, an earlier one is expired with it, and so it is under a narrower window.  A failed
cycle never narrows the window.
-/

namespace ScanRoster

/-- Times are ordered as the numbers they count. -/
instance timeLinearOrder : LinearOrder Int64 where
  le_refl := Int64.le_refl
  le_trans _ _ _ := Int64.le_trans
  le_antisymm _ _ := Int64.le_antisymm
  lt_iff_le_not_ge _ _ := by
    rw [Int64.lt_iff_toInt_lt, Int64.le_iff_toInt_le, Int64.le_iff_toInt_le]
    omega
  le_total := Int64.le_total
  toDecidableLE := inferInstance
  toDecidableLT := inferInstance
  toDecidableEq := inferInstance

namespace Clock

/-- The time between two moments grows with the later one and shrinks with the earlier one. -/
theorem since_le_since {now now' earlier earlier' : Int64} (hnow : now ≤ now')
    (hearlier : earlier' ≤ earlier) : since now earlier ≤ since now' earlier' := by
  rw [Int64.le_iff_toInt_le] at hnow hearlier
  unfold since
  omega

theorem since_le_lastMillis (now earlier : Int64) : since now earlier ≤ lastMillis := by
  have hrange : firstMillis ≤ lastMillis := by decide
  unfold since
  omega

end Clock

theorem isExpired_iff {now lastSeen : Int64} {d : Duration} :
    isExpired now lastSeen d = true ↔ (d.millis : Int) < Clock.since now lastSeen := by
  simp [isExpired]

/-- What is expired stays so at later times, for earlier observations and in narrower windows. -/
theorem isExpired_of_le {now now' seen seen' : Int64} {d d' : Duration}
    (h : isExpired now seen d = true) (hnow : now ≤ now') (hseen : seen' ≤ seen)
    (hage : d'.millis ≤ d.millis) : isExpired now' seen' d' = true := by
  rw [isExpired_iff] at h ⊢
  have hsince := Clock.since_le_since hnow hseen
  omega

/-- The age of an entry, in its own 64 bits, is the time since it was seen last. -/
theorem Entry.toNat_ageMillis (e : Entry) (now : Int64) :
    ((e.ageMillis now).toNat : Int) = max 0 (Clock.since now e.lastSeenMillis) := by
  have hfits := Clock.since_le_lastMillis now e.lastSeenMillis
  have hlast : Clock.lastMillis = 0x7fffffffffffffff := rfl
  unfold ageMillis
  dsimp only
  split
  · rename_i hfuture
    exact (Int.max_eq_left (Int.le_of_lt hfuture)).symm
  · rename_i hpast
    have hsize : (Clock.since now e.lastSeenMillis).toNat < UInt64.size := by
      have h64 : UInt64.size = 18446744073709551616 := rfl
      omega
    rw [UInt64.toNat_ofNat_of_lt' hsize]
    omega

/-- An entry is too old for a window if its age is beyond it. -/
theorem Entry.isExpired_iff (e : Entry) {now : Int64} {d : Duration} :
    isExpired now e.lastSeenMillis d = true ↔ d.millis < (e.ageMillis now).toNat := by
  have hage := e.toNat_ageMillis now
  rw [ScanRoster.isExpired_iff]
  omega

namespace AgePolicy

/-- No cycle allows less than the age that a cycle which succeeded does. -/
theorem millis_maxEntryAge_le (p : AgePolicy) (succeeded : Bool) :
    p.maxEntryAge.millis ≤ (p.effectiveMaxAge succeeded).millis := by
  cases succeeded with
  | true => exact Nat.le_refl _
  | false =>
      have hfits := p.maxEntryAge.nanos_lt
      have hsum : (p.effectiveMaxAge false).nanos =
          min (p.maxEntryAge.nanos + p.scanInterval.nanos) Duration.longest.nanos :=
        Duration.nanos_add p.maxEntryAge p.scanInterval
      have hlongest : Duration.longest.nanos = 18446744073709551615999999999 := rfl
      exact Nat.div_le_div_right (by omega)

end AgePolicy

end ScanRoster
