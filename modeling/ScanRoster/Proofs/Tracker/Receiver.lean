import ScanRoster.Tracker.Broadcast

/-!
# Receivers of the broadcast

A broadcast is fixed by the list of all notices ever sent, its log.  What a receiver is given next
depends on the part of the log that it has not seen: the first of these notices while at most 256
are left, and else a count of all but the latest 256, which it has lost.  So what a receiver was
given so far covers the log up to its place, in order and with nothing twice.
-/

namespace ScanRoster

namespace Broadcast

/-- The broadcast after some notices were sent. -/
def ofLog (log : List Notice) : Broadcast :=
  ⟨log.length, log.drop (log.length - capacity)⟩

theorem empty_eq_ofLog : empty = ofLog [] := rfl

theorem send_ofLog (log : List Notice) (n : Notice) : (ofLog log).send n = ofLog (log ++ [n]) := by
  have hkept : log.drop (log.length - capacity) ++ [n] =
      (log ++ [n]).drop (log.length - capacity) :=
    (List.drop_append_of_le_length (Nat.sub_le _ _)).symm
  have hoverflow : log.length - capacity +
      ((log.length + 1) - (log.length - capacity) - capacity) = log.length + 1 - capacity := by
    omega
  simp only [send, ofLog, hkept, List.drop_drop, List.length_drop, List.length_append,
    List.length_singleton, hoverflow]

theorem oldest_ofLog (log : List Notice) : (ofLog log).oldest = log.length - capacity := by
  simp only [oldest, ofLog, List.length_drop]
  omega

/-- What is kept stands at its place in the log. -/
theorem getElem?_kept_ofLog (log : List Notice) {place : Nat}
    (hplace : log.length - capacity ≤ place) :
    (ofLog log).kept[place - (log.length - capacity)]? = log[place]? := by
  rw [ofLog, List.getElem?_drop, Nat.add_sub_cancel' hplace]

/-- What a receiver is given is the notice at its place. -/
theorem getElem?_of_receive {log : List Notice} {r : Receiver} {n : Notice}
    (h : ((ofLog log).receive r).1 = some (.notice n)) : log[r.next]? = some n := by
  unfold receive at h
  rw [oldest_ofLog] at h
  split at h
  · simp at h
  · rename_i hkept
    rw [getElem?_kept_ofLog log (Nat.le_of_not_lt hkept)] at h
    split at h
    · rename_i n' hnext
      obtain rfl : n' = n := by simpa using h
      exact hnext
    · simp at h

/-- What a receiver is given next, and what is left of the notices that it has not seen. -/
def due (unseen : List Notice) : Option Received × List Notice :=
  if capacity < unseen.length then
    (some (.lagged (unseen.length - capacity)), unseen.drop (unseen.length - capacity))
  else
    match unseen with
    | [] => (none, [])
    | n :: rest => (some (.notice n), rest)

/-- A receiver sees the log from its place on, and nothing else of the broadcast. -/
theorem receive_ofLog (log : List Notice) (r : Receiver) (hplace : r.next ≤ log.length) :
    ((ofLog log).receive r).1 = (due (log.drop r.next)).1 ∧
      log.drop ((ofLog log).receive r).2.next = (due (log.drop r.next)).2 ∧
      ((ofLog log).receive r).2.next ≤ log.length := by
  have hunseen : (log.drop r.next).length = log.length - r.next := List.length_drop
  unfold receive due
  rw [oldest_ofLog, hunseen]
  by_cases hbehind : r.next < log.length - capacity
  · -- all but the latest notices are gone, and the receiver goes on with the oldest kept one
    have hlost : capacity < log.length - r.next := by omega
    have hcount : log.length - capacity - r.next = log.length - r.next - capacity := by omega
    have hoverflow : r.next + (log.length - r.next - capacity) = log.length - capacity := by omega
    rw [if_pos hbehind, if_pos hlost, List.drop_drop, hcount, hoverflow]
    dsimp only
    exact ⟨rfl, rfl, by omega⟩
  · -- everything unseen is still kept, at its place in the log
    have hkept : ¬ capacity < log.length - r.next := by omega
    rw [if_neg hbehind, if_neg hkept]
    rw [getElem?_kept_ofLog log (Nat.le_of_not_lt hbehind)]
    cases hnext : log[r.next]? with
    | none =>
        have hend : log.drop r.next = [] :=
          List.drop_eq_nil_of_le (List.getElem?_eq_none_iff.mp hnext)
        simp [hend, hplace]
    | some n =>
        obtain ⟨hlt, hget⟩ := List.getElem?_eq_some_iff.mp hnext
        rw [List.drop_eq_getElem_cons hlt, hget]
        exact ⟨rfl, rfl, hlt⟩

end Broadcast

/-- The notices, in order, that a receiver was given, or was told to have lost. -/
inductive Covers : List Notice → List Received → Prop
  | nil : Covers [] []
  | notice {seen : List Notice} {got : List Received} (n : Notice) (h : Covers seen got) :
      Covers (seen ++ [n]) (got ++ [.notice n])
  | lagged {seen : List Notice} {got : List Received} (lost : List Notice) (hlost : lost ≠ [])
      (h : Covers seen got) : Covers (seen ++ lost) (got ++ [.lagged lost.length])

/-- What is given next covers the first of the notices that were not seen. -/
theorem Covers.due {seen : List Notice} {got : List Received} (h : Covers seen got)
    (unseen : List Notice) :
    ∃ next, unseen = next ++ (Broadcast.due unseen).2 ∧
      Covers (seen ++ next) (got ++ (Broadcast.due unseen).1.toList) := by
  unfold Broadcast.due
  by_cases hbehind : Broadcast.capacity < unseen.length
  · rw [if_pos hbehind]
    have hcount : (unseen.take (unseen.length - Broadcast.capacity)).length =
        unseen.length - Broadcast.capacity := by
      rw [List.length_take]
      omega
    have hlost : unseen.take (unseen.length - Broadcast.capacity) ≠ [] := by
      rw [← List.length_pos_iff, hcount]
      omega
    refine ⟨unseen.take (unseen.length - Broadcast.capacity), ?_, ?_⟩
    · dsimp only
      rw [List.take_append_drop]
    · have hcovers := h.lagged _ hlost
      rw [hcount] at hcovers
      dsimp only [Option.toList]
      exact hcovers
  · rw [if_neg hbehind]
    cases unseen with
    | nil => exact ⟨[], rfl, by simpa using h⟩
    | cons n rest => exact ⟨[n], rfl, h.notice n⟩

/-- What a receiver is given next covers the log up to its new place. -/
theorem Covers.receive {log : List Notice} {r : Receiver} {got : List Received}
    (h : Covers (log.take r.next) got) (hplace : r.next ≤ log.length) :
    Covers (log.take ((Broadcast.ofLog log).receive r).2.next)
      (got ++ ((Broadcast.ofLog log).receive r).1.toList) := by
  obtain ⟨hgiven, hleft, -⟩ := Broadcast.receive_ofLog log r hplace
  obtain ⟨next, hnext, hcovers⟩ := h.due (log.drop r.next)
  rw [← hleft] at hnext
  have hlog : log.take ((Broadcast.ofLog log).receive r).2.next ++
      log.drop ((Broadcast.ofLog log).receive r).2.next =
        log.take r.next ++ next ++ log.drop ((Broadcast.ofLog log).receive r).2.next := by
    rw [List.take_append_drop, List.append_assoc, ← hnext, List.take_append_drop]
  rw [List.append_cancel_right hlog, hgiven]
  exact hcovers

/-- Sending more leaves what was covered as it is. -/
theorem Covers.send {log : List Notice} {r : Receiver} {got : List Received} (more : List Notice)
    (h : Covers (log.take r.next) got) (hplace : r.next ≤ log.length) :
    Covers ((log ++ more).take r.next) got := by
  rwa [List.take_append_of_le_length hplace]

end ScanRoster
