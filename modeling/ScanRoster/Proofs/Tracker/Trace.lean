import ScanRoster.Tracker.Step

/-!
# Traces of a tracker

What happens in a run of a tracker as seen from outside: tasks are spawned, signals are applied,
callbacks are called and notices are broadcast.  A trace lists this for any order of steps; calls
that come, wait and go leave nothing in it.
-/

namespace ScanRoster

/-- Something that a step makes happen. -/
inductive Happening
  /-- A start has spawned the tasks of a run. -/
  | spawned
  /-- The worker has applied a radio signal, and the source has told this state. -/
  | stateRead (state : RadioState)
  /-- The worker has applied a scan signal, and the source had a list for this cycle. -/
  | scanTaken (c : Cycle)
  /-- The worker has applied a scan signal, and the source had no list. -/
  | scanMissed
  /-- The source has crashed under a signal, and the worker with it. -/
  | crashed
  /-- The callback of a notice has been called. -/
  | called (n : Notice)
  /-- The callback of a notice has crashed, and the notifier with it. -/
  | callbackCrashed (n : Notice)
  /-- A notice has been broadcast. -/
  | broadcast (n : Notice)
  deriving DecidableEq

namespace Tracker

/-- The signal that the worker takes next: the first in the queue of a run that is not
cancelled. -/
def nextSignal? (t : Tracker) : Option Signal :=
  match t.run with
  | none => none
  | some run =>
    if run.worker.isLive && !run.cancelled then run.queue.head?.map (·.signal) else none

/-- What it means to apply a signal now. -/
def application (t : Tracker) : Signal → Happening
  | .radioState => if t.radio.stateCrashing then .crashed else .stateRead t.radio.state
  | .scanResults updated =>
    match t.radio.reply with
    | .found sightings => .scanTaken (.ofSightings sightings updated t.clock)
    | .failed _ => .scanMissed
    | .crashed => .crashed

/-- What the notifier does next for its audience. -/
def nextTelling? (t : Tracker) : Option Happening :=
  match t.run with
  | none => none
  | some run =>
    match run.notifier with
    | .telling n => some (.broadcast n)
    | .live => run.notices.head?.map (if t.audience.crashing then .callbackCrashed else .called)
    | _ => none

/-- What a step makes happen, if anything. -/
def happening? (t : Tracker) : Step → Option Happening
  | .work => t.nextSignal?.map t.application
  | .notify => t.nextTelling?
  | .advance id =>
    if t.running.isNone && (t.advance id).running.isSome then some .spawned else none
  | _ => none

theorem application_eq_scanTaken_iff {t : Tracker} {signal : Signal} {c : Cycle} :
    t.application signal = .scanTaken c ↔
      ∃ updated sightings, signal = .scanResults updated ∧ t.radio.reply = .found sightings ∧
        c = .ofSightings sightings updated t.clock := by
  cases signal with
  | radioState => cases h : t.radio.stateCrashing <;> simp [application, h]
  | scanResults updated => cases h : t.radio.reply <;> simp [application, h, eq_comm]

theorem nextTelling?_ne_scanTaken (t : Tracker) (c : Cycle) :
    t.nextTelling? ≠ some (.scanTaken c) := by
  unfold nextTelling?
  cases t.run with
  | none => simp
  | some run =>
      dsimp only
      cases run.notifier with
      | live => cases run.notices <;> cases t.audience.crashing <;> simp
      | telling n => simp
      | ended => simp
      | crashed => simp

/-- A scan is taken in exactly where the worker applies a scan signal and the source has a list. -/
theorem happening?_eq_scanTaken_iff {t : Tracker} {s : Step} {c : Cycle} :
    t.happening? s = some (.scanTaken c) ↔
      s = .work ∧ ∃ updated sightings, t.nextSignal? = some (.scanResults updated) ∧
        t.radio.reply = .found sightings ∧ c = .ofSightings sightings updated t.clock := by
  constructor
  · intro h
    cases s with
    | work =>
        obtain ⟨signal, hsignal, happlied⟩ := Option.map_eq_some_iff.mp h
        obtain ⟨updated, sightings, rfl, hreply, rfl⟩ := application_eq_scanTaken_iff.mp happlied
        exact ⟨rfl, updated, sightings, hsignal, hreply, rfl⟩
    | notify => exact absurd h (nextTelling?_ne_scanTaken t c)
    | advance id => simp [happening?] at h
    | _ => contradiction
  · rintro ⟨rfl, updated, sightings, hsignal, hreply, rfl⟩
    simp [happening?, hsignal, application, hreply]

/-- The tracker after some steps. -/
def after (t : Tracker) (steps : List Step) : Tracker :=
  steps.foldl step t

/-- What happens in some steps, in order. -/
def trace (t : Tracker) : List Step → List Happening
  | [] => []
  | s :: rest => (t.happening? s).toList ++ trace (t.step s) rest

theorem after_concat (t : Tracker) (steps : List Step) (s : Step) :
    t.after (steps ++ [s]) = (t.after steps).step s := by
  simp [after, List.foldl_append]

theorem trace_concat (t : Tracker) (steps : List Step) (s : Step) :
    t.trace (steps ++ [s]) = t.trace steps ++ ((t.after steps).happening? s).toList := by
  induction steps generalizing t with
  | nil => simp [trace, after]
  | cons first rest ih =>
      simp only [List.cons_append, trace, ih, List.append_assoc]
      rfl

theorem trace_append (t : Tracker) (steps later : List Step) :
    t.trace (steps ++ later) = t.trace steps ++ (t.after steps).trace later := by
  induction steps generalizing t with
  | nil => rfl
  | cons first rest ih =>
      simp only [List.cons_append, trace, ih, List.append_assoc]
      rfl

end Tracker

end ScanRoster
