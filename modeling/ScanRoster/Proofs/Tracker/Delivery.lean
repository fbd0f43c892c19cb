import ScanRoster.Proofs.Tracker.Trace

/-!
# Deliveries of signals

What becomes of signals on their way to the worker, step by step: a start opens an empty queue, a
call comes with a signal to hand in, a signal gets a place in the queue, and the worker applies one.
A signal that is refused, one in line for a place and one that is dropped leave nothing here.
-/

namespace ScanRoster

/-- Something that becomes of a signal, or of the queue for signals. -/
inductive Delivery
  /-- A start has opened an empty queue. -/
  | opened
  /-- A call has come to hand in a signal. -/
  | asked (id : Nat) (s : Signal)
  /-- A signal has got a place in the queue. -/
  | accepted (e : Envelope)
  /-- The worker has applied a signal, with this outcome. -/
  | applied (e : Envelope) (o : SignalOutcome)
  deriving DecidableEq

/-- What it means for the deliveries that a call comes at this stage. -/
def Stage.asks (id : Nat) : Stage → List Delivery
  | .intake s => [.asked id s]
  | _ => []

namespace Tracker

/-- The outcome of a signal if a worker with this roster applies it now; none if it crashes. -/
def verdict? (t : Tracker) (roster : Roster) (firstRead : Bool) (s : Signal) :
    Option SignalOutcome :=
  match t.application s with
  | .stateRead state => some (.radioState state (t.recorded ≠ state || firstRead))
  | .scanTaken c => some (.ingested (roster.apply c).2)
  | .scanMissed => some .sourceUnavailable
  | _ => none

/-- What comes of the worker's next piece of work: a signal is applied, and the place that becomes
free goes to the first call in line. -/
def workDeliveries (t : Tracker) : List Delivery :=
  match t.run with
  | none => []
  | some run =>
    match run.worker, run.queue with
    | .live roster firstRead, e :: _ =>
      if run.cancelled then []
      else
        match t.verdict? roster firstRead e.signal with
        | none => []
        | some o => .applied e o :: (run.line.take 1).map .accepted
    | _, _ => []

/-- Whether a call that hands in a signal gets a place in the queue at once. -/
def hasRoom (t : Tracker) : Bool :=
  match t.intake, t.run with
  | true, some run => run.worker.isLive && (run.queue.length < queueCapacity && run.line.isEmpty)
  | _, _ => false

/-- What comes of it if a call goes on. -/
def callDeliveries (t : Tracker) (c : Call) : List Delivery :=
  match c.stage with
  | .lifecycle =>
    if c.kind = .start ∧ t.lifecycleHeld = false ∧ t.running = none then [.opened] else []
  | .intake s => if t.hasRoom then [.accepted ⟨s, some c.id⟩] else []
  | _ => []

/-- What becomes of signals in a step. -/
def deliveries (t : Tracker) : Step → List Delivery
  | .beginSignal s => [.asked t.nextCall s]
  | .advance id => ((t.calls.find? (·.id == id)).map t.callDeliveries).getD []
  | .send s => if t.refusal? = none then [.accepted ⟨s, none⟩] else []
  | .work => t.workDeliveries
  | _ => []

/-- What becomes of signals in some steps, in order. -/
def deliveryLog (t : Tracker) : List Step → List Delivery
  | [] => []
  | s :: rest => t.deliveries s ++ deliveryLog (t.step s) rest

theorem deliveryLog_append (t : Tracker) (steps later : List Step) :
    t.deliveryLog (steps ++ later) = t.deliveryLog steps ++ (t.after steps).deliveryLog later := by
  induction steps generalizing t with
  | nil => rfl
  | cons first rest ih =>
      simp only [List.cons_append, deliveryLog, ih, List.append_assoc]
      rfl

theorem deliveryLog_concat (t : Tracker) (steps : List Step) (s : Step) :
    t.deliveryLog (steps ++ [s]) = t.deliveryLog steps ++ (t.after steps).deliveries s := by
  induction steps generalizing t with
  | nil => simp [deliveryLog, after]
  | cons first rest ih =>
      simp only [List.cons_append, deliveryLog, ih, List.append_assoc]
      rfl

@[simp] theorem deliveries_notify (t : Tracker) : t.deliveries .notify = [] := rfl

@[simp] theorem deliveries_setCallbacks (t : Tracker) (crashing : Bool) :
    t.deliveries (.setCallbacks crashing) = [] := rfl

theorem deliveries_advance {t : Tracker} {c : Call}
    (hfind : t.calls.find? (·.id == c.id) = some c) :
    t.deliveries (.advance c.id) = t.callDeliveries c := by
  simp [deliveries, hfind]

theorem hasRoom_eq_true_iff {t : Tracker} :
    t.hasRoom = true ↔ t.intake = true ∧ ∃ run, t.run = some run ∧ run.worker.isLive = true ∧
      run.queue.length < queueCapacity ∧ run.line = [] := by
  unfold hasRoom
  cases t.intake <;> cases t.run <;> simp

end Tracker

namespace Delivery

/-! ## What a log of deliveries tells -/

/-- The part of a log that is about the run that was started last. -/
def sinceOpened (log : List Delivery) : List Delivery :=
  (log.reverse.takeWhile (· ≠ .opened)).reverse

/-- The signals that got a place in the queue, in order. -/
def acceptedIn (log : List Delivery) : List Envelope :=
  log.filterMap fun
    | .accepted e => some e
    | _ => none

/-- The signals that the worker has applied, in order. -/
def appliedIn (log : List Delivery) : List Envelope :=
  log.filterMap fun
    | .applied e _ => some e
    | _ => none

/-- What was applied for a call, and with which outcome. -/
def appliedFor (id : Nat) (log : List Delivery) : List (Signal × SignalOutcome) :=
  log.filterMap fun
    | .applied e o => if e.caller = some id then some (e.signal, o) else none
    | _ => none

section

variable (log more : List Delivery)

theorem sinceOpened_opened : sinceOpened (log ++ [.opened]) = [] := by
  simp [sinceOpened]

theorem sinceOpened_append (h : .opened ∉ more) :
    sinceOpened (log ++ more) = sinceOpened log ++ more := by
  have hall : ∀ x ∈ more.reverse, decide (x ≠ .opened) = true := by
    intro x hx
    rw [decide_eq_true_eq]
    rintro rfl
    exact h (List.mem_reverse.mp hx)
  rw [sinceOpened, List.reverse_append, List.takeWhile_append_of_pos hall, List.reverse_append,
    List.reverse_reverse, sinceOpened]

theorem acceptedIn_append : acceptedIn (log ++ more) = acceptedIn log ++ acceptedIn more :=
  List.filterMap_append

theorem appliedIn_append : appliedIn (log ++ more) = appliedIn log ++ appliedIn more :=
  List.filterMap_append

theorem appliedFor_append (id : Nat) :
    appliedFor id (log ++ more) = appliedFor id log ++ appliedFor id more :=
  List.filterMap_append

end

/-! ### A signal is applied, and others get places in the queue -/

section

variable (e : Envelope) (o : SignalOutcome) (es : List Envelope)

theorem opened_not_mem_applied : .opened ∉ applied e o :: es.map .accepted := by
  rintro (_ | ⟨_, hmem⟩)
  obtain ⟨e', -, heq⟩ := List.mem_map.mp hmem
  contradiction

theorem acceptedIn_applied : acceptedIn (.applied e o :: es.map .accepted) = es := by
  have haccepted : acceptedIn (es.map .accepted) = es := by
    rw [acceptedIn, List.filterMap_map]
    exact List.filterMap_some
  exact haccepted

theorem appliedIn_applied : appliedIn (.applied e o :: es.map .accepted) = [e] := by
  simp [appliedIn, List.filterMap_map]

theorem appliedFor_applied (id : Nat) : appliedFor id (.applied e o :: es.map .accepted) =
    if e.caller = some id then [(e.signal, o)] else [] := by
  by_cases hcaller : e.caller = some id <;>
    simp [appliedFor, List.filterMap_map, hcaller]

end

end Delivery

end ScanRoster
