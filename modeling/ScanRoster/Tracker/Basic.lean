import ScanRoster.Tracker.Broadcast
import ScanRoster.TrackerConfig

/-!
# Trackers

A tracker owns a roster. While it runs, a worker holds the roster and applies signals from a
queue, a notifier tells observers, and a trigger requests scans; while it is stopped, the roster
is parked. Calls from outside start and stop it and hand in signals, and wait at some points for
the worker, its helpers or each other. This module holds the states; `Tracker.Step` has what can
happen next.
-/

namespace ScanRoster

/-- A signal in the queue, and the call that waits for its outcome, if one does. -/
structure Envelope where
  signal : Signal
  caller : Option Nat
  deriving DecidableEq

/-- The worker of a run. A live one holds the roster and knows whether it is still to read the
radio state for the first time; one that has ended in order has left the roster behind. -/
inductive Worker
  | live (roster : Roster) (firstRead : Bool)
  | ended (roster : Roster)
  | crashed
  deriving DecidableEq

/-- The notifier of a run: live with nothing in hand, live with a notice whose callback has been
called and that is to be broadcast next, ended in order, or ended by a callback that crashed. -/
inductive Notifier
  | live
  | telling (n : Notice)
  | ended
  | crashed
  deriving DecidableEq

/-- The scan trigger of a run. A ticking one has a time for its next tick. -/
inductive Trigger
  | absent
  | fresh
  | ticking (next : Nat)
  | ended
  deriving DecidableEq

/-- The tasks of one run. `queue` holds the signals accepted and not yet applied, and `line`
those whose calls wait for a place in it. -/
structure Run where
  worker : Worker
  queue : List Envelope
  line : List Envelope
  notices : List Notice
  notifier : Notifier
  trigger : Trigger
  cancelled : Bool
  deriving DecidableEq

/-- How a call has ended. -/
inductive CallResult
  | done
  | outcome (o : SignalOutcome)
  | failed (e : TrackerError)
  deriving DecidableEq

/-- What a call is for. -/
inductive CallKind
  | start
  | stop
  | signal
  deriving DecidableEq

/-- Where a call is: in front of the lifecycle, waiting for the worker or for its helpers to end,
about to hand in a signal, waiting for the answer, about to return what has been answered, or
finished. -/
inductive Stage
  | lifecycle
  | worker
  | helpers
  | intake (s : Signal)
  | answer
  | answered (r : CallResult)
  | finished (r : CallResult)
  deriving DecidableEq

/-- A call from outside. -/
structure Call where
  id : Nat
  kind : CallKind
  stage : Stage
  deriving DecidableEq

/-- The observers' side: how often each callback has been called, whether callbacks crash, and
the broadcast. -/
structure Audience where
  entriesCalls : Nat
  stateCalls : Nat
  crashing : Bool
  broadcast : Broadcast
  deriving DecidableEq

/-- A tracker with its radio and its clock. `clock` is the time that the radio's records are
measured against, and `elapsed` the nanoseconds that have passed for the trigger. `recorded` is
the radio state last read and `recordings` how often it has changed. `intake` tells whether
signals are taken. -/
structure Tracker where
  config : TrackerConfig
  radio : Radio
  clock : Int64
  elapsed : Nat
  feed : Feed
  recorded : RadioState
  recordings : Nat
  intake : Bool
  parked : Option Roster
  run : Option Run
  calls : List Call
  nextCall : Nat
  audience : Audience
  deriving DecidableEq

namespace Worker

/-- Whether the worker is still at work. -/
def isLive : Worker → Bool
  | .live _ _ => true
  | _ => false

end Worker

namespace Notifier

/-- Whether the notifier is still at work. -/
def isLive : Notifier → Bool
  | .live | .telling _ => true
  | _ => false

end Notifier

namespace Trigger

/-- Whether the trigger is still at work. -/
def isLive : Trigger → Bool
  | .fresh | .ticking _ => true
  | _ => false

end Trigger

namespace Call

/-- Whether the call keeps others from the lifecycle. -/
def holdsLifecycle (c : Call) : Bool :=
  match c.stage with
  | .worker | .helpers => true
  | _ => false

/-- The call with the outcome of its signal, which it is to return when it goes on. A start has no
outcome of its own. -/
def answered (c : Call) (r : Except TrackerError SignalOutcome) : Call :=
  let result :=
    match r, c.kind with
    | .error e, _ => CallResult.failed e
    | .ok o, .signal => .outcome o
    | .ok _, _ => .done
  { c with stage := .answered result }

end Call

namespace Tracker

/-- How many signals the queue of a run holds. -/
def queueCapacity : Nat := 64

/-- A stopped tracker that has seen nothing. -/
def new (config : TrackerConfig) (radio : Radio) (clock : Int64) : Tracker where
  config := config
  radio := radio
  clock := clock
  elapsed := 0
  feed := .empty
  recorded := .unknown
  recordings := 0
  intake := false
  parked := some (.empty config.policy)
  run := none
  calls := []
  nextCall := 0
  audience := ⟨0, 0, false, .empty⟩

/-- Whether signals are taken. -/
def isRunning (t : Tracker) : Bool :=
  t.intake

/-- The entry list last published. -/
def entries (t : Tracker) : Snapshot :=
  t.feed.snapshot

end Tracker

end ScanRoster
