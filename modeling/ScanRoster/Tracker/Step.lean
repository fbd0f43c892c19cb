import ScanRoster.Tracker.Basic

/-!
# Steps of a tracker

Everything that can happen to a tracker, one step at a time: calls are begun and go on, the
worker, the notifier and the trigger do a piece of work each, and the world around changes.
Nothing happens in a step whose time has not come.
-/

namespace ScanRoster

/-- Something that can happen. -/
inductive Step
  | beginStart
  | beginStop
  | beginSignal (s : Signal)
  | advance (call : Nat)
  | send (s : Signal)
  | work
  | notify
  | trigger
  | tick
  | passTime (nanos : Nat)
  | setClock (now : Int64)
  | setRadio (r : Radio → Radio)
  | setCallbacks (crashing : Bool)

namespace Tracker

/-- The tracker with its calls changed. -/
def mapCalls (t : Tracker) (f : Call → Call) : Tracker :=
  { t with calls := t.calls.map f }

/-- The tracker with one call at another stage. -/
def setStage (t : Tracker) (id : Nat) (stage : Stage) : Tracker :=
  t.mapCalls fun c => if c.id = id then { c with stage } else c

/-- The tracker with the calls of some envelopes answered. -/
def answer (t : Tracker) (envelopes : List Envelope) (r : Except TrackerError SignalOutcome) :
    Tracker :=
  t.mapCalls fun c => if envelopes.any (·.caller == some c.id) then c.answered r else c

/-- A new call. -/
def begin (t : Tracker) (kind : CallKind) (stage : Stage) : Tracker :=
  { t with calls := t.calls ++ [⟨t.nextCall, kind, stage⟩], nextCall := t.nextCall + 1 }

/-- A start begins: the configuration is looked at before anything else. -/
def beginStart (t : Tracker) : Tracker :=
  match t.config.validate with
  | .ok () => t.begin .start .lifecycle
  | .error cause => t.begin .start (.finished (.failed (.invalidConfig cause)))

/-- Whether a stop keeps other calls from the lifecycle. -/
def lifecycleHeld (t : Tracker) : Bool :=
  t.calls.any Call.holdsLifecycle

/-- The tasks that the lifecycle holds: those that no stop has cancelled. -/
def running (t : Tracker) : Option Run :=
  t.run.filter fun run => !run.cancelled

/-- A run with the roster that was parked. -/
def spawn (t : Tracker) : Tracker :=
  let roster := t.parked.getD (.empty t.config.policy)
  let trigger := if t.config.activeScanning then Trigger.fresh else .absent
  { t with
    parked := none
    intake := true
    run := some ⟨.live roster true, [], [], [], .live, trigger, false⟩ }

/-- A start that has come to the lifecycle. Starting twice changes nothing. -/
def enterStart (t : Tracker) (id : Nat) : Tracker :=
  match t.running with
  | some _ => t.setStage id (.finished .done)
  | none => t.spawn.setStage id (.intake .radioState)

/-- A stop that has come to the lifecycle. -/
def enterStop (t : Tracker) (id : Nat) : Tracker :=
  match t.running with
  | none => t.setStage id (.finished .done)
  | some run =>
    { t with intake := false, run := some { run with cancelled := true } }.setStage id .worker

/-- A stop that waits for the worker parks the roster that the worker has left behind, or an
empty one where the worker has crashed. -/
def parkRoster (t : Tracker) (id : Nat) : Tracker :=
  match t.run with
  | none => t
  | some run =>
    match run.worker with
    | .live _ _ => t
    | .ended roster => { t with parked := some roster }.setStage id .helpers
    | .crashed => { t with parked := some (.empty t.config.policy) }.setStage id .helpers

/-- A stop that waits for the helpers ends when both have ended. -/
def finishStop (t : Tracker) (id : Nat) : Tracker :=
  match t.run with
  | none => t
  | some run =>
    if run.notifier.isLive || run.trigger.isLive then t
    else { t with run := none }.setStage id (.finished .done)

/-- A call hands in its signal: into the queue while there is a place, else into the line. -/
def handIn (t : Tracker) (id : Nat) (s : Signal) : Tracker :=
  match t.intake, t.run with
  | true, some run =>
    if run.worker.isLive then
      let e : Envelope := ⟨s, some id⟩
      let run :=
        if run.queue.length < queueCapacity ∧ run.line = [] then
          { run with queue := run.queue ++ [e] }
        else { run with line := run.line ++ [e] }
      { t with run := some run }.setStage id .answer
    else t.setStage id (.finished (.failed .stopped))
  | _, _ => t.setStage id (.finished (.failed .stopped))

/-- A call goes on past the point where it waits, if it can. -/
def advance (t : Tracker) (id : Nat) : Tracker :=
  match t.calls.find? (·.id == id) with
  | none => t
  | some c =>
    match c.stage with
    | .lifecycle =>
      if t.lifecycleHeld then t
      else
        match c.kind with
        | .start => t.enterStart id
        | .stop => t.enterStop id
        | .signal => t
    | .worker => t.parkRoster id
    | .helpers => t.finishStop id
    | .intake s => t.handIn id s
    | .answered r => t.setStage id (.finished r)
    | .answer | .finished _ => t

/-- Why a signal that waits for nothing is refused, if it is. -/
def refusal? (t : Tracker) : Option TrackerError :=
  match t.intake, t.run with
  | true, some run =>
    if !run.worker.isLive then some .stopped
    else if queueCapacity ≤ run.queue.length then some (.queueFull queueCapacity)
    else none
  | _, _ => some .stopped

/-- A signal is put into the queue without waiting, unless it is refused. -/
def send (t : Tracker) (s : Signal) : Tracker :=
  match t.refusal?, t.run with
  | none, some run => { t with run := some { run with queue := run.queue ++ [⟨s, none⟩] } }
  | _, _ => t

/-- A notice for the notifier of a run. -/
def Run.tell (run : Run) (n : Notice) : Run :=
  if run.notifier.isLive then { run with notices := run.notices ++ [n] } else run

/-- The worker ends, and with it the signals that it has not applied. -/
def endWorker (t : Tracker) (run : Run) (worker : Worker) (dropped : List Envelope) : Tracker :=
  { t with run := some { run with worker, queue := [], line := [] } }.answer
    (dropped ++ run.queue ++ run.line) (.error .stopped)

/-- The radio state is taken down. The first read of a run is always told, later ones where the
state has changed. -/
def recordState (t : Tracker) (run : Run) (roster : Roster) (firstRead : Bool) (e : Envelope) :
    Tracker :=
  let state := t.radio.state
  let modified := t.recorded ≠ state
  let changed := modified || firstRead
  let run := { run with worker := .live roster false }
  let run := if changed then Run.tell run (.stateChanged state) else run
  { t with
    run := some run
    recorded := state
    recordings := if modified then t.recordings + 1 else t.recordings }.answer [e]
      (.ok (.radioState state changed))

/-- The radio state is asked for and, if there is an answer, taken down. -/
def readState (t : Tracker) (run : Run) (roster : Roster) (firstRead : Bool) (e : Envelope) :
    Tracker :=
  if t.radio.stateCrashing then t.endWorker run .crashed [e]
  else t.recordState run roster firstRead e

/-- A scan list is asked for and, if there is one, taken in and published. -/
def takeScan (t : Tracker) (run : Run) (roster : Roster) (firstRead updated : Bool)
    (e : Envelope) : Tracker :=
  match t.radio.reply with
  | .crashed => t.endWorker run .crashed [e]
  | .failed _ =>
    { t with run := some { run with worker := .live roster firstRead } }.answer [e]
      (.ok .sourceUnavailable)
  | .found sightings =>
    let (roster, report) := roster.apply (.ofSightings sightings updated t.clock)
    let feed := t.feed.publish roster.entries
    let run := Run.tell { run with worker := .live roster firstRead } (.entriesChanged feed.snapshot)
    { t with feed, run := some run }.answer [e] (.ok (.ingested report))

/-- A piece of the worker's work: it ends if it was cancelled, and else applies the next signal.
The place that becomes free goes to the first call in line. -/
def work (t : Tracker) : Tracker :=
  match t.run with
  | none => t
  | some run =>
    match run.worker with
    | .live roster firstRead =>
      if run.cancelled then t.endWorker run (.ended roster) []
      else
        match run.queue with
        | [] => t
        | e :: queue =>
          let run := { run with queue := queue ++ run.line.take 1, line := run.line.drop 1 }
          match e.signal with
          | .radioState => t.readState run roster firstRead e
          | .scanResults updated => t.takeScan run roster firstRead updated e
    | _ => t

/-- The audience after the callback of a notice. -/
def Audience.call (a : Audience) : Notice → Audience
  | .entriesChanged _ => { a with entriesCalls := a.entriesCalls + 1 }
  | .stateChanged _ => { a with stateCalls := a.stateCalls + 1 }

/-- The audience after the broadcast of a notice. -/
def Audience.hear (a : Audience) (n : Notice) : Audience :=
  { a with broadcast := a.broadcast.send n }

/-- A piece of the notifier's work: the callback of the next notice is called, or a notice whose
callback has been called is broadcast. A callback that crashes ends the notifier, and so does the
end of the worker once nothing is left to tell. -/
def notify (t : Tracker) : Tracker :=
  match t.run with
  | none => t
  | some run =>
    match run.notifier, run.notices with
    | .telling n, _ =>
      { t with
        run := some { run with notifier := .live }
        audience := Audience.hear t.audience n }
    | .live, n :: rest =>
      if t.audience.crashing then
        { t with run := some { run with notifier := .crashed, notices := [] } }
      else
        { t with
          run := some { run with notifier := .telling n, notices := rest }
          audience := Audience.call t.audience n }
    | .live, [] =>
      if run.worker.isLive then t else { t with run := some { run with notifier := .ended } }
    | _, _ => t

/-- A piece of the trigger's work: it sets its first tick, or ends if it was cancelled. -/
def wakeTrigger (t : Tracker) : Tracker :=
  match t.run with
  | none => t
  | some run =>
    match run.trigger with
    | .fresh | .ticking _ =>
      if run.cancelled then { t with run := some { run with trigger := .ended } }
      else if run.trigger = .fresh then
        let next := t.elapsed + t.config.scanInterval.nanos
        { t with run := some { run with trigger := .ticking next } }
      else t
    | _ => t

/-- How many ticks come before a time, if the next one comes at `next`. -/
def ticksBefore (next interval now : Nat) : Nat :=
  if next < now then (now - next - 1) / interval + 1 else 0

/-- So many ticks of the trigger, the first of them at `next`. At each of them a scan is requested
if the radio state on record is enabled. -/
def strike (t : Tracker) (run : Run) (next ticks : Nat) : Tracker :=
  { t with
    radio := if t.recorded.isEnabled then t.radio.request ticks else t.radio
    run := some { run with trigger := .ticking (next + ticks * t.config.scanInterval.nanos) } }

/-- The tick of this moment comes, if there is one and no stop has come to the run. -/
def tick (t : Tracker) : Tracker :=
  match t.run with
  | none => t
  | some run =>
    match run.trigger, run.cancelled with
    | .ticking next, false => if next ≤ t.elapsed then t.strike run next 1 else t
    | _, _ => t

/-- Time passes, and with it the ticks before the new time, unless a stop has come to the run. A tick
at the new time is a step of its own, since other steps of that moment may come before it. -/
def passTime (t : Tracker) (nanos : Nat) : Tracker :=
  let now := t.elapsed + nanos
  let t' := { t with elapsed := now }
  match t.run with
  | none => t'
  | some run =>
    match run.trigger, run.cancelled with
    | .ticking next, false => t'.strike run next (ticksBefore next t.config.scanInterval.nanos now)
    | _, _ => t'

/-- The tracker after a step. -/
def step (t : Tracker) : Step → Tracker
  | .beginStart => t.beginStart
  | .beginStop => t.begin .stop .lifecycle
  | .beginSignal s => t.begin .signal (.intake s)
  | .advance id => t.advance id
  | .send s => t.send s
  | .work => t.work
  | .notify => t.notify
  | .trigger => t.wakeTrigger
  | .tick => t.tick
  | .passTime nanos => t.passTime nanos
  | .setClock now => { t with clock := now }
  | .setRadio change => { t with radio := change t.radio }
  | .setCallbacks crashing => { t with audience := { t.audience with crashing } }

end Tracker

end ScanRoster
