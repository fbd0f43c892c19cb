import Mathlib.Data.List.Induction
import ScanRoster.Proofs.Tracker.Move
import ScanRoster.Tracker.Session

/-!
# Calls one after the other

A running tracker with nothing left to do stays as it is, round after round.  From there each call
with a signal has its answer after one round, and returns with it in the next one, in which its
notice is told, so that the tracker is then at rest again.  Here the source crashes under no signal,
no callback crashes, and no scans are requested.
-/

namespace ScanRoster.Tracker

/-- A running tracker with these calls, where no signal waits and the notifier still has these
notices to tell. -/
def atRest (t : Tracker) (roster : Roster) (firstRead : Bool) (calls : List Call)
    (notices : List Notice) : Tracker :=
  { t with
    intake := true
    parked := none
    run := some ⟨.live roster firstRead, [], [], notices, .live, .absent, false⟩
    calls }

/-- The audience after some notices were told in full. -/
def Audience.hearAll (a : Audience) (notices : List Notice) : Audience :=
  notices.foldl (fun a n => Audience.hear (Audience.call a n) n) a

theorem Audience.crashing_hearAll (a : Audience) (notices : List Notice) :
    (Audience.hearAll a notices).crashing = a.crashing := by
  induction notices using List.reverseRecOn with
  | nil => rfl
  | append_singleton notices n ih =>
      rw [← ih]
      simp only [Audience.hearAll, List.foldl_append, List.foldl_cons, List.foldl_nil]
      cases n <;> rfl

theorem pulses_of_fixed {t : Tracker} (h : t.pulse = t) (n : Nat) : pulses n t = t := by
  induction n with
  | zero => rfl
  | succ n ih => rw [pulses, h, ih]

section

variable (t : Tracker) (roster : Roster) (firstRead : Bool) (id : Nat) (kind : CallKind)

theorem pulse_atRest (r : CallResult) :
    (t.atRest roster firstRead [⟨id, kind, .finished r⟩] []).pulse =
      t.atRest roster firstRead [⟨id, kind, .finished r⟩] [] := by
  simp [pulse, atRest, advance, work, wakeTrigger, notify, Worker.isLive]

/-- The call that was answered returns, the notices that are left are told, and then the tracker is
at rest. -/
theorem pulses_notify {t : Tracker} (hcalm : t.audience.crashing = false) (r : CallResult)
    {notices : List Notice} (hnotices : notices.length ≤ 1) (n : Nat) :
    pulses (n + 1) (t.atRest roster firstRead [⟨id, kind, .answered r⟩] notices).notify =
      { t with audience := Audience.hearAll t.audience notices }.atRest roster firstRead
        [⟨id, kind, .finished r⟩] [] := by
  have hreturned : (t.atRest roster firstRead [⟨id, kind, .answered r⟩] notices).notify.pulse =
      { t with audience := Audience.hearAll t.audience notices }.atRest roster firstRead
        [⟨id, kind, .finished r⟩] [] := by
    match notices with
    | [] =>
        simp [notify, atRest, pulse, advance, setStage, mapCalls, work, wakeTrigger,
          Worker.isLive, Audience.hearAll]
    | [notice] =>
        simp [notify, atRest, hcalm, pulse, advance, setStage, mapCalls, work, wakeTrigger,
          Audience.hearAll]
    | _ :: _ :: _ => simp at hnotices
  rw [pulses, hreturned, pulses_of_fixed (pulse_atRest ..)]

/-- A running tracker whose queue has the signal of the only call. -/
def handedIn (s : Signal) : Tracker :=
  { t.atRest roster firstRead [⟨id, kind, .answer⟩] [] with
    run := some ⟨.live roster firstRead, [⟨s, some id⟩], [], [], .live, .absent, false⟩ }

/-- A round in which the only call hands in its signal. -/
theorem pulse_intake (s : Signal) :
    (t.atRest roster firstRead [⟨id, kind, .intake s⟩] []).pulse =
      (t.handedIn roster firstRead id kind s).work.wakeTrigger.notify := by
  have hadvance : (t.atRest roster firstRead [⟨id, kind, .intake s⟩] []).advance id =
      t.handedIn roster firstRead id kind s := by
    simp [advance, atRest, handIn, handedIn, Worker.isLive, queueCapacity, setStage, mapCalls]
  rw [pulse]
  exact congrArg (fun u : Tracker => u.work.wakeTrigger.notify) hadvance

/-- The call, once its signal was applied with an outcome. -/
def answeredCall (o : SignalOutcome) : Call :=
  Call.answered ⟨id, kind, .answer⟩ (.ok o)

/-- The tracker with the state of its radio on record. -/
def stateTaken : Tracker :=
  { t with
    recorded := t.radio.state
    recordings := if t.recorded ≠ t.radio.state then t.recordings + 1 else t.recordings }

variable {t}

theorem work_radioState (hworking : t.radio.stateCrashing = false) :
    (t.handedIn roster firstRead id kind .radioState).work =
      t.stateTaken.atRest roster false
        [answeredCall id kind
          (.radioState t.radio.state (t.recorded ≠ t.radio.state || firstRead))]
        (t.stateNotices firstRead) := by
  have hcalm : (t.handedIn roster firstRead id kind .radioState).radio.stateCrashing = false :=
    hworking
  rw [work_of_queue rfl rfl rfl rfl]
  dsimp only
  rw [readState, hcalm, if_neg Bool.false_ne_true, recordState]
  rw [told_state]
  by_cases hsame : t.recorded = t.radio.state <;>
    simp [answer, mapCalls, answeredCall, handedIn, atRest, Run.tellAll, Run.shift,
      Notifier.isLive, stateNotices, stateTaken, hsame]

theorem work_scanMissed {e : SourceError} (hreply : t.radio.reply = .failed e) (updated : Bool) :
    (t.handedIn roster firstRead id kind (.scanResults updated)).work =
      t.atRest roster firstRead [answeredCall id kind .sourceUnavailable] [] := by
  have hfailed : (t.handedIn roster firstRead id kind (.scanResults updated)).radio.reply =
      .failed e := hreply
  rw [work_of_queue rfl rfl rfl rfl]
  dsimp only
  rw [takeScan, hfailed]
  simp [answer, mapCalls, answeredCall, handedIn, atRest, Run.shift]

theorem work_scanTaken {sightings : List Sighting} (hreply : t.radio.reply = .found sightings)
    (updated : Bool) :
    let applied := roster.apply (.ofSightings sightings updated t.clock)
    (t.handedIn roster firstRead id kind (.scanResults updated)).work =
      { t with feed := t.feed.publish applied.1.entries }.atRest applied.1 firstRead
        [answeredCall id kind (.ingested applied.2)] [.entriesChanged applied.1.entries] := by
  have hfound : (t.handedIn roster firstRead id kind (.scanResults updated)).radio.reply =
      .found sightings := hreply
  rw [work_of_queue rfl rfl rfl rfl]
  dsimp only
  rw [takeScan, hfound]
  simp [answer, mapCalls, answeredCall, handedIn, atRest, Run.shift, Run.tell, Notifier.isLive,
    Feed.publish]

/-- Once its signal is applied, the rounds that are left tell the notice and end the call. -/
theorem pulses_of_work {u : Tracker} {roster' : Roster} {firstRead' : Bool} {s : Signal}
    {r : CallResult} {notices : List Notice}
    (hwork : (t.handedIn roster firstRead id kind s).work =
      u.atRest roster' firstRead' [⟨id, kind, .answered r⟩] notices)
    (hone : notices.length ≤ 1) (hcalm : u.audience.crashing = false) (n : Nat) :
    pulses (n + 2) (t.atRest roster firstRead [⟨id, kind, .intake s⟩] []) =
      { u with audience := Audience.hearAll u.audience notices }.atRest roster' firstRead'
        [⟨id, kind, .finished r⟩] [] := by
  rw [pulses, pulse_intake, hwork]
  exact pulses_notify roster' firstRead' id kind hcalm r hone n

end

/-- The only call returns with its result once everything has settled. -/
theorem await_of_settle {t u : Tracker} {roster : Roster} {id : Nat} {kind : CallKind}
    {r : CallResult} (h : t.settle = u.atRest roster false [⟨id, kind, .finished r⟩] []) :
    t.await id = (r, u.atRest roster false [] []) := by
  rw [await, h]
  simp [atRest]

/-- A call with a signal has the outcome with which the worker applies it. -/
theorem signal_of_work {t u : Tracker} {roster roster' : Roster} {s : Signal} {o : SignalOutcome}
    {notices : List Notice}
    (hwork : ({ t with nextCall := t.nextCall + 1 }.handedIn roster false t.nextCall .signal s).work =
      u.atRest roster' false [answeredCall t.nextCall .signal o] notices)
    (hone : notices.length ≤ 1) (hcalm : u.audience.crashing = false) :
    (t.atRest roster false [] []).signal s =
      (.outcome o,
        { u with audience := Audience.hearAll u.audience notices }.atRest roster' false [] []) := by
  have hbegin : (t.atRest roster false [] []).step (.beginSignal s) =
      { t with nextCall := t.nextCall + 1 }.atRest roster false
        [⟨t.nextCall, .signal, .intake s⟩] [] := rfl
  rw [signal, hbegin]
  exact await_of_settle
    (pulses_of_work (r := .outcome o) roster false t.nextCall .signal hwork hone hcalm 14)

/-- A start that comes to a stopped tracker reads the radio state, and leaves the tracker at rest. -/
theorem start_new (config : TrackerConfig) (radio : Radio) (clock : Int64)
    (hvalid : config.validate = .ok ()) (hpassive : config.activeScanning = false)
    (hworking : radio.stateCrashing = false) :
    ∃ t : Tracker, (new config radio clock).start =
        (.done, t.atRest (.empty config.policy) false [] []) ∧
      t.feed = .empty ∧ t.recorded = radio.state ∧ t.radio = radio ∧
        t.audience.crashing = false := by
  obtain ⟨t, ht⟩ : ∃ t, t = { new config radio clock with nextCall := 1 } := ⟨_, rfl⟩
  have hradio : t.radio = radio := by rw [ht]; rfl
  have hcalm : t.audience.crashing = false := by rw [ht]; rfl
  have hbegin : (new config radio clock).step .beginStart =
      (new config radio clock).begin .start .lifecycle := by
    simp [step, beginStart, new, hvalid]
  -- the first round spawns the tasks, and the second one reads the radio state
  have hspawn : ((new config radio clock).begin .start .lifecycle).pulse =
      t.atRest (.empty config.policy) true [⟨0, .start, .intake .radioState⟩] [] := by
    rw [ht]
    simp [pulse, Tracker.begin, new, advance, lifecycleHeld, Call.holdsLifecycle, enterStart,
      running, spawn, hpassive, setStage, mapCalls, work, wakeTrigger, notify, Worker.isLive, atRest]
  have hwork := work_radioState (.empty config.policy) true 0 .start (hradio ▸ hworking)
  have hsettle := pulses_of_work (r := .done) (.empty config.policy) true 0 .start hwork
    (length_stateNotices_le t true) hcalm 13
  refine ⟨{ t.stateTaken with
    audience := Audience.hearAll t.audience (t.stateNotices true) }, ?_, ?_, ?_, ?_, ?_⟩
  · rw [start, hbegin]
    rw [← hspawn] at hsettle
    exact await_of_settle hsettle
  · rw [ht]
    rfl
  · exact congrArg Radio.state hradio
  · exact hradio
  · rw [Audience.crashing_hearAll]
    exact hcalm

end ScanRoster.Tracker
