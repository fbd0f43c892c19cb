import Mathlib.Data.List.Induction
import ScanRoster.Proofs.Tracker.Move

/-!
# The worker at a signal

`Tracker.work` takes a signal and does at once all that follows from it.  Here whatever others can
see of this is a step of its own: the source is asked, the list is shown and counted, and loaded again
for its notice, or the radio state is taken down, then the notice goes to the notifier, and at last
the call is answered.  In between, calls, the notifier and the world around do what they do, and
observers look.  A signal that is handled with nothing in between is what `Tracker.work` makes of it
(`exists_after_work`), so these runs contain all the others (`exists_after_steps`).
-/

namespace ScanRoster

/-- The signal that a worker has in hand, and how far it is with it: the source is to be asked next,
the state that it has told is to be taken down, the entries that the roster has left are to be shown,
their publish is to be counted, the list is to be loaded for its notice, notices are to go to the
notifier, or the call is to be answered. -/
inductive Hand
  | idle
  | taken (e : Envelope)
  | asked (e : Envelope) (state : RadioState)
  | ingested (e : Envelope) (report : CycleReport) (entries : Snapshot)
  | shown (e : Envelope) (report : CycleReport)
  | counted (e : Envelope) (report : CycleReport)
  | telling (e : Envelope) (notices : List Notice) (o : SignalOutcome)
  | answering (e : Envelope) (o : SignalOutcome)
  deriving DecidableEq

/-- The signal in hand. -/
def Hand.envelope? : Hand → Option Envelope
  | .idle => none
  | .taken e | .asked e _ | .ingested e _ _ | .shown e _ | .counted e _ | .telling e _ _
  | .answering e _ => some e

/-- A tracker whose worker may be in the middle of a signal. -/
structure Handling where
  tracker : Tracker
  hand : Hand
  deriving DecidableEq

/-- The run of a live worker, its roster, and whether it is still to read the radio state for the
first time. -/
def Tracker.live? (t : Tracker) : Option (Run × Roster × Bool) :=
  t.run.bind fun run =>
    match run.worker with
    | .live roster firstRead => some (run, roster, firstRead)
    | _ => none

theorem Tracker.live?_eq_some_iff {t : Tracker} {run : Run} {roster : Roster} {firstRead : Bool} :
    t.live? = some (run, roster, firstRead) ↔
      t.run = some run ∧ run.worker = .live roster firstRead := by
  rw [live?, Option.bind_eq_some_iff]
  constructor
  · rintro ⟨run', hrun, hlive⟩
    split at hlive
    · rename_i hworker
      obtain ⟨rfl, rfl, rfl⟩ : run' = run ∧ _ = roster ∧ _ = firstRead := by simpa using hlive
      exact ⟨hrun, hworker⟩
    · contradiction
  · rintro ⟨hrun, hworker⟩
    exact ⟨run, hrun, by rw [hworker]⟩

namespace Handling

open Tracker (Run.shift Run.tellAll)

/-- What a step makes happen that observers can tell. -/
inductive Event
  /-- A start has spawned the tasks of a run. -/
  | spawned
  /-- The entries that a cycle has left are shown. -/
  | shown (caller : Option Nat) (report : CycleReport) (entries : Snapshot)
  /-- A radio state is taken down. -/
  | recorded (caller : Option Nat) (state : RadioState) (changed : Bool)
  /-- The callback of a notice is called, and returns or crashes. -/
  | called (n : Notice)
  /-- A notice is broadcast. -/
  | broadcast (n : Notice)
  deriving DecidableEq

/-- What observers can tell of a step of the tracker in which the worker handles no signal. -/
def Event.of? : Happening → Option Event
  | .spawned => some .spawned
  | .called n | .callbackCrashed n => some (.called n)
  | .broadcast n => some (.broadcast n)
  | _ => none

/-! ## The accesses -/

/-- An idle worker takes the first signal out of the queue; where there is none for it, it ends if it
was cancelled. -/
def take (t : Tracker) : Handling :=
  match t.live? with
  | none => ⟨t.work, .idle⟩
  | some (run, _, _) =>
    match run.cancelled, run.queue with
    | false, e :: rest => ⟨{ t with run := some (Run.shift run rest) }, .taken e⟩
    | _, _ => ⟨t.work, .idle⟩

/-- The source is asked for what a signal is about.  Where it crashes, the worker does; a scan list
goes into the worker's roster. -/
def ask (t : Tracker) (run : Run) (roster : Roster) (firstRead : Bool) (e : Envelope) : Handling :=
  match e.signal with
  | .radioState =>
    if t.radio.stateCrashing then ⟨t.endWorker run .crashed [e], .idle⟩
    else ⟨t, .asked e t.radio.state⟩
  | .scanResults updated =>
    match t.radio.reply with
    | .crashed => ⟨t.endWorker run .crashed [e], .idle⟩
    | .failed _ => ⟨t, .answering e .sourceUnavailable⟩
    | .found sightings =>
      -- the roster is the worker's own: nobody sees it change before its entries are shown
      let (roster, report) := roster.apply (.ofSightings sightings updated t.clock)
      ⟨{ t with run := some { run with worker := .live roster firstRead } },
        .ingested e report roster.entries⟩

/-- A radio state is taken down. -/
def record (t : Tracker) (run : Run) (roster : Roster) (state : RadioState) : Tracker :=
  { t with
    run := some { run with worker := .live roster false }
    recorded := state
    recordings := if t.recorded ≠ state then t.recordings + 1 else t.recordings }

/-- The next access of the worker. -/
def access (w : Handling) : Option Event × Handling :=
  let t := w.tracker
  match w.hand with
  | .idle => (none, take t)
  | .taken e =>
    match t.live? with
    | none => (none, w)
    | some (run, roster, firstRead) => (none, ask t run roster firstRead e)
  | .asked e state =>
    match t.live? with
    | none => (none, w)
    | some (run, roster, firstRead) =>
      let changed := t.recorded ≠ state || firstRead
      (some (.recorded e.caller state changed),
        ⟨record t run roster state,
          .telling e (if changed then [.stateChanged state] else []) (.radioState state changed)⟩)
  | .ingested e report entries =>
    -- readers find the entries from here on; those that wait are woken when they are counted
    (some (.shown e.caller report entries),
      ⟨{ t with feed := ⟨entries, t.feed.version⟩ }, .shown e report⟩)
  | .shown e report =>
    (none, ⟨{ t with feed := ⟨t.feed.snapshot, t.feed.version + 1⟩ }, .counted e report⟩)
  | .counted e report =>
    -- the notice takes what is shown now, not what the worker has shown before
    (none, ⟨t, .telling e [.entriesChanged t.feed.snapshot] (.ingested report)⟩)
  | .telling e notices o =>
    (none, ⟨{ t with run := t.run.map (Run.tellAll · notices) }, .answering e o⟩)
  | .answering e o => (none, ⟨t.answer [e] (.ok o), .idle⟩)

/-- What a step makes happen, and what it leaves behind. -/
def act (w : Handling) : Step → Option Event × Handling
  | .work => w.access
  | s => ((w.tracker.happening? s).bind Event.of?, ⟨w.tracker.step s, w.hand⟩)

/-- What a step makes happen that observers can tell, if anything. -/
def event? (w : Handling) (s : Step) : Option Event :=
  (w.act s).1

/-- What a step leaves behind. -/
def step (w : Handling) (s : Step) : Handling :=
  (w.act s).2

/-- What some steps leave behind. -/
def after (w : Handling) (steps : List Step) : Handling :=
  steps.foldl step w

/-- What some steps make happen, in order. -/
def log (w : Handling) : List Step → List Event
  | [] => []
  | s :: rest => (w.event? s).toList ++ log (w.step s) rest

/-- A stopped tracker that has seen nothing. -/
def new (config : TrackerConfig) (radio : Radio) (clock : Int64) : Handling :=
  ⟨.new config radio clock, .idle⟩

theorem after_append (w : Handling) (steps more : List Step) :
    w.after (steps ++ more) = (w.after steps).after more :=
  List.foldl_append

theorem after_concat (w : Handling) (steps : List Step) (s : Step) :
    w.after (steps ++ [s]) = (w.after steps).step s :=
  w.after_append steps [s]

theorem log_concat (w : Handling) (steps : List Step) (s : Step) :
    w.log (steps ++ [s]) = w.log steps ++ ((w.after steps).event? s).toList := by
  induction steps generalizing w with
  | nil => simp [log, after]
  | cons first rest ih =>
      simp only [List.cons_append, log, ih, List.append_assoc]
      rfl

theorem act_of_ne_work (w : Handling) {s : Step} (h : s ≠ .work) :
    w.act s = ((w.tracker.happening? s).bind Event.of?, ⟨w.tracker.step s, w.hand⟩) := by
  cases s with
  | work => exact absurd rfl h
  | _ => rfl

section

variable {w : Handling} {run : Run} {roster : Roster} {firstRead : Bool} {e : Envelope}
  (hlive : w.tracker.live? = some (run, roster, firstRead))

include hlive

theorem access_taken (hhand : w.hand = .taken e) :
    w.access = (none, ask w.tracker run roster firstRead e) := by
  simp only [access, hhand, hlive]

theorem access_asked {state : RadioState} (hhand : w.hand = .asked e state) :
    w.access =
      let changed := w.tracker.recorded ≠ state || firstRead
      (some (.recorded e.caller state changed),
        ⟨record w.tracker run roster state,
          .telling e (if changed then [.stateChanged state] else [])
            (.radioState state changed)⟩) := by
  simp only [access, hhand, hlive]

end

/-- A worker that is not live gets no further with what it has in hand. -/
theorem access_of_not_live {w : Handling} {e : Envelope} (hdead : w.tracker.live? = none)
    (hhand : w.hand = .taken e ∨ ∃ state, w.hand = .asked e state) : w.access = (none, w) := by
  rcases hhand with hhand | ⟨state, hhand⟩
  · simp only [access, hhand, hdead]
  · simp only [access, hhand, hdead]

/-! ## What a step can do -/

/-- What can come of a step. -/
inductive Move (w : Handling) : Step → Option Event → Handling → Prop
  /-- The tracker takes a step in which no signal is handled. -/
  | tracker (s : Step) (hquiet : s = .work → w.hand = .idle ∧ w.tracker.happening? s = none) :
      Move w s ((w.tracker.happening? s).bind Event.of?) ⟨w.tracker.step s, w.hand⟩
  /-- A worker that is not live has nothing in hand. -/
  | stuck (hbusy : w.hand ≠ .idle) (hdead : w.tracker.live? = none) : Move w .work none w
  /-- A signal is taken out of the queue. -/
  | taken (run : Run) (e : Envelope) (rest : List Envelope) (hidle : w.hand = .idle)
      (hrun : w.tracker.run = some run) (hlive : run.worker.isLive = true)
      (hqueue : run.queue = e :: rest) :
      Move w .work none ⟨{ w.tracker with run := some (Run.shift run rest) }, .taken e⟩
  /-- The source crashes, and the worker with it. -/
  | crashed (run : Run) (e : Envelope) (hhand : w.hand = .taken e)
      (hrun : w.tracker.run = some run) (hlive : run.worker.isLive = true) :
      Move w .work none ⟨w.tracker.endWorker run .crashed [e], .idle⟩
  /-- There is no scan list. -/
  | missed (e : Envelope) (hhand : w.hand = .taken e) :
      Move w .work none ⟨w.tracker, .answering e .sourceUnavailable⟩
  /-- The source has told a radio state. -/
  | asked (e : Envelope) (hhand : w.hand = .taken e) :
      Move w .work none ⟨w.tracker, .asked e w.tracker.radio.state⟩
  /-- The source had a scan list, and the roster has taken it in. -/
  | ingested (run : Run) (roster : Roster) (firstRead : Bool) (e : Envelope) (c : Cycle)
      (hhand : w.hand = .taken e) (hrun : w.tracker.run = some run)
      (hworker : run.worker = .live roster firstRead) :
      Move w .work none
        ⟨{ w.tracker with
            run := some { run with worker := .live (roster.apply c).1 firstRead } },
          .ingested e (roster.apply c).2 (roster.apply c).1.entries⟩
  /-- A radio state is taken down. -/
  | recorded (run : Run) (roster : Roster) (firstRead : Bool) (e : Envelope) (state : RadioState)
      (changed : Bool) (hhand : w.hand = .asked e state) (hrun : w.tracker.run = some run)
      (hworker : run.worker = .live roster firstRead) :
      Move w .work (some (.recorded e.caller state changed))
        ⟨record w.tracker run roster state,
          .telling e (if changed then [.stateChanged state] else []) (.radioState state changed)⟩
  /-- The entries are shown. -/
  | shown (e : Envelope) (report : CycleReport) (entries : Snapshot)
      (hhand : w.hand = .ingested e report entries) :
      Move w .work (some (.shown e.caller report entries))
        ⟨{ w.tracker with feed := ⟨entries, w.tracker.feed.version⟩ }, .shown e report⟩
  /-- Their publish is counted. -/
  | counted (e : Envelope) (report : CycleReport) (hhand : w.hand = .shown e report) :
      Move w .work none
        ⟨{ w.tracker with feed := ⟨w.tracker.feed.snapshot, w.tracker.feed.version + 1⟩ },
          .counted e report⟩
  /-- The list that is shown is loaded for the notice. -/
  | loaded (e : Envelope) (report : CycleReport) (hhand : w.hand = .counted e report) :
      Move w .work none
        ⟨w.tracker, .telling e [.entriesChanged w.tracker.feed.snapshot] (.ingested report)⟩
  /-- The notices go to the notifier, if it is still there. -/
  | told (e : Envelope) (notices : List Notice) (o : SignalOutcome)
      (hhand : w.hand = .telling e notices o) :
      Move w .work none
        ⟨{ w.tracker with run := w.tracker.run.map (Run.tellAll · notices) }, .answering e o⟩
  /-- The call of the signal is answered. -/
  | answered (e : Envelope) (o : SignalOutcome) (hhand : w.hand = .answering e o) :
      Move w .work none ⟨w.tracker.answer [e] (.ok o), .idle⟩

section

variable {w : Handling}

theorem move_take (hidle : w.hand = .idle) : Move w .work none (take w.tracker) := by
  -- where no signal is taken, nothing happens that observers can tell
  have hquiet (hnone : w.tracker.nextSignal? = none) :
      Move w .work none ⟨w.tracker.work, .idle⟩ := by
    have hnothing : w.tracker.happening? .work = none := by rw [Tracker.happening?, hnone]; rfl
    have hmove := Move.tracker (w := w) .work fun _ => ⟨hidle, hnothing⟩
    rwa [hnothing, hidle] at hmove
  unfold take
  cases hlive : w.tracker.live? with
  | none =>
      refine hquiet ?_
      unfold Tracker.nextSignal?
      unfold Tracker.live? at hlive
      cases hrun : w.tracker.run with
      | none => rfl
      | some run => cases hworker : run.worker <;> simp_all [Worker.isLive]
  | some worker =>
      obtain ⟨run, roster, firstRead⟩ := worker
      obtain ⟨hrun, hworker⟩ := Tracker.live?_eq_some_iff.mp hlive
      dsimp only
      cases hcancelled : run.cancelled with
      | true => exact hquiet (by simp [Tracker.nextSignal?, hrun, hcancelled])
      | false =>
          cases hqueue : run.queue with
          | nil => exact hquiet (by simp [Tracker.nextSignal?, hrun, hqueue])
          | cons e rest => exact .taken run e rest hidle hrun (by rw [hworker]; rfl) hqueue

theorem move_ask {run : Run} {roster : Roster} {firstRead : Bool} {e : Envelope}
    (hhand : w.hand = .taken e) (hrun : w.tracker.run = some run)
    (hworker : run.worker = .live roster firstRead) :
    Move w .work none (ask w.tracker run roster firstRead e) := by
  have hlive : run.worker.isLive = true := by rw [hworker]; rfl
  unfold ask
  split
  · split
    · exact .crashed run e hhand hrun hlive
    · exact .asked e hhand
  · split
    · exact .crashed run e hhand hrun hlive
    · exact .missed e hhand
    · exact .ingested run roster firstRead e _ hhand hrun hworker

theorem move_access (w : Handling) : Move w .work w.access.1 w.access.2 := by
  cases hhand : w.hand with
  | idle =>
      have haccess : w.access = (none, take w.tracker) := by simp only [access, hhand]
      rw [haccess]
      exact move_take hhand
  | taken e =>
      cases hlive : w.tracker.live? with
      | none =>
          rw [access_of_not_live hlive (Or.inl hhand)]
          exact .stuck (by simp [hhand]) hlive
      | some worker =>
          obtain ⟨run, roster, firstRead⟩ := worker
          obtain ⟨hrun, hworker⟩ := Tracker.live?_eq_some_iff.mp hlive
          rw [access_taken hlive hhand]
          exact move_ask hhand hrun hworker
  | asked e state =>
      cases hlive : w.tracker.live? with
      | none =>
          rw [access_of_not_live hlive (Or.inr ⟨state, hhand⟩)]
          exact .stuck (by simp [hhand]) hlive
      | some worker =>
          obtain ⟨run, roster, firstRead⟩ := worker
          obtain ⟨hrun, hworker⟩ := Tracker.live?_eq_some_iff.mp hlive
          rw [access_asked hlive hhand]
          exact .recorded run roster firstRead e state _ hhand hrun hworker
  | ingested e report entries =>
      simp only [access, hhand]
      exact .shown e report entries hhand
  | shown e report =>
      simp only [access, hhand]
      exact .counted e report hhand
  | counted e report =>
      simp only [access, hhand]
      exact .loaded e report hhand
  | telling e notices o =>
      simp only [access, hhand]
      exact .told e notices o hhand
  | answering e o =>
      simp only [access, hhand]
      exact .answered e o hhand

/-- Every step is a move, and makes happen what the move does. -/
theorem move_step (w : Handling) (s : Step) : Move w s (w.event? s) (w.step s) := by
  by_cases hwork : s = .work
  · subst hwork
    exact move_access w
  · rw [event?, step, act_of_ne_work w hwork]
    exact .tracker s fun h => absurd h hwork

end

/-! ## A signal with nothing in between -/

/-- Whether a worker that is left alone comes to this tracker and has nothing in hand there. -/
def Completes (w : Handling) (t : Tracker) : Prop :=
  ∃ n, w.after (List.replicate n .work) = ⟨t, .idle⟩

theorem completes_idle (t : Tracker) : Completes ⟨t, .idle⟩ t := ⟨0, rfl⟩

theorem completes_of_access {w : Handling} {t : Tracker} (h : Completes w.access.2 t) :
    Completes w t := by
  obtain ⟨n, hn⟩ := h
  exact ⟨n + 1, hn⟩

section

variable {t : Tracker} {run : Run} {roster : Roster} {firstRead : Bool} {e : Envelope}

theorem completes_answering (t : Tracker) (e : Envelope) (o : SignalOutcome) :
    Completes ⟨t, .answering e o⟩ (t.answer [e] (.ok o)) :=
  completes_of_access (completes_idle _)

theorem completes_telling (t : Tracker) (e : Envelope) (notices : List Notice) (o : SignalOutcome) :
    Completes ⟨t, .telling e notices o⟩
      ({ t with run := t.run.map (Run.tellAll · notices) }.answer [e] (.ok o)) :=
  completes_of_access (completes_answering _ e o)

theorem completes_ingested (t : Tracker) (e : Envelope) (report : CycleReport) (entries : Snapshot) :
    Completes ⟨t, .ingested e report entries⟩
      ({ t with
        feed := t.feed.publish entries
        run := t.run.map (Run.tellAll · [.entriesChanged entries]) }.answer [e]
          (.ok (.ingested report))) :=
  completes_of_access (completes_of_access (completes_of_access (completes_telling _ e _ _)))

theorem completes_asked (hlive : t.live? = some (run, roster, firstRead)) (e : Envelope) :
    Completes ⟨t, .asked e t.radio.state⟩ (t.recordState run roster firstRead e) := by
  refine completes_of_access ?_
  rw [access_asked (w := ⟨t, .asked e t.radio.state⟩) hlive rfl]
  have htold := Tracker.told_state t { run with worker := .live roster false } firstRead
  unfold Tracker.recordState
  dsimp only at htold ⊢
  rw [htold]
  unfold Tracker.stateNotices
  simpa [record] using completes_telling (record t run roster t.radio.state) e
    (if (t.recorded ≠ t.radio.state || firstRead) then [.stateChanged t.radio.state] else [])
    (.radioState t.radio.state (t.recorded ≠ t.radio.state || firstRead))

theorem completes_taken (hlive : t.live? = some (run, roster, firstRead)) (e : Envelope) :
    Completes ⟨t, .taken e⟩
      (match e.signal with
        | .radioState => t.readState run roster firstRead e
        | .scanResults updated => t.takeScan run roster firstRead updated e) := by
  refine completes_of_access ?_
  rw [access_taken (w := ⟨t, .taken e⟩) hlive rfl]
  obtain ⟨hrun, hworker⟩ := Tracker.live?_eq_some_iff.mp hlive
  unfold ask
  cases e.signal with
  | radioState =>
      dsimp only
      unfold Tracker.readState
      split
      · exact completes_idle _
      · exact completes_asked hlive e
  | scanResults updated =>
      dsimp only
      unfold Tracker.takeScan
      cases hreply : t.radio.reply with
      | crashed => exact completes_idle _
      | failed cause =>
          dsimp only
          rw [← hworker, ← hrun]
          exact completes_answering t e .sourceUnavailable
      | found sightings =>
          dsimp only
          rw [Tracker.Run.tell_eq_tellAll]
          exact completes_ingested _ e _ _

end

/-- A signal that is handled with nothing in between is what the tracker makes of it in one step. -/
theorem exists_after_work (t : Tracker) : Completes ⟨t, .idle⟩ t.work := by
  refine completes_of_access ?_
  have haccess : (Handling.mk t .idle).access = (none, take t) := rfl
  rw [haccess]
  unfold take
  cases hlive : t.live? with
  | none => exact completes_idle _
  | some worker =>
      obtain ⟨run, roster, firstRead⟩ := worker
      obtain ⟨hrun, hworker⟩ := Tracker.live?_eq_some_iff.mp hlive
      dsimp only
      cases hcancelled : run.cancelled with
      | true => exact completes_idle _
      | false =>
          cases hqueue : run.queue with
          | nil => exact completes_idle _
          | cons e rest =>
              -- the signal is out of the queue before the source is asked
              rw [Tracker.work_of_queue hrun hworker hcancelled hqueue]
              have htaken := completes_taken (e := e)
                (t := { t with run := some (Run.shift run rest) })
                (Tracker.live?_eq_some_iff.mpr ⟨rfl, hworker⟩)
              exact htaken

/-- Every run of the tracker is one in which signals are handled with nothing in between. -/
theorem exists_after_steps (t : Tracker) (steps : List Step) :
    ∃ accesses, (Handling.mk t .idle).after accesses = ⟨t.after steps, .idle⟩ := by
  induction steps using List.reverseRecOn with
  | nil => exact ⟨[], rfl⟩
  | append_singleton steps s ih =>
      obtain ⟨accesses, haccesses⟩ := ih
      rw [Tracker.after_concat]
      by_cases hwork : s = .work
      · subst hwork
        obtain ⟨n, hn⟩ := exists_after_work (t.after steps)
        exact ⟨accesses ++ List.replicate n .work, by rw [after_append, haccesses]; exact hn⟩
      · refine ⟨accesses ++ [s], ?_⟩
        rw [after_concat, haccesses, step, act_of_ne_work _ hwork]

end Handling

end ScanRoster
