import Mathlib.Data.List.Induction
import ScanRoster.Proofs.Tracker.Passage

/-!
# Observers change nothing

The engine of a tracker is what is left without its observers' side: the notices, the notifier, the
callbacks and the broadcast.  Every step of the engine reads the engine only, and a step of the
observers' side leaves the engine as it is, so that what the engine has come to depends on its own
steps and on nothing else.  There is one place where the engine waits for the other side: a stop
returns only once the notifier has ended.  Until then its looks at the helpers change nothing, and
the notifier ends after a bounded number of turns, whether its callbacks crash or not.
-/

namespace ScanRoster

/-- Whether a step is a piece of the notifier's work. -/
def Step.isNotify : Step → Bool
  | .notify => true
  | _ => false

namespace Tracker

/-! ## The engine -/

/-- A run without its observers' side: there is nothing to tell, and the notifier has ended. -/
def Run.engine (run : Run) : Run :=
  { run with notices := [], notifier := .ended }

/-- A tracker without its observers' side. -/
def engine (t : Tracker) : Tracker :=
  { t with run := t.run.map Run.engine, audience := ⟨0, 0, false, .empty⟩ }

/-- Whether a step is that of a stop for which it is too early, as the notifier has not ended. -/
def awaitsNotifier (t : Tracker) : Step → Bool
  | .advance id =>
    match t.calls.find? (·.id == id), t.run with
    | some c, some run => decide (c.stage = .helpers) && run.notifier.isLive
    | _, _ => false
  | _ => false

/-- Whether a step is one of the engine: neither one of the notifier or of the callbacks, nor one
for which it is too early because of the notifier. -/
def isEngineStep (t : Tracker) : Step → Bool
  | .notify | .setCallbacks _ => false
  | s => !t.awaitsNotifier s

/-- The steps of the engine among some steps. -/
def engineSteps (t : Tracker) : List Step → List Step
  | [] => []
  | s :: rest => (if t.isEngineStep s then [s] else []) ++ engineSteps (t.step s) rest

/-- What some steps make of an engine, where there are no observers at any time. -/
def engineAfter (t : Tracker) (steps : List Step) : Tracker :=
  steps.foldl (fun e s => (e.step s).engine) t

/-! ## Every step of the engine reads the engine only -/

section

variable (t : Tracker) (run : Run) (id : Nat)

/-- A tracker has no run, or one with all its tasks. -/
@[elab_as_elim]
theorem run_cases {motive : Tracker → Prop} (idle : ∀ t : Tracker, motive { t with run := none })
    (busy : ∀ (t : Tracker) worker queue line notices notifier trigger cancelled,
      motive { t with run := some ⟨worker, queue, line, notices, notifier, trigger, cancelled⟩ })
    (t : Tracker) : motive t := by
  cases hrun : t.run with
  | none =>
      have hidle : { t with run := none } = t := by rw [← hrun]
      exact hidle ▸ idle t
  | some run =>
      have hbusy : { t with run := some run } = t := by rw [← hrun]
      exact hbusy ▸ busy t ..

@[simp] theorem engine_engine : t.engine.engine = t.engine := by
  cases t using run_cases <;> rfl

theorem engine_beginStart : t.beginStart.engine = t.engine.beginStart.engine := by
  have hconfig : t.engine.config = t.config := rfl
  unfold beginStart
  rw [hconfig]
  cases t using run_cases <;> split <;> rfl

theorem engine_begin (kind : CallKind) (stage : Stage) :
    (t.begin kind stage).engine = (t.engine.begin kind stage).engine := by
  cases t using run_cases <;> rfl

theorem engine_enterStart : (t.enterStart id).engine = (t.engine.enterStart id).engine := by
  cases t using run_cases with
  | idle => rfl
  | busy t worker queue line notices notifier trigger cancelled =>
      cases cancelled <;> rfl

theorem engine_enterStop : (t.enterStop id).engine = (t.engine.enterStop id).engine := by
  cases t using run_cases with
  | idle => rfl
  | busy t worker queue line notices notifier trigger cancelled =>
      cases cancelled <;> rfl

theorem engine_parkRoster : (t.parkRoster id).engine = (t.engine.parkRoster id).engine := by
  cases t using run_cases with
  | idle => rfl
  | busy t worker queue line notices notifier trigger cancelled =>
      cases worker <;> rfl

/-- A stop that waits for the helpers reads of the notifier only whether it has ended. -/
theorem engine_finishStop (hended : ∀ run ∈ t.run, run.notifier.isLive = false) :
    (t.finishStop id).engine = (t.engine.finishStop id).engine := by
  cases t using run_cases with
  | idle => rfl
  | busy t worker queue line notices notifier trigger cancelled =>
      have hnotifier : notifier.isLive = false := hended _ rfl
      unfold finishStop
      dsimp only [engine, Option.map_some, Run.engine]
      rw [hnotifier]
      cases trigger <;> rfl

theorem engine_handIn (s : Signal) : (t.handIn id s).engine = (t.engine.handIn id s).engine := by
  cases t using run_cases with
  | idle t =>
      unfold handIn
      dsimp only [engine, Option.map_none]
      cases t.intake <;> rfl
  | busy t =>
      unfold handIn
      dsimp only [engine, Option.map_some, Run.engine]
      cases t.intake with
      | false => rfl
      | true =>
          dsimp only
          split
          · split <;> rfl
          · rfl

theorem engine_advance (hended : t.awaitsNotifier (.advance id) = false) :
    (t.advance id).engine = (t.engine.advance id).engine := by
  have hcalls : t.engine.calls = t.calls := rfl
  have hheld : t.engine.lifecycleHeld = t.lifecycleHeld := rfl
  unfold advance
  rw [hcalls]
  cases hfind : t.calls.find? (·.id == id) with
  | none => exact (engine_engine t).symm
  | some c =>
      dsimp only
      cases hstage : c.stage with
      | lifecycle =>
          dsimp only
          rw [hheld]
          cases t.lifecycleHeld with
          | true => exact (engine_engine t).symm
          | false =>
              cases c.kind with
              | start => exact engine_enterStart t id
              | stop => exact engine_enterStop t id
              | signal => exact (engine_engine t).symm
      | worker => exact engine_parkRoster t id
      | helpers =>
          refine engine_finishStop t id fun run hrun => ?_
          simpa [awaitsNotifier, hfind, hstage, Option.mem_def.mp hrun] using hended
      | intake s => exact engine_handIn t id s
      | answered r => exact (engine_engine (t.setStage id (.finished r))).symm
      | answer => exact (engine_engine t).symm
      | finished r => exact (engine_engine t).symm

theorem refusal?_engine : t.engine.refusal? = t.refusal? := by
  cases t using run_cases with
  | idle => rfl
  | busy t =>
      unfold refusal?
      dsimp only [engine, Option.map_some, Run.engine]
      cases t.intake <;> rfl

theorem engine_send (s : Signal) : (t.send s).engine = (t.engine.send s).engine := by
  unfold send
  rw [refusal?_engine]
  cases t.refusal? <;> cases t using run_cases <;> rfl

theorem engine_recordState (roster : Roster) (firstRead : Bool) (e : Envelope) :
    (t.recordState run roster firstRead e).engine =
      (t.engine.recordState (Run.engine run) roster firstRead e).engine := by
  unfold recordState
  dsimp only
  rw [told_state, told_state]
  rfl

theorem engine_readState (roster : Roster) (firstRead : Bool) (e : Envelope) :
    (t.readState run roster firstRead e).engine =
      (t.engine.readState (Run.engine run) roster firstRead e).engine := by
  have hradio : t.engine.radio = t.radio := rfl
  unfold readState
  rw [hradio]
  split
  · rfl
  · exact engine_recordState t run roster firstRead e

theorem engine_takeScan (roster : Roster) (firstRead updated : Bool) (e : Envelope) :
    (t.takeScan run roster firstRead updated e).engine =
      (t.engine.takeScan (Run.engine run) roster firstRead updated e).engine := by
  have hradio : t.engine.radio = t.radio := rfl
  unfold takeScan
  rw [hradio]
  split
  · rfl
  · rfl
  · dsimp only
    rw [Run.tell_eq_tellAll, Run.tell_eq_tellAll]
    rfl

theorem engine_work : t.work.engine = t.engine.work.engine := by
  cases t using run_cases with
  | idle => rfl
  | busy t worker queue line notices notifier trigger cancelled =>
      cases worker with
      | ended roster => rfl
      | crashed => rfl
      | live roster firstRead =>
          cases cancelled with
          | true => rfl
          | false =>
              match queue with
              | [] => rfl
              | ⟨.radioState, caller⟩ :: rest => exact engine_readState _ _ roster firstRead _
              | ⟨.scanResults updated, caller⟩ :: rest =>
                  exact engine_takeScan _ _ roster firstRead updated _

theorem engine_wakeTrigger : t.wakeTrigger.engine = t.engine.wakeTrigger.engine := by
  cases t using run_cases with
  | idle => rfl
  | busy t worker queue line notices notifier trigger cancelled =>
      cases trigger <;> cases cancelled <;> rfl

theorem engine_tick : t.tick.engine = t.engine.tick.engine := by
  cases t using run_cases with
  | idle => rfl
  | busy t worker queue line notices notifier trigger cancelled =>
      cases trigger with
      | ticking next =>
          cases cancelled with
          | true => rfl
          | false =>
              by_cases hdue : next ≤ t.elapsed
              · simp only [tick, engine, Run.engine, Option.map_some, hdue, if_true]
                rfl
              · simp only [tick, engine, Run.engine, Option.map_some, hdue, if_false]
      | absent | fresh | ended => cases cancelled <;> rfl

theorem engine_passTime (nanos : Nat) :
    (t.passTime nanos).engine = (t.engine.passTime nanos).engine := by
  cases t using run_cases with
  | idle => rfl
  | busy t worker queue line notices notifier trigger cancelled =>
      cases trigger <;> cases cancelled <;> rfl

theorem engine_notify : t.notify.engine = t.engine := by
  cases t using run_cases with
  | idle => rfl
  | busy t worker queue line notices notifier trigger cancelled =>
      unfold notify
      cases notifier with
      | telling n => rfl
      | ended => cases notices <;> rfl
      | crashed => cases notices <;> rfl
      | live =>
          cases notices with
          | nil => cases worker <;> rfl
          | cons n rest =>
              dsimp only
              split <;> rfl

variable {t}

/-- A stop for which it is too early changes nothing. -/
theorem step_of_awaitsNotifier {s : Step} (hawaits : t.awaitsNotifier s = true) : t.step s = t := by
  cases s with
  | advance id =>
      unfold awaitsNotifier at hawaits
      dsimp only at hawaits
      split at hawaits
      · rename_i c run hfind hrun
        rw [Bool.and_eq_true, decide_eq_true_eq] at hawaits
        obtain ⟨hstage, hlive⟩ := hawaits
        have hadvance : t.advance id = t.finishStop id := by simp [advance, hfind, hstage]
        show t.advance id = t
        rw [hadvance, finishStop, hrun]
        simp [hlive]
      · contradiction
  | _ => contradiction

theorem engine_step {s : Step} (hengine : t.isEngineStep s = true) :
    (t.step s).engine = (t.engine.step s).engine := by
  cases s with
  | beginStart => exact engine_beginStart t
  | beginStop => exact engine_begin t _ _
  | beginSignal s => exact engine_begin t _ _
  | advance id => exact engine_advance t id (by simpa [isEngineStep] using hengine)
  | send s => exact engine_send t s
  | work => exact engine_work t
  | notify => contradiction
  | trigger => exact engine_wakeTrigger t
  | tick => exact engine_tick t
  | passTime nanos => exact engine_passTime t nanos
  | setClock now => cases t using run_cases <;> rfl
  | setRadio change => cases t using run_cases <;> rfl
  | setCallbacks crashing => contradiction

theorem engine_step_of_not {s : Step} (hengine : t.isEngineStep s = false) :
    (t.step s).engine = t.engine := by
  cases s with
  | notify => exact engine_notify t
  | setCallbacks crashing => rfl
  | advance id => rw [step_of_awaitsNotifier (by simpa [isEngineStep] using hengine)]
  | _ => contradiction

/-- What the engine has come to depends on its own steps and on nothing else. -/
theorem engine_after (t : Tracker) (steps : List Step) :
    (t.after steps).engine = t.engine.engineAfter (t.engineSteps steps) := by
  induction steps generalizing t with
  | nil => rfl
  | cons s rest ih =>
      have hrest : (t.after (s :: rest)).engine =
          (t.step s).engine.engineAfter ((t.step s).engineSteps rest) := ih (t.step s)
      rw [hrest, engineSteps]
      cases hengine : t.isEngineStep s with
      | true =>
          rw [engine_step hengine]
          rfl
      | false =>
          rw [engine_step_of_not hengine]
          rfl

end

/-! ## How long a stop waits for the notifier -/

/-- How many turns the notifier of a run still takes, once no more notices come. -/
def Run.backlog (run : Run) : Nat :=
  match run.notifier with
  | .live => 2 * run.notices.length + 1
  | .telling _ => 2 * run.notices.length + 2
  | .ended | .crashed => 0

/-- How many turns the notifier still takes, once no more notices come. -/
def backlog (t : Tracker) : Nat :=
  match t.run with
  | none => 0
  | some run => Run.backlog run

/-- Whether a call has returned, or waits for the helpers while the notifier takes at most so many
turns. -/
def Closing (t : Tracker) (id n : Nat) : Prop :=
  t.Returned id ∨ ∃ c ∈ t.calls, c.id = id ∧ c.stage = .helpers ∧ t.backlog ≤ n

section

variable {t : Tracker} {id n : Nat} {log : List Delivery}

/-- Each turn brings the notifier nearer to its end, whether callbacks crash or not. -/
theorem backlog_notify (hdead : ∀ run ∈ t.run, run.worker.isLive = false) :
    t.notify.backlog ≤ t.backlog - 1 := by
  cases hrun : t.run with
  | none =>
      have hstill : t.notify = t := by simp [notify, hrun]
      simp [hstill, backlog, hrun]
  | some run =>
      have hended := hdead run hrun
      cases hnotifier : run.notifier with
      | telling n => simp [notify, backlog, Run.backlog, hrun, hnotifier]
      | ended => simp [notify, backlog, Run.backlog, hrun, hnotifier]
      | crashed => simp [notify, backlog, Run.backlog, hrun, hnotifier]
      | live =>
          cases hnotices : run.notices with
          | nil => simp [notify, backlog, Run.backlog, hrun, hnotifier, hnotices, hended]
          | cons n rest =>
              cases hcrashing : t.audience.crashing with
              | true => simp [notify, backlog, Run.backlog, hrun, hnotifier, hnotices, hcrashing]
              | false =>
                  simp [notify, backlog, Run.backlog, hrun, hnotifier, hnotices, hcrashing]
                  omega

theorem calls_notify (t : Tracker) : t.notify.calls = t.calls := by
  have hcalls : t.notify.engine.calls = t.engine.calls := by rw [engine_notify]
  exact hcalls

theorem closing_of_awaitsNotifier (h : t.awaitsNotifier (.advance id) = true) :
    Closing t id t.backlog := by
  unfold awaitsNotifier at h
  dsimp only at h
  split at h
  · rename_i c run hfind hrun
    obtain ⟨hc, hid⟩ := mem_of_find?_calls hfind
    rw [Bool.and_eq_true, decide_eq_true_eq] at h
    exact Or.inr ⟨c, hc, hid, h.1, Nat.le_refl _⟩
  · contradiction

/-- Once the notifier takes no more turns, no stop waits for it. -/
theorem Closing.awaitsNotifier_eq_false (h : Closing t id 0) (henrolled : Enrolled t) :
    t.awaitsNotifier (.advance id) = false := by
  rcases h with ⟨c, hc, rfl, r, hfinished⟩ | ⟨c, hc, rfl, hstage, hbacklog⟩
  · cases hrun : t.run <;> simp [awaitsNotifier, henrolled.find?_eq hc, hrun, hfinished]
  · cases hrun : t.run with
    | none => simp [awaitsNotifier, hrun]
    | some run =>
        have hended : run.notifier.isLive = false := by
          cases hnotifier : run.notifier with
          | ended => rfl
          | crashed => rfl
          | live => simp [backlog, Run.backlog, hrun, hnotifier] at hbacklog
          | telling n => simp [backlog, Run.backlog, hrun, hnotifier] at hbacklog
        simp [awaitsNotifier, henrolled.find?_eq hc, hrun, hended]

theorem closing_step (horderly : Orderly t) (hattended : Attended t log) (s : Step)
    (h : Closing t id n) : Closing (t.step s) id (n - [s].countP Step.isNotify) := by
  rcases h with hreturned | ⟨c, hc, rfl, hstage, hbacklog⟩
  · exact Or.inl (returned_move (move_step t s) horderly.enrolled hattended hreturned)
  -- the stop holds the lifecycle, and the worker has ended
  have hmem : Stage.helpers ∈ t.held := hstage ▸ stage_mem_held hc (by rw [hstage]; rfl)
  have hdead : ∀ run ∈ t.run, run.worker.isLive = false :=
    fun run hrun => (horderly.phase.of_helpers hmem hrun).2.1
  cases hnotify : s.isNotify with
  | true =>
      obtain rfl : s = .notify := by
        cases s with
        | notify => rfl
        | _ => contradiction
      have hturn := backlog_notify hdead
      refine Or.inr ⟨c, (calls_notify t).symm ▸ hc, rfl, hstage, ?_⟩
      show t.notify.backlog ≤ n - 1
      omega
  | false =>
      have hcount : n - [s].countP Step.isNotify = n := by simp [hnotify]
      rw [hcount]
      have hbusy : t.lifecycleHeld ≠ false := fun hfree =>
        List.ne_nil_of_mem hmem (lifecycleHeld_eq_false_iff.mp hfree)
      have hothers : ∀ {d : Call}, d ∈ t.calls → d.stage ≠ .helpers → c.id ≠ d.id := by
        intro d hd hne hid
        rw [horderly.enrolled.eq_of_id_eq hc hd hid] at hstage
        exact hne hstage
      have hlive : ∀ {run : Run}, t.run = some run → run.worker.isLive ≠ true := by
        intro run hrun hlive
        rw [hdead run hrun] at hlive
        contradiction
      -- with the lifecycle held and the worker gone, nothing can begin another run or give this one
      -- anything to do
      have hmove := move_step t s
      generalize t.happening? s = happening at hmove
      generalize t.step s = t' at hmove ⊢
      cases hmove with
      | begun _ kind stage => exact Or.inr ⟨c, List.mem_append_left _ hc, rfl, hstage, hbacklog⟩
      | left d r hd hbefore =>
          refine Or.inr ⟨c, mem_setStage_of_ne hc (hothers hd ?_) _, rfl, hstage, hbacklog⟩
          rcases hbefore with hbefore | ⟨s, hbefore⟩
          · rw [hbefore]; exact Stage.noConfusion
          · rw [hbefore]; exact Stage.noConfusion
      | spawned d hd hkind hbefore hfree => exact absurd hfree hbusy
      | cancelled d run hd hkind hbefore hfree => exact absurd hfree hbusy
      | parked d run hd hbefore hrun =>
          have hworker : Stage.worker ∈ t.held :=
            hbefore ▸ stage_mem_held hd (by rw [hbefore]; rfl)
          rw [(horderly.phase.of_helpers hmem hrun).1] at hworker
          simp at hworker
      | stopped d run hd hbefore hrun =>
          by_cases hid : c.id = d.id
          · refine Or.inl ⟨{ c with stage := .finished .done }, ?_, rfl, _, rfl⟩
            exact List.mem_map.mpr ⟨c, hc, if_pos hid⟩
          · exact Or.inr ⟨c, mem_setStage_of_ne (u := { t with run := none }) hc hid _, rfl, hstage,
              Nat.zero_le _⟩
      | returned d r hd hbefore =>
          exact Or.inr ⟨c, mem_setStage_of_ne hc (hothers hd (by rw [hbefore]; exact nofun)) _, rfl,
            hstage, hbacklog⟩
      | queued d run s hd hbefore hintake hrun hworker => exact absurd hworker (hlive hrun)
      | lined d run s hd hbefore hintake hrun hworker => exact absurd hworker (hlive hrun)
      | sent s run hintake hrun hworker => exact absurd hworker (hlive hrun)
      | ended run roster firstRead hrun hworker =>
          exact absurd (by rw [hworker]; rfl) (hlive hrun)
      | crashed run e rest roster firstRead hrun hworker =>
          exact absurd (by rw [hworker]; rfl) (hlive hrun)
      | stateRead run e rest roster firstRead hrun hworker =>
          exact absurd (by rw [hworker]; rfl) (hlive hrun)
      | scanMissed run e rest roster firstRead updated hrun hworker =>
          exact absurd (by rw [hworker]; rfl) (hlive hrun)
      | scanTaken run e rest roster firstRead updated sightings d hrun hworker =>
          exact absurd (by rw [hworker]; rfl) (hlive hrun)
      | world s radio clock elapsed trigger =>
          refine Or.inr ⟨c, hc, rfl, hstage, ?_⟩
          cases hrun : t.run with
          | none => simp [backlog]
          | some run => simpa [backlog, Run.backlog, hrun] using hbacklog
      | callbackCrashed | called | broadcast | notifierEnded => contradiction
      | still | callbacksSet => exact Or.inr ⟨c, hc, rfl, hstage, hbacklog⟩

theorem closing_after (config : TrackerConfig) (radio : Radio) (clock : Int64) (steps : List Step)
    (h : Closing ((new config radio clock).after steps) id n) (later : List Step) :
    Closing (((new config radio clock).after steps).after later) id
      (n - later.countP Step.isNotify) := by
  induction later using List.reverseRecOn with
  | nil => exact h
  | append_singleton later s ih =>
      rw [after_concat, List.countP_append, ← Nat.sub_sub]
      rw [← after_append] at ih ⊢
      exact closing_step (orderly_after config radio clock _) (attended_after config radio clock _)
        s ih

end

/-! ## Two runs -/

/-- A tracker with the receivers of its broadcast and the readers of its entry list. -/
structure Observed where
  tracker : Tracker
  receivers : List Receiver
  subscriptions : List Subscription
  streams : List EntryStream

namespace Observed

/-- Something that the tracker or one of its observers does.  Observers come at any time, and are
numbered in the order in which they come; they may look at any time, or never. -/
inductive Act
  | step (s : Step)
  | listen
  | receive (i : Nat)
  | drain (i : Nat)
  | subscribe
  | changed (i : Nat)
  | stream (i : Nat)
  | next (i : Nat)

/-- What an act leaves behind. -/
def act (w : Observed) : Act → Observed
  | .step s => { w with tracker := w.tracker.step s }
  | .listen => { w with receivers := w.receivers ++ [w.tracker.audience.broadcast.subscribe] }
  | .receive i =>
    { w with receivers := w.receivers.modify i fun r => (w.tracker.audience.broadcast.receive r).2 }
  | .drain i =>
    { w with receivers := w.receivers.modify i fun r => (w.tracker.audience.broadcast.drain r).2 }
  | .subscribe => { w with subscriptions := w.subscriptions ++ [w.tracker.feed.subscribe] }
  | .changed i =>
    { w with subscriptions := w.subscriptions.modify i fun s => (s.changed w.tracker.feed).2 }
  | .stream i =>
    { w with streams := w.streams ++ (w.subscriptions[i]?.map (·.intoStream)).toList }
  | .next i => { w with streams := w.streams.modify i fun s => (s.next w.tracker.feed).2 }

/-- What some acts leave behind. -/
def after (w : Observed) (acts : List Act) : Observed :=
  acts.foldl act w

/-- The steps of the tracker among some acts. -/
def steps (acts : List Act) : List Step :=
  acts.filterMap fun
    | .step s => some s
    | _ => none

/-- A tracker without observers. -/
def new (config : TrackerConfig) (radio : Radio) (clock : Int64) : Observed :=
  ⟨.new config radio clock, [], [], []⟩

/-- Receivers and readers leave no trace in the tracker. -/
theorem tracker_after (w : Observed) (acts : List Act) :
    (w.after acts).tracker = w.tracker.after (steps acts) := by
  induction acts generalizing w with
  | nil => rfl
  | cons a rest ih =>
      have hrest : (w.after (a :: rest)).tracker = (w.act a).tracker.after (steps rest) :=
        ih (w.act a)
      rw [hrest]
      cases a <;> rfl

end Observed

/-- Two runs of a tracker with the same steps of the engine, compared at any time.  Between these
steps there may be any steps of the observers' side, and other ones in one run than in the other:
callbacks crash at some times and not at others, receivers and readers come, look or are left
behind.  Still each call has come to the same result in both, a signal that is sent is refused for
the same reason, and entries, radio state, state of running and requests for scans are the same.
Nor do the observers keep a stop from returning: once the notifier has had as many turns as it had
before it, no stop waits for it any longer, so that the next step of the engine in one run is
possible in the other one too. -/
theorem observers_change_nothing (config : TrackerConfig) (radio : Radio) (clock : Int64)
    (acts acts' : List Observed.Act)
    (hsame : (new config radio clock).engineSteps (Observed.steps acts) =
      (new config radio clock).engineSteps (Observed.steps acts')) :
    let t := ((Observed.new config radio clock).after acts).tracker
    let t' := ((Observed.new config radio clock).after acts').tracker
    t.calls = t'.calls ∧ t.refusal? = t'.refusal? ∧
    t.entries = t'.entries ∧ t.feed.version = t'.feed.version ∧
    t.recorded = t'.recorded ∧ t.isRunning = t'.isRunning ∧
    t.radio.requested = t'.radio.requested ∧ t.radio.refused = t'.radio.refused ∧
    (∀ s later, t.awaitsNotifier s = true → t.backlog ≤ later.countP Step.isNotify →
      (t.after later).awaitsNotifier s = false) := by
  intro t t'
  have htracker : t = (new config radio clock).after (Observed.steps acts) :=
    Observed.tracker_after _ acts
  have htracker' : t' = (new config radio clock).after (Observed.steps acts') :=
    Observed.tracker_after _ acts'
  have hengine : t.engine = t'.engine := by
    rw [htracker, htracker', engine_after, engine_after, hsame]
  -- all that callers can see of a tracker can be read off its engine
  have hseen {α : Type} (f : Tracker → α) : f t.engine = f t'.engine := congrArg f hengine
  refine ⟨hseen calls, ?_, hseen entries, hseen (·.feed.version), hseen recorded, hseen isRunning,
    hseen (·.radio.requested), hseen (·.radio.refused), ?_⟩
  · rw [← refusal?_engine t, ← refusal?_engine t', hengine]
  · intro s later hawaits hturns
    cases s with
    | advance id =>
        have hclosing := closing_of_awaitsNotifier hawaits
        rw [htracker] at hclosing hturns ⊢
        have hafter := closing_after config radio clock _ hclosing later
        rw [Nat.sub_eq_zero_of_le hturns, ← after_append] at hafter
        rw [← after_append]
        exact hafter.awaitsNotifier_eq_false (orderly_after config radio clock _).enrolled
    | _ => contradiction

/-- A tracker whose callbacks crash, with a receiver and a reader, beside one without. -/
theorem observers_change_nothing_crashing :
    let config : TrackerConfig := ⟨.ofSeconds 15, .ofSeconds 10, false⟩
    let acts : List Observed.Act := [.step .beginStart, .step (.advance 0), .step (.advance 0),
      .step .work, .step (.advance 0), .step .beginStop, .step (.advance 1), .step .work,
      .step (.advance 1), .step (.advance 1), .step .notify, .step .notify, .step .notify,
      .step (.advance 1)]
    let acts' : List Observed.Act := [.listen, .step .beginStart, .step (.setCallbacks true),
      .step (.advance 0), .subscribe, .step (.advance 0), .step .work, .step .notify, .stream 0,
      .step (.advance 0), .step .beginStop, .next 0, .step (.advance 1), .step .work,
      .step (.advance 1), .step (.advance 1), .receive 0]
    let t := ((Observed.new config (.new .enabled) 0).after acts).tracker
    let t' := ((Observed.new config (.new .enabled) 0).after acts').tracker
    (new config (.new .enabled) 0).engineSteps (Observed.steps acts) =
      (new config (.new .enabled) 0).engineSteps (Observed.steps acts') ∧
    t.calls = [⟨0, .start, .finished .done⟩, ⟨1, .stop, .finished .done⟩] ∧ t.calls = t'.calls ∧
    t.audience.stateCalls = 1 ∧ t'.audience.stateCalls = 0 := by
  intro config acts acts' t t'
  have hsame : (new config (.new .enabled) 0).engineSteps (Observed.steps acts) =
      (new config (.new .enabled) 0).engineSteps (Observed.steps acts') := by cbv
  exact ⟨hsame, by decide +kernel, (observers_change_nothing config _ 0 acts acts' hsame).1,
    by decide +kernel, by decide +kernel⟩

end Tracker

end ScanRoster
