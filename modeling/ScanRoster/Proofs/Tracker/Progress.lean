import Mathlib.Data.List.Induction
import ScanRoster.Proofs.Tracker.Observers

/-!
# Starts and stops return

There is a bound on what a tracker can still do by itself, its potential, and every step of its own
that changes anything lowers it.  Where no such step changes anything, no start and no stop is left
waiting: the stop that holds the lifecycle waits for tasks that can still take a step, and every
other call waits for that stop or for the worker.  So calls never wait for each other in a circle,
and all starts and stops return once each call and each task has had enough turns, in any order.
-/

namespace ScanRoster

/-- How many steps a call at this stage can still bring about, those of the run that it may start
included. -/
def Stage.weight : Stage → Nat
  | .lifecycle => 10
  | .intake _ => 5
  | .worker => 2
  | .helpers | .answer | .answered _ => 1
  | .finished _ => 0

/-- How many steps a trigger can still take by itself. -/
def Trigger.weight : Trigger → Nat
  | .fresh => 2
  | .ticking _ => 1
  | .absent | .ended => 0

namespace Tracker

/-- How many steps the tasks of a run can still take by themselves.  A signal is applied in one, and
its notice is told in two. -/
def Run.weight (run : Run) : Nat :=
  run.worker.isLive.toNat + 3 * (run.queue.length + run.line.length) + Run.backlog run +
    run.trigger.weight

/-- How many steps some calls can still bring about. -/
def callWeight : List Call → Nat
  | [] => 0
  | c :: rest => c.stage.weight + callWeight rest

/-- How many steps the tasks can still take by themselves. -/
def runWeight (t : Tracker) : Nat :=
  match t.run with
  | none => 0
  | some run => Run.weight run

/-- A bound on the steps that a tracker can still take by itself. -/
def potential (t : Tracker) : Nat :=
  callWeight t.calls + t.runWeight

theorem callWeight_append (calls more : List Call) :
    callWeight (calls ++ more) = callWeight calls + callWeight more := by
  induction calls with
  | nil => simp [callWeight]
  | cons c rest ih => simp only [List.cons_append, callWeight, ih, Nat.add_assoc]

theorem callWeight_map_le {f : Call → Call} {calls : List Call}
    (hf : ∀ c ∈ calls, (f c).stage.weight ≤ c.stage.weight) :
    callWeight (calls.map f) ≤ callWeight calls := by
  induction calls with
  | nil => exact Nat.le_refl 0
  | cons c rest ih =>
      exact Nat.add_le_add (hf c (List.mem_cons_self ..))
        (ih fun d hd => hf d (List.mem_cons_of_mem _ hd))

section

variable {t t' u : Tracker} {s : Step} {happening : Option Happening} {run : Run} {c : Call}
  {log : List Delivery}

theorem runWeight_of_run (hrun : t.run = some run) : t.runWeight = Run.weight run := by
  simp [runWeight, hrun]

/-! ## Each step lowers the potential -/

theorem callWeight_setStage (henrolled : Enrolled t) (hcalls : u.calls = t.calls)
    (hc : c ∈ t.calls) (stage : Stage) :
    callWeight (u.setStage c.id stage).calls + c.stage.weight =
      callWeight t.calls + stage.weight := by
  obtain ⟨before, rest, hbefore, hafter⟩ := henrolled.calls_setStage hc stage
  have hsame : (u.setStage c.id stage).calls = (t.setStage c.id stage).calls := by
    simp only [setStage, mapCalls, hcalls]
  rw [hsame, hafter, hbefore, callWeight_append, callWeight_append]
  simp only [callWeight]
  omega

/-- Where a call goes on, its stages may take more off the potential than the run puts on. -/
theorem potential_setStage_lt (henrolled : Enrolled t) (hcalls : u.calls = t.calls)
    (hc : c ∈ t.calls) {stage : Stage}
    (hless : stage.weight + u.runWeight < c.stage.weight + t.runWeight) :
    (u.setStage c.id stage).potential < t.potential := by
  have hcall := callWeight_setStage henrolled hcalls hc stage
  have hrun : (u.setStage c.id stage).runWeight = u.runWeight := rfl
  rw [potential, potential, hrun]
  omega

/-- Where calls that wait for it are answered, the potential is lower if the run is. -/
theorem potential_answer_lt (hattended : Attended t log) (hcalls : u.calls = t.calls)
    (hless : u.runWeight < t.runWeight) {es : List Envelope} (hes : es ⊆ t.waiting)
    (r : Except TrackerError SignalOutcome) : (u.answer es r).potential < t.potential := by
  have hcall : callWeight (u.answer es r).calls ≤ callWeight t.calls := by
    rw [answer, mapCalls, hcalls]
    refine callWeight_map_le fun d hd => ?_
    split
    · rename_i hasked
      rw [hattended.stage_of_mem_callers hd hes (any_caller_iff.mp hasked)]
      exact Nat.le_refl 1
    · exact Nat.le_refl _
  have hrun : (u.answer es r).runWeight = u.runWeight := rfl
  rw [potential, potential, hrun]
  omega

theorem weight_tellAll_le (run : Run) (more : List Notice) :
    Run.weight (Run.tellAll run more) ≤ Run.weight run + 2 * more.length := by
  have hbacklog : Run.backlog (Run.tellAll run more) ≤ Run.backlog run + 2 * more.length := by
    have hnotices : (Run.tellAll run more).notices.length ≤ run.notices.length + more.length := by
      simp only [Run.tellAll]
      split
      · exact Nat.le_of_eq List.length_append
      · exact Nat.le_add_right _ _
    have hnotifier : (Run.tellAll run more).notifier = run.notifier := rfl
    simp only [Run.backlog, hnotifier]
    split <;> omega
  have hrest : Run.weight (Run.tellAll run more) =
      run.worker.isLive.toNat + 3 * (run.queue.length + run.line.length) +
        Run.backlog (Run.tellAll run more) + run.trigger.weight := rfl
  rw [hrest, Run.weight]
  omega

/-- A signal that is applied takes its weight with it. -/
theorem weight_shift {e : Envelope} {rest : List Envelope} (hqueue : run.queue = e :: rest) :
    Run.weight (Run.shift run rest) + 3 = Run.weight run := by
  have hbacklog : Run.backlog (Run.shift run rest) = Run.backlog run := rfl
  simp only [Run.weight, hbacklog]
  simp only [Run.shift, hqueue, List.length_append, List.length_cons, List.length_take,
    List.length_drop]
  omega

/-- What is left of a run whose worker ends. -/
theorem weight_endWorker_lt (hlive : run.worker.isLive = true) {worker : Worker}
    (hended : worker.isLive = false) :
    Run.weight { run with worker, queue := [], line := [] } < Run.weight run := by
  have hbacklog : Run.backlog { run with worker, queue := [], line := [] } = Run.backlog run := rfl
  simp only [Run.weight, hbacklog, hlive, hended, Bool.toNat_true, Bool.toNat_false,
    List.length_nil]
  omega

/-- A worker that has applied a signal and told at most one notice has less to do than before. -/
theorem weight_applied_lt {e : Envelope} {rest : List Envelope} (hqueue : run.queue = e :: rest)
    {worker : Worker} (hworker : worker.isLive = run.worker.isLive) {notices : List Notice}
    (hone : notices.length ≤ 1) :
    Run.weight (Run.tellAll { Run.shift run rest with worker } notices) < Run.weight run := by
  have htold := weight_tellAll_le { Run.shift run rest with worker } notices
  have hshift := weight_shift hqueue
  have hsame : Run.weight { Run.shift run rest with worker } = Run.weight (Run.shift run rest) := by
    have hlive : (Run.shift run rest).worker.isLive = run.worker.isLive := rfl
    simp only [Run.weight, Run.backlog, hworker, hlive]
  omega

theorem potential_trigger_lt (hrun : t.run = some run) {trigger : Trigger}
    (hless : trigger.weight < run.trigger.weight) :
    { t with run := some { run with trigger } }.potential < t.potential := by
  simp only [potential, runWeight, hrun, Run.weight, Run.backlog]
  omega

theorem potential_wakeTrigger (t : Tracker) :
    t.wakeTrigger = t ∨ t.wakeTrigger.potential < t.potential := by
  cases hrun : t.run with
  | none => exact Or.inl (by simp [wakeTrigger, hrun])
  | some run =>
      cases htrigger : run.trigger with
      | absent => exact Or.inl (by simp [wakeTrigger, hrun, htrigger])
      | ended => exact Or.inl (by simp [wakeTrigger, hrun, htrigger])
      | fresh =>
          have hmoved : ∃ trigger : Trigger, trigger.weight < 2 ∧
              t.wakeTrigger = { t with run := some { run with trigger } } := by
            cases hcancelled : run.cancelled with
            | true => exact ⟨.ended, by decide, by simp [wakeTrigger, hrun, htrigger, hcancelled]⟩
            | false =>
                exact ⟨.ticking (t.elapsed + t.config.scanInterval.nanos), Nat.lt_succ_self 1,
                  by simp [wakeTrigger, hrun, htrigger, hcancelled]⟩
          obtain ⟨trigger, hless, hmoved⟩ := hmoved
          rw [hmoved]
          exact Or.inr (potential_trigger_lt hrun (by rw [htrigger]; exact hless))
      | ticking next =>
          cases hcancelled : run.cancelled with
          | false => exact Or.inl (by simp [wakeTrigger, hrun, htrigger, hcancelled])
          | true =>
              have hended :
                  t.wakeTrigger = { t with run := some { run with trigger := .ended } } := by
                simp [wakeTrigger, hrun, htrigger, hcancelled]
              rw [hended]
              exact Or.inr (potential_trigger_lt hrun (by rw [htrigger]; exact Nat.zero_lt_one))

/-- What a call or a task does by itself lowers the potential, if it changes anything. -/
theorem potential_move (hmove : Move t s happening t') (horderly : Orderly t)
    (hattended : Attended t log) (hown : s.isOwn = true) (htask : s ≠ .trigger) :
    t' = t ∨ t'.potential < t.potential := by
  have henrolled := horderly.enrolled
  have hbefore : ∀ {run : Run}, t.run = some run → t.runWeight = Run.weight run :=
    fun hrun => runWeight_of_run hrun
  cases hmove with
  | still => exact Or.inl rfl
  | begun _ kind stage hstage hstop hintake hdelivered hcomes =>
      rw [hown] at hcomes
      contradiction
  | left c r hc hstage =>
      refine Or.inr (potential_setStage_lt henrolled rfl hc ?_)
      rcases hstage with hstage | ⟨s, hstage⟩
      · rw [hstage]
        simp [Stage.weight]
      · rw [hstage]
        simp [Stage.weight]
  | spawned c hc hkind hstage hfree hrunning =>
      refine Or.inr (potential_setStage_lt (u := t.spawn) henrolled rfl hc ?_)
      -- the start has brought along what its worker, notifier, trigger and signal can do
      rw [hstage]
      simp only [runWeight, spawn, Run.weight, Run.backlog, Stage.weight, Worker.isLive,
        Bool.toNat_true, List.length_nil]
      split
      · simp only [Trigger.weight]
        omega
      · simp only [Trigger.weight]
        omega
  | cancelled c run hc hkind hstage hfree hrun hlive =>
      refine Or.inr (potential_setStage_lt (u := { t with intake := _, run := some _ }) henrolled
        rfl hc ?_)
      rw [hstage, hbefore hrun]
      simp [runWeight, Run.weight, Run.backlog, Stage.weight]
  | parked c run hc hstage hrun =>
      refine Or.inr (potential_setStage_lt (u := { t with parked := _ }) henrolled rfl hc ?_)
      rw [hstage]
      simp [runWeight, Stage.weight]
  | stopped c run hc hstage hrun =>
      refine Or.inr (potential_setStage_lt (u := { t with run := none }) henrolled rfl hc ?_)
      rw [hstage]
      simp only [runWeight, Stage.weight]
      omega
  | queued c run s hc hstage hintake hrun hlive hroom =>
      refine Or.inr (potential_setStage_lt (u := { t with run := some _ }) henrolled rfl hc ?_)
      rw [hstage, hbefore hrun]
      simp only [runWeight, Run.weight, Run.backlog, Stage.weight, List.length_append,
        List.length_singleton]
      omega
  | lined c run s hc hstage hintake hrun hlive hroom =>
      refine Or.inr (potential_setStage_lt (u := { t with run := some _ }) henrolled rfl hc ?_)
      rw [hstage, hbefore hrun]
      simp only [runWeight, Run.weight, Run.backlog, Stage.weight, List.length_append,
        List.length_singleton]
      omega
  | returned c r hc hstage =>
      refine Or.inr (potential_setStage_lt henrolled rfl hc ?_)
      rw [hstage]
      simp [Stage.weight]
  | sent s run => contradiction
  | ended run roster firstRead hrun hworker =>
      refine Or.inr (potential_answer_lt (u := { t with run := some _ }) hattended rfl ?_ ?_ _)
      · rw [hbefore hrun]
        exact weight_endWorker_lt (by rw [hworker]; rfl) rfl
      · exact subset_waiting_of_run hrun
  | crashed run e rest roster firstRead hrun hworker hcancelled hqueue =>
      refine Or.inr (potential_answer_lt (u := { t with run := some _ }) hattended rfl ?_ ?_ _)
      · rw [hbefore hrun]
        have hlive : (Run.shift run rest).worker.isLive = true := by
          show run.worker.isLive = true
          rw [hworker]
          rfl
        have hshift := weight_shift hqueue
        exact Nat.lt_trans (weight_endWorker_lt hlive rfl) (by omega)
      · exact subset_waiting_of_shift hrun hqueue
  | stateRead run e rest roster firstRead hrun hworker hcancelled hqueue =>
      refine Or.inr (potential_answer_lt
        (u := { t with run := some _, recorded := _, recordings := _ }) hattended rfl ?_
        (mem_waiting_of_queue hrun hqueue) _)
      rw [hbefore hrun]
      exact weight_applied_lt hqueue (by rw [hworker]; rfl) (length_stateNotices_le t firstRead)
  | scanMissed run e rest roster firstRead updated hrun hworker hcancelled hqueue =>
      refine Or.inr (potential_answer_lt (u := { t with run := some _ }) hattended rfl ?_
        (mem_waiting_of_queue hrun hqueue) _)
      rw [hbefore hrun]
      rw [← Run.tellAll_nil { Run.shift run rest with worker := .live roster firstRead }]
      exact weight_applied_lt hqueue (by rw [hworker]) (Nat.zero_le 1)
  | scanTaken run e rest roster firstRead updated sightings c hrun hworker hcancelled hqueue =>
      refine Or.inr (potential_answer_lt (u := { t with run := some _, feed := _ }) hattended rfl ?_
        (mem_waiting_of_queue hrun hqueue) _)
      rw [hbefore hrun]
      exact weight_applied_lt hqueue (by rw [hworker]; rfl) (Nat.le_refl 1)
  | callbackCrashed run n rest hrun hnotifier hnotices =>
      refine Or.inr ?_
      simp only [potential, runWeight, hrun, Run.weight, Run.backlog, hnotifier]
      omega
  | called run n rest hrun hnotifier hnotices =>
      refine Or.inr ?_
      simp only [potential, runWeight, hrun, Run.weight, Run.backlog, hnotifier, hnotices,
        List.length_cons]
      omega
  | broadcast run n hrun hnotifier =>
      refine Or.inr ?_
      simp only [potential, runWeight, hrun, Run.weight, Run.backlog, hnotifier]
      omega
  | notifierEnded run hrun hnotifier hnotices =>
      refine Or.inr ?_
      simp only [potential, runWeight, hrun, Run.weight, Run.backlog, hnotifier]
      omega
  | world s radio clock elapsed trigger hdelivered hworld =>
      rcases hworld with htrigger | houtside
      · exact absurd htrigger htask
      · rw [hown] at houtside
        contradiction
  | callbacksSet crashing => contradiction

theorem potential_step (horderly : Orderly t) (hattended : Attended t log)
    (hown : s.isOwn = true) : t.step s = t ∨ (t.step s).potential < t.potential := by
  by_cases htrigger : s = .trigger
  · rw [htrigger]
    exact potential_wakeTrigger t
  · exact potential_move (move_step t s) horderly hattended hown htrigger

theorem nextCall_step (hown : s.isOwn = true) : (t.step s).nextCall = t.nextCall := by
  have hmove := move_step t s
  generalize t.happening? s = happening at hmove
  generalize t.step s = t' at hmove ⊢
  cases hmove with
  | begun _ kind stage hstage hstop hintake hdelivered hcomes =>
      rw [hown] at hcomes
      contradiction
  | _ => rfl

/-! ## Where nothing changes, every start and stop has returned -/

/-- A call that goes on to a stage and changes nothing is at that stage already. -/
theorem stage_of_still (hc : c ∈ t.calls) (hstill : t.advance c.id = t) {stage : Stage}
    (hadvance : t.advance c.id = u.setStage c.id stage) : c.stage = stage := by
  rw [hstill] at hadvance
  rw [hadvance] at hc
  exact stage_of_mem_setStage hc rfl

/-- Where nothing changes, no stop waits for the tasks of a run. -/
theorem held_eq_nil_of_still (horderly : Orderly t)
    (hstill : ∀ s, s.isOwn = true → t.step s = t) : t.held = [] := by
  have hwork : t.work = t := hstill .work rfl
  have hnotify : t.notify = t := hstill .notify rfl
  have htrigger : t.wakeTrigger = t := hstill .trigger rfl
  have hadvance : ∀ id, t.advance id = t := fun id => hstill (.advance id) rfl
  have hholder : ∀ {stage : Stage}, t.held = [stage] → ∃ c ∈ t.calls, c.stage = stage := by
    intro stage hheld
    have hmem : stage ∈ t.held := hheld ▸ List.mem_singleton_self stage
    exact List.mem_map.mp (List.mem_filter.mp hmem).1
  cases horderly.phase with
  | stopped hheld => exact hheld
  | running live hheld => exact hheld
  | stopping live hheld houtline =>
      obtain ⟨run, hrun, hstate⟩ := Option.map_eq_some_iff.mp houtline
      obtain ⟨c, hc, hstage⟩ := hholder hheld
      have hfind := horderly.enrolled.find?_eq hc
      cases hworker : run.worker with
      | live roster firstRead =>
          -- the worker has not ended yet, and can
          rw [work_of_cancelled hrun hworker (congrArg Prod.fst hstate)] at hwork
          have hended := (congrArg Tracker.run hwork).trans hrun
          rw [← Option.some.inj hended] at hworker
          contradiction
      | ended roster =>
          have hpark : t.advance c.id =
              { t with parked := some roster }.setStage c.id .helpers := by
            simp [advance, hfind, hstage, parkRoster, hrun, hworker]
          exact Stage.noConfusion (hstage.symm.trans (stage_of_still hc (hadvance c.id) hpark))
      | crashed =>
          have hpark : t.advance c.id =
              { t with parked := some (.empty t.config.policy) }.setStage c.id .helpers := by
            simp [advance, hfind, hstage, parkRoster, hrun, hworker]
          exact Stage.noConfusion (hstage.symm.trans (stage_of_still hc (hadvance c.id) hpark))
  | closing hheld houtline =>
      obtain ⟨run, hrun, hstate⟩ := Option.map_eq_some_iff.mp houtline
      obtain ⟨c, hc, hstage⟩ := hholder hheld
      have hended : run.worker.isLive = false := congrArg Prod.snd hstate
      -- each helper has ended: a live one could still take a turn
      have hnotifier : run.notifier.isLive = false := by
        have hturn := backlog_notify (t := t) fun run' hrun' => by
          rwa [← Option.some.inj (hrun.symm.trans hrun')]
        rw [hnotify] at hturn
        cases hlive : run.notifier with
        | ended => rfl
        | crashed => rfl
        | live =>
            simp only [backlog, Run.backlog, hrun, hlive] at hturn
            omega
        | telling n =>
            simp only [backlog, Run.backlog, hrun, hlive] at hturn
            omega
      have htrigger : run.trigger.isLive = false := by
        have hcancelled : run.cancelled = true := congrArg Prod.fst hstate
        cases hlive : run.trigger with
        | absent => rfl
        | ended => rfl
        | fresh =>
            have hrun' := congrArg Tracker.run htrigger
            simp [wakeTrigger, hrun, hlive, hcancelled] at hrun'
            rw [← hrun'] at hlive
            contradiction
        | ticking next =>
            have hrun' := congrArg Tracker.run htrigger
            simp [wakeTrigger, hrun, hlive, hcancelled] at hrun'
            rw [← hrun'] at hlive
            contradiction
      have hfinish : t.advance c.id = { t with run := none }.setStage c.id (.finished .done) := by
        simp [advance, horderly.enrolled.find?_eq hc, hstage, finishStop, hrun, hnotifier, htrigger]
      exact Stage.noConfusion (hstage.symm.trans (stage_of_still hc (hadvance c.id) hfinish))

/-- Where nothing changes, nobody waits for an answer. -/
theorem waiting_eq_nil_of_still {log : List Delivery} (horderly : Orderly t)
    (hdispatched : Dispatched t log) (hattended : Attended t log)
    (hstill : ∀ s, s.isOwn = true → t.step s = t) (hc : c ∈ t.calls) : c.stage ≠ .answer := by
  intro hstage
  have hid := (hattended.awaited c hc).mp hstage
  have hwork : t.work = t := hstill .work rfl
  cases hwaiting : t.waiting with
  | nil =>
      rw [hwaiting] at hid
      contradiction
  | cons e rest =>
      have hanswers := work_answers horderly hdispatched hwaiting
      rw [hwork] at hanswers
      rcases hanswers with hall | ⟨hrest, -⟩
      · obtain ⟨d, hd, hsame, r, hresult⟩ := hall c.id hid
        rw [horderly.enrolled.eq_of_id_eq hd hc hsame, hstage] at hresult
        contradiction
      · rw [hwaiting] at hrest
        exact absurd hrest (List.cons_ne_self e rest)

/-- Calls do not wait for each other in a circle: where no call and no task can go on, every start
and stop has returned. -/
theorem finished_of_still {log : List Delivery} (horderly : Orderly t)
    (hdispatched : Dispatched t log) (hattended : Attended t log)
    (hstill : ∀ s, s.isOwn = true → t.step s = t) (hc : c ∈ t.calls) (hkind : c.kind ≠ .signal) :
    ∃ r, c.stage = .finished r := by
  have hfree := held_eq_nil_of_still horderly hstill
  have hheld : t.lifecycleHeld = false := lifecycleHeld_eq_false_iff.mpr hfree
  have hfind := horderly.enrolled.find?_eq hc
  have hadvance : t.advance c.id = t := hstill (.advance c.id) rfl
  cases hstage : c.stage with
  | finished r => exact ⟨r, rfl⟩
  | worker =>
      have hmem := stage_mem_held hc (by rw [hstage]; rfl)
      rw [hfree] at hmem
      contradiction
  | helpers =>
      have hmem := stage_mem_held hc (by rw [hstage]; rfl)
      rw [hfree] at hmem
      contradiction
  | answer =>
      exact absurd hstage (waiting_eq_nil_of_still horderly hdispatched hattended hstill hc)
  | answered r =>
      have hreturns : t.advance c.id = t.setStage c.id (.finished r) := by
        simp [advance, hfind, hstage]
      exact Stage.noConfusion (hstage.symm.trans (stage_of_still hc hadvance hreturns))
  | intake s =>
      have hhand : t.advance c.id = t.handIn c.id s := by simp [advance, hfind, hstage]
      have hmoved : ∃ u : Tracker, ∃ stage, t.handIn c.id s = u.setStage c.id stage ∧
          stage ≠ .intake s := by
        unfold handIn
        split
        · split
          · exact ⟨_, _, rfl, Stage.noConfusion⟩
          · exact ⟨_, _, rfl, Stage.noConfusion⟩
        · exact ⟨_, _, rfl, Stage.noConfusion⟩
      obtain ⟨u, stage, heq, hne⟩ := hmoved
      exact absurd (hstage.symm.trans (stage_of_still hc hadvance (hhand.trans heq))).symm hne
  | lifecycle =>
      have hmoved : ∃ u : Tracker, ∃ stage, t.advance c.id = u.setStage c.id stage ∧
          stage ≠ .lifecycle := by
        cases hcall : c.kind with
        | start =>
            have henter : t.advance c.id = t.enterStart c.id := by
              simp [advance, hfind, hstage, hheld, hcall]
            rw [henter]
            unfold enterStart
            split
            · exact ⟨_, _, rfl, Stage.noConfusion⟩
            · exact ⟨_, _, rfl, Stage.noConfusion⟩
        | stop =>
            have henter : t.advance c.id = t.enterStop c.id := by
              simp [advance, hfind, hstage, hheld, hcall]
            rw [henter]
            unfold enterStop
            split
            · exact ⟨_, _, rfl, Stage.noConfusion⟩
            · exact ⟨_, _, rfl, Stage.noConfusion⟩
        | signal => exact absurd hcall hkind
      obtain ⟨u, stage, heq, hne⟩ := hmoved
      exact absurd (hstage.symm.trans (stage_of_still hc hadvance heq)).symm hne

/-! ## Rounds of turns -/

/-- The steps that a tracker with so many calls can take by itself. -/
def ownSteps (t : Tracker) : List Step :=
  .work :: .notify :: .trigger :: (List.range t.nextCall).map .advance

/-- Whether in some steps, all of them its own, each call and each task of a tracker has a turn. -/
structure Round (t : Tracker) (steps : List Step) : Prop where
  own : ∀ s ∈ steps, s.isOwn = true
  all : t.ownSteps ⊆ steps

theorem Round.congr {steps : List Step} (h : Round t steps) (hnext : t'.nextCall = t.nextCall) :
    Round t' steps where
  own := h.own
  all := by
    rw [ownSteps, hnext]
    exact h.all

/-- Only calls that have come can go on. -/
theorem still_of_ownSteps (henrolled : Enrolled t) (hstill : ∀ s ∈ t.ownSteps, t.step s = t)
    (hown : s.isOwn = true) : t.step s = t := by
  cases s with
  | work => exact hstill .work (by simp [ownSteps])
  | notify => exact hstill .notify (by simp [ownSteps])
  | trigger => exact hstill .trigger (by simp [ownSteps])
  | advance id =>
      by_cases hcame : id < t.nextCall
      · exact hstill (.advance id) (by simp [ownSteps, hcame])
      · have hnone : t.calls.find? (·.id == id) = none := by
          rw [List.find?_eq_none]
          rintro c hc hid
          rw [beq_iff_eq] at hid
          exact hcame (hid ▸ henrolled.id_lt hc)
        show t.advance id = t
        rw [advance, hnone]
  | _ => contradiction

theorem after_of_still {steps : List Step} (hstill : ∀ s ∈ steps, t.step s = t) :
    t.after steps = t := by
  induction steps with
  | nil => rfl
  | cons s rest ih =>
      have hafter : t.after (s :: rest) = (t.step s).after rest := rfl
      rw [hafter, hstill s (List.mem_cons_self ..)]
      exact ih fun s' hs' => hstill s' (List.mem_cons_of_mem _ hs')

theorem nextCall_after {steps : List Step} (hown : ∀ s ∈ steps, s.isOwn = true) :
    (t.after steps).nextCall = t.nextCall := by
  induction steps generalizing t with
  | nil => rfl
  | cons s rest ih =>
      have hrest : ((t.step s).after rest).nextCall = (t.step s).nextCall :=
        ih fun s' hs' => hown s' (List.mem_cons_of_mem _ hs')
      exact hrest.trans (nextCall_step (hown s (List.mem_cons_self ..)))

end

/-- Steps of its own lower the potential of a tracker, or none of them changes anything. -/
theorem potential_after (config : TrackerConfig) (radio : Radio) (clock : Int64)
    (steps : List Step) {turns : List Step} (hown : ∀ s ∈ turns, s.isOwn = true) :
    let t := (new config radio clock).after steps
    (∀ s ∈ turns, t.step s = t) ∨ (t.after turns).potential < t.potential := by
  intro t
  induction turns generalizing steps with
  | nil => exact Or.inl nofun
  | cons s rest ih =>
      have hrest : ∀ s' ∈ rest, s'.isOwn = true :=
        fun s' hs' => hown s' (List.mem_cons_of_mem _ hs')
      have hafter : t.after (s :: rest) = (t.step s).after rest := rfl
      have hlater := ih (steps ++ [s]) hrest
      rw [after_concat] at hlater
      rcases potential_step (orderly_after config radio clock steps)
        (attended_after config radio clock steps) (hown s (List.mem_cons_self ..)) with
        hsame | hlower
      · rw [hsame] at hlater
        rw [hafter, show t.step s = t from hsame, List.forall_mem_cons]
        exact hlater.imp_left fun hstill => ⟨hsame, hstill⟩
      · rw [hafter]
        refine Or.inr ?_
        rcases hlater with hstill | hlower'
        · rwa [after_of_still hstill]
        · exact Nat.lt_trans hlower' hlower

/-- After as many rounds as the potential tells, every start and every stop has returned. -/
theorem finished_after_rounds (config : TrackerConfig) (radio : Radio) (clock : Int64)
    (steps : List Step) {rounds : List (List Step)}
    (hrounds : ∀ r ∈ rounds, Round ((new config radio clock).after steps) r)
    (henough : ((new config radio clock).after steps).potential ≤ rounds.length) :
    ∀ c ∈ (((new config radio clock).after steps).after rounds.flatten).calls,
      c.kind ≠ .signal → ∃ r, c.stage = .finished r := by
  induction rounds generalizing steps with
  | nil =>
      have horderly := orderly_after config radio clock steps
      intro c hc hkind
      refine finished_of_still horderly (dispatched_after config radio clock steps)
        (attended_after config radio clock steps) (fun s hown => ?_) hc hkind
      -- the potential is used up
      refine (potential_step horderly (attended_after config radio clock steps) hown).resolve_right
        fun hlower => ?_
      exact Nat.not_lt_zero _ (Nat.lt_of_lt_of_le hlower henough)
  | cons round rest ih =>
      have horderly := orderly_after config radio clock steps
      have hround := hrounds round (List.mem_cons_self ..)
      have hrest : ∀ r ∈ rest, Round ((new config radio clock).after steps) r :=
        fun r hr => hrounds r (List.mem_cons_of_mem _ hr)
      -- either nothing goes on any more, or the round has used up some of the potential
      rcases potential_after config radio clock steps hround.own with hstill | hlower
      · have hnone : ∀ s, s.isOwn = true →
            ((new config radio clock).after steps).step s = (new config radio clock).after steps :=
          fun s hown =>
            still_of_ownSteps horderly.enrolled (fun s' hs' => hstill s' (hround.all hs')) hown
        have hafter : ((new config radio clock).after steps).after (round :: rest).flatten =
            (new config radio clock).after steps := by
          refine after_of_still fun s hs => ?_
          obtain ⟨r, hr, hmem⟩ := List.mem_flatten.mp hs
          exact hnone s ((hrounds r hr).own s hmem)
        have hdispatched := dispatched_after config radio clock steps
        have hattended := attended_after config radio clock steps
        rw [hafter]
        exact fun c hc hkind =>
          finished_of_still horderly hdispatched hattended hnone hc hkind
      · rw [← after_append] at hlower
        have hnext := nextCall_after (t := (new config radio clock).after steps) hround.own
        rw [← after_append] at hnext
        have hlater := ih (steps ++ round) (fun r hr => (hrest r hr).congr hnext) (by
          rw [List.length_cons] at henough
          omega)
        rwa [after_append, ← after_append _ round] at hlater

end Tracker

end ScanRoster
