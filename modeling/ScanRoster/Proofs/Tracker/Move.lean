import ScanRoster.Proofs.Tracker.Delivery

/-!
# What a step of a tracker can do

`Move` lists everything that can come of a step, with the condition under which it does, what
happens in it and what becomes of signals.  Properties of runs are proved by cases on a move;
`move_step` is where the steps themselves are taken apart.
-/

namespace ScanRoster

/-- Whether a step is one that a tracker takes by itself: a call goes on, or a task does a piece of
its work. -/
def Step.isOwn : Step → Bool
  | .advance _ | .work | .notify | .trigger => true
  | _ => false

/-- Whether a step may move the trigger of a run on. -/
def Step.isTimed : Step → Bool
  | .trigger | .tick | .passTime _ => true
  | _ => false

/-- Whether in a step a start or a stop comes. -/
def Step.entersLifecycle : Step → Bool
  | .beginStart | .beginStop => true
  | _ => false

namespace Worker

/-- The roster that a worker holds or has left behind. -/
def roster? : Worker → Option Roster
  | .live roster _ | .ended roster => some roster
  | .crashed => none

end Worker

namespace Tracker

/-- The run without the first signal of its queue: the place goes to the first call in line. -/
def Run.shift (run : Run) (rest : List Envelope) : Run :=
  { run with queue := rest ++ run.line.take 1, line := run.line.drop 1 }

/-- The run with some more notices, which nobody takes once the notifier has ended. -/
def Run.tellAll (run : Run) (more : List Notice) : Run :=
  { run with notices := if run.notifier.isLive then run.notices ++ more else run.notices }

theorem Run.tell_eq_tellAll (run : Run) (n : Notice) : Run.tell run n = Run.tellAll run [n] := by
  unfold Run.tell Run.tellAll
  split <;> rfl

@[simp] theorem Run.tellAll_nil (run : Run) : Run.tellAll run [] = run := by
  simp [Run.tellAll]

/-- The notice of a radio state that is taken down: the first one of a run and every new one. -/
def stateNotices (t : Tracker) (firstRead : Bool) : List Notice :=
  if t.recorded ≠ t.radio.state ∨ firstRead = true then [.stateChanged t.radio.state] else []

theorem length_stateNotices_le (t : Tracker) (firstRead : Bool) :
    (t.stateNotices firstRead).length ≤ 1 := by
  unfold stateNotices
  split
  · exact Nat.le_refl 1
  · exact Nat.zero_le 1

/-- What can come of a step of `t`. -/
inductive Move (t : Tracker) : Step → Option Happening → Tracker → Prop
  /-- The time of the step has not come. -/
  | still (s : Step) (hdelivered : t.deliveries s = []) : Move t s none t
  /-- A call comes. -/
  | begun (s : Step) (kind : CallKind) (stage : Stage)
      (hstage : stage ≠ .worker ∧ stage ≠ .helpers ∧ stage ≠ .answer ∧ ∀ r, stage ≠ .answered r)
      (hstop : kind = .stop → stage = .lifecycle)
      (hintake : ∀ signal, stage = .intake signal → kind = .signal)
      (hdelivered : t.deliveries s = stage.asks t.nextCall) (hcomes : s.isOwn = false)
      (hvalid : kind = .start → t.config.validate = .ok () → stage = .lifecycle)
      (hfailed : ∀ r, stage = .finished r → ∃ cause, r = .failed cause)
      (hsanctioned : kind = .start → stage = .lifecycle → t.config.validate = .ok ())
      (hsignal : s.entersLifecycle = false → kind = .signal)
      (hstops : kind = .stop → s = .beginStop) :
      Move t s none (t.begin kind stage)
  /-- A call ends without having touched anything. -/
  | left (c : Call) (r : CallResult) (hc : c ∈ t.calls)
      (hstage : c.stage = .lifecycle ∨ ∃ s, c.stage = .intake s)
      (hidle : c.stage = .lifecycle → c.kind = .stop →
        t.lifecycleHeld = false ∧ t.running = none)
      (hrefused : ∀ s, c.stage = .intake s → r = .failed .stopped)
      (hdelivered : t.deliveries (.advance c.id) = [])
      (hdone : c.stage = .lifecycle → r = .done)
      (hclosed : ∀ s, c.stage = .intake s → t.intake = true →
        ∀ run, t.run = some run → run.worker.isLive = false)
      (hbusy : c.stage = .lifecycle → c.kind = .start → t.running.isSome = true) :
      Move t (.advance c.id) none (t.setStage c.id (.finished r))
  /-- A start spawns the tasks. -/
  | spawned (c : Call) (hc : c ∈ t.calls) (hkind : c.kind = .start) (hstage : c.stage = .lifecycle)
      (hfree : t.lifecycleHeld = false) (hrunning : t.running = none)
      (hdelivered : t.deliveries (.advance c.id) = [.opened]) :
      Move t (.advance c.id) (some .spawned) (t.spawn.setStage c.id (.intake .radioState))
  /-- A stop cancels the tasks. -/
  | cancelled (c : Call) (run : Run) (hc : c ∈ t.calls) (hkind : c.kind = .stop)
      (hstage : c.stage = .lifecycle) (hfree : t.lifecycleHeld = false)
      (hrun : t.run = some run) (hlive : run.cancelled = false)
      (hdelivered : t.deliveries (.advance c.id) = []) :
      Move t (.advance c.id) none
        ({ t with intake := false, run := some { run with cancelled := true } }.setStage c.id
          .worker)
  /-- A stop parks the roster. -/
  | parked (c : Call) (run : Run) (hc : c ∈ t.calls) (hstage : c.stage = .worker)
      (hrun : t.run = some run) (hended : run.worker.isLive = false)
      (hdelivered : t.deliveries (.advance c.id) = []) :
      Move t (.advance c.id) none
        ({ t with parked := some (run.worker.roster?.getD (.empty t.config.policy)) }.setStage c.id
          .helpers)
  /-- A stop returns. -/
  | stopped (c : Call) (run : Run) (hc : c ∈ t.calls) (hstage : c.stage = .helpers)
      (hrun : t.run = some run) (hnotifier : run.notifier.isLive = false)
      (htrigger : run.trigger.isLive = false)
      (hdelivered : t.deliveries (.advance c.id) = []) :
      Move t (.advance c.id) none ({ t with run := none }.setStage c.id (.finished .done))
  /-- A call puts its signal into the queue. -/
  | queued (c : Call) (run : Run) (s : Signal) (hc : c ∈ t.calls) (hstage : c.stage = .intake s)
      (hintake : t.intake = true) (hrun : t.run = some run) (hlive : run.worker.isLive = true)
      (hroom : run.queue.length < queueCapacity ∧ run.line = [])
      (hdelivered : t.deliveries (.advance c.id) = [.accepted ⟨s, some c.id⟩]) :
      Move t (.advance c.id) none
        ({ t with
          run := some { run with queue := run.queue ++ [Envelope.mk s (some c.id)] } }.setStage
            c.id .answer)
  /-- A call waits for a place in the queue. -/
  | lined (c : Call) (run : Run) (s : Signal) (hc : c ∈ t.calls) (hstage : c.stage = .intake s)
      (hintake : t.intake = true) (hrun : t.run = some run) (hlive : run.worker.isLive = true)
      (hroom : ¬ (run.queue.length < queueCapacity ∧ run.line = []))
      (hdelivered : t.deliveries (.advance c.id) = []) :
      Move t (.advance c.id) none
        ({ t with
          run := some { run with line := run.line ++ [Envelope.mk s (some c.id)] } }.setStage
            c.id .answer)
  /-- A call that has been answered returns. -/
  | returned (c : Call) (r : CallResult) (hc : c ∈ t.calls) (hstage : c.stage = .answered r)
      (hdelivered : t.deliveries (.advance c.id) = []) :
      Move t (.advance c.id) none (t.setStage c.id (.finished r))
  /-- A signal is sent without waiting. -/
  | sent (s : Signal) (run : Run) (hintake : t.intake = true) (hrun : t.run = some run)
      (hlive : run.worker.isLive = true) (hroom : run.queue.length < queueCapacity)
      (hdelivered : t.deliveries (.send s) = [.accepted ⟨s, none⟩]) :
      Move t (.send s) none
        { t with run := some { run with queue := run.queue ++ [Envelope.mk s none] } }
  /-- The worker ends in order. -/
  | ended (run : Run) (roster : Roster) (firstRead : Bool) (hrun : t.run = some run)
      (hworker : run.worker = .live roster firstRead) (hcancelled : run.cancelled = true)
      (hdelivered : t.deliveries .work = []) :
      Move t .work none (t.endWorker run (.ended roster) [])
  /-- The source crashes, and the worker with it. -/
  | crashed (run : Run) (e : Envelope) (rest : List Envelope) (roster : Roster) (firstRead : Bool)
      (hrun : t.run = some run) (hworker : run.worker = .live roster firstRead)
      (hcancelled : run.cancelled = false) (hqueue : run.queue = e :: rest)
      (hdelivered : t.deliveries .work = []) :
      Move t .work (some .crashed) (t.endWorker (Run.shift run rest) .crashed [e])
  /-- A radio state is taken down. -/
  | stateRead (run : Run) (e : Envelope) (rest : List Envelope) (roster : Roster)
      (firstRead : Bool) (hrun : t.run = some run) (hworker : run.worker = .live roster firstRead)
      (hcancelled : run.cancelled = false) (hqueue : run.queue = e :: rest)
      (hsignal : e.signal = .radioState)
      (hdelivered : t.deliveries .work =
        .applied e (.radioState t.radio.state (t.recorded ≠ t.radio.state || firstRead)) ::
          (run.line.take 1).map .accepted) :
      Move t .work (some (.stateRead t.radio.state))
        ({ t with
          run := some (Run.tellAll { Run.shift run rest with worker := .live roster false }
            (t.stateNotices firstRead))
          recorded := t.radio.state
          recordings :=
            if t.recorded ≠ t.radio.state then t.recordings + 1 else t.recordings }.answer
            [e] (.ok (.radioState t.radio.state (t.recorded ≠ t.radio.state || firstRead))))
  /-- There is no scan list. -/
  | scanMissed (run : Run) (e : Envelope) (rest : List Envelope) (roster : Roster)
      (firstRead updated : Bool) (hrun : t.run = some run)
      (hworker : run.worker = .live roster firstRead) (hcancelled : run.cancelled = false)
      (hqueue : run.queue = e :: rest) (hsignal : e.signal = .scanResults updated)
      (hdelivered : t.deliveries .work =
        .applied e .sourceUnavailable :: (run.line.take 1).map .accepted) :
      Move t .work (some .scanMissed)
        ({ t with run := some { Run.shift run rest with worker := .live roster firstRead } }.answer
          [e] (.ok .sourceUnavailable))
  /-- A scan list is taken in and published. -/
  | scanTaken (run : Run) (e : Envelope) (rest : List Envelope) (roster : Roster)
      (firstRead updated : Bool) (sightings : List Sighting) (c : Cycle) (hrun : t.run = some run)
      (hworker : run.worker = .live roster firstRead) (hcancelled : run.cancelled = false)
      (hqueue : run.queue = e :: rest) (hsignal : e.signal = .scanResults updated)
      (hreply : t.radio.reply = .found sightings)
      (hcycle : c = .ofSightings sightings updated t.clock)
      (hdelivered : t.deliveries .work =
        .applied e (.ingested (roster.apply c).2) :: (run.line.take 1).map .accepted) :
      Move t .work (some (.scanTaken c))
        ({ t with
          feed := t.feed.publish (roster.apply c).1.entries
          run := some (Run.tellAll
            { Run.shift run rest with worker := .live (roster.apply c).1 firstRead }
            [.entriesChanged (roster.apply c).1.entries]) }.answer [e]
            (.ok (.ingested (roster.apply c).2)))
  /-- A callback crashes, and the notifier with it. -/
  | callbackCrashed (run : Run) (n : Notice) (rest : List Notice) (hrun : t.run = some run)
      (hnotifier : run.notifier = .live) (hnotices : run.notices = n :: rest)
      (hcrashing : t.audience.crashing = true) :
      Move t .notify (some (.callbackCrashed n))
        { t with run := some { run with notifier := .crashed, notices := [] } }
  /-- The callback of a notice is called. -/
  | called (run : Run) (n : Notice) (rest : List Notice) (hrun : t.run = some run)
      (hnotifier : run.notifier = .live) (hnotices : run.notices = n :: rest)
      (hcrashing : t.audience.crashing = false) :
      Move t .notify (some (.called n))
        { t with
          run := some { run with notifier := .telling n, notices := rest }
          audience := Audience.call t.audience n }
  /-- A notice is broadcast. -/
  | broadcast (run : Run) (n : Notice) (hrun : t.run = some run)
      (hnotifier : run.notifier = .telling n) :
      Move t .notify (some (.broadcast n))
        { t with
          run := some { run with notifier := .live }
          audience := Audience.hear t.audience n }
  /-- The notifier ends in order. -/
  | notifierEnded (run : Run) (hrun : t.run = some run) (hnotifier : run.notifier = .live)
      (hnotices : run.notices = []) (hended : run.worker.isLive = false) :
      Move t .notify none { t with run := some { run with notifier := .ended } }
  /-- The trigger does a piece of its work, time passes, or the radio or the clock changes. -/
  | world (s : Step) (radio : Radio) (clock : Int64) (elapsed : Nat) (trigger : Trigger → Trigger)
      (hdelivered : t.deliveries s = []) (hworld : s = .trigger ∨ s.isOwn = false)
      (htimed : s.isTimed = false → elapsed = t.elapsed ∧ ∀ x, trigger x = x)
      (hlive : ∀ run, t.running = some run →
        (trigger run.trigger).isLive = run.trigger.isLive) :
      Move t s none
        { t with
          radio, clock, elapsed
          run := t.run.map fun run => { run with trigger := trigger run.trigger } }
  /-- From now on callbacks crash, or do so no longer. -/
  | callbacksSet (crashing : Bool) :
      Move t (.setCallbacks crashing) none { t with audience := { t.audience with crashing } }

/-! ## Every step is a move -/

/-- Going on with a call spawns nothing where it does not make a tracker run that did not. -/
theorem happening?_advance_eq_none {t : Tracker} {id : Nat}
    (h : t.running = none → (t.advance id).running = none) :
    t.happening? (.advance id) = none := by
  unfold happening?
  cases hrunning : t.running with
  | some run => simp
  | none => simp [h hrunning]

theorem running_eq_some_iff {t : Tracker} {run : Run} :
    t.running = some run ↔ t.run = some run ∧ run.cancelled = false := by
  simp [running, Option.filter_eq_some_iff]

theorem running_eq_none_iff {t : Tracker} :
    t.running = none ↔ ∀ run ∈ t.run, run.cancelled = true := by
  simp [running, Option.filter_eq_none_iff]

/-- The call that is to go on is one of the calls. -/
theorem mem_of_find?_calls {t : Tracker} {id : Nat} {c : Call}
    (h : t.calls.find? (·.id == id) = some c) : c ∈ t.calls ∧ c.id = id :=
  ⟨List.mem_of_find?_eq_some h, by simpa using List.find?_some h⟩

section

variable {t : Tracker} {c : Call} (hfind : t.calls.find? (·.id == c.id) = some c)

include hfind

theorem move_enterStart (hkind : c.kind = .start) (hstage : c.stage = .lifecycle)
    (hfree : t.lifecycleHeld = false) :
    (∃ run, t.running = some run ∧ Move t (.advance c.id) none (t.enterStart c.id)) ∨
      (t.running = none ∧ Move t (.advance c.id) (some .spawned) (t.enterStart c.id)) := by
  have hc := List.mem_of_find?_eq_some hfind
  have hdelivered := deliveries_advance hfind
  unfold enterStart
  cases hrunning : t.running with
  | some run =>
      refine Or.inl ⟨run, rfl, .left c _ hc (Or.inl hstage) (fun _ hstop => ?_) ?_ ?_ (fun _ => rfl)
        ?_ fun _ _ => by rw [hrunning]; rfl⟩
      · rw [hkind] at hstop
        contradiction
      · intro s hintake
        rw [hstage] at hintake
        contradiction
      · simpa [callDeliveries, hstage, hrunning] using hdelivered
      · intro s hintake
        rw [hstage] at hintake
        contradiction
  | none =>
      refine Or.inr ⟨rfl, .spawned c hc hkind hstage hfree hrunning ?_⟩
      simpa [callDeliveries, hstage, hkind, hfree, hrunning] using hdelivered

theorem move_enterStop (hkind : c.kind = .stop) (hstage : c.stage = .lifecycle)
    (hfree : t.lifecycleHeld = false) : Move t (.advance c.id) none (t.enterStop c.id) := by
  have hc := List.mem_of_find?_eq_some hfind
  have hdelivered : t.deliveries (.advance c.id) = [] := by
    simpa [callDeliveries, hstage, hkind] using deliveries_advance hfind
  unfold enterStop
  cases hrunning : t.running with
  | none =>
      refine .left c _ hc (Or.inl hstage) (fun _ _ => ⟨hfree, hrunning⟩) ?_ hdelivered (fun _ => rfl)
        ?_ fun _ hstart => ?_
      · intro s hintake
        rw [hstage] at hintake
        contradiction
      · intro s hintake
        rw [hstage] at hintake
        contradiction
      · rw [hkind] at hstart
        contradiction
  | some run =>
      obtain ⟨hrun, hlive⟩ := running_eq_some_iff.mp hrunning
      exact .cancelled c run hc hkind hstage hfree hrun hlive hdelivered

theorem move_parkRoster (hstage : c.stage = .worker) :
    Move t (.advance c.id) none (t.parkRoster c.id) := by
  have hc := List.mem_of_find?_eq_some hfind
  have hdelivered : t.deliveries (.advance c.id) = [] := by
    simpa [callDeliveries, hstage] using deliveries_advance hfind
  unfold parkRoster
  split
  · exact .still _ hdelivered
  · rename_i run hrun
    split
    · exact .still _ hdelivered
    · rename_i roster hworker
      have hmove := Move.parked c run hc hstage hrun (by rw [hworker]; rfl) hdelivered
      rw [hworker] at hmove
      exact hmove
    · rename_i hworker
      have hmove := Move.parked c run hc hstage hrun (by rw [hworker]; rfl) hdelivered
      rw [hworker] at hmove
      exact hmove

theorem move_finishStop (hstage : c.stage = .helpers) :
    Move t (.advance c.id) none (t.finishStop c.id) := by
  have hc := List.mem_of_find?_eq_some hfind
  have hdelivered : t.deliveries (.advance c.id) = [] := by
    simpa [callDeliveries, hstage] using deliveries_advance hfind
  unfold finishStop
  split
  · exact .still _ hdelivered
  · rename_i run hrun
    split
    · exact .still _ hdelivered
    · rename_i hended
      rw [Bool.or_eq_true, not_or, Bool.not_eq_true, Bool.not_eq_true] at hended
      exact .stopped c run hc hstage hrun hended.1 hended.2 hdelivered

theorem move_handIn {s : Signal} (hstage : c.stage = .intake s) :
    Move t (.advance c.id) none (t.handIn c.id s) := by
  have hc := List.mem_of_find?_eq_some hfind
  have hdelivered : t.deliveries (.advance c.id) =
      if t.hasRoom then [.accepted ⟨s, some c.id⟩] else [] := by
    simpa [callDeliveries, hstage] using deliveries_advance hfind
  have hleft (hclosed : t.intake = true → ∀ run, t.run = some run → run.worker.isLive = false) :
      Move t (.advance c.id) none (t.setStage c.id (.finished (.failed .stopped))) := by
    have hroom : t.hasRoom = false := by
      rw [← Bool.not_eq_true, hasRoom_eq_true_iff]
      rintro ⟨hintake, run, hrun, hlive, -⟩
      rw [hclosed hintake run hrun] at hlive
      contradiction
    refine .left c _ hc (Or.inr ⟨s, hstage⟩) (fun hlifecycle => ?_) (fun _ _ => rfl) ?_
      (fun hlifecycle => ?_) (fun _ _ => hclosed) fun hlifecycle => ?_
    · rw [hstage] at hlifecycle
      contradiction
    · rw [hdelivered, hroom]
      rfl
    · rw [hstage] at hlifecycle
      contradiction
    · rw [hstage] at hlifecycle
      contradiction
  unfold handIn
  split
  · rename_i run hintake hrun
    split
    · rename_i hlive
      dsimp only
      split
      · rename_i hroom
        refine .queued c run s hc hstage hintake hrun hlive hroom ?_
        rw [hdelivered, hasRoom_eq_true_iff.mpr ⟨hintake, run, hrun, hlive, hroom⟩]
        rfl
      · rename_i hroom
        refine .lined c run s hc hstage hintake hrun hlive hroom ?_
        rw [hdelivered, if_neg]
        rw [hasRoom_eq_true_iff]
        rintro ⟨-, run', hrun', -, hroom'⟩
        rw [← Option.some.inj (hrun.symm.trans hrun')] at hroom'
        exact hroom hroom'
    · rename_i hended
      refine hleft fun _ run' hrun' => ?_
      rw [← Option.some.inj (hrun.symm.trans hrun')]
      simpa using hended
  · rename_i hclosed
    exact hleft fun hintake run hrun => absurd hrun (hclosed run hintake)

end

theorem running_parkRoster (t : Tracker) (id : Nat) : (t.parkRoster id).running = t.running := by
  unfold parkRoster
  split
  · rfl
  · split <;> rfl

theorem running_finishStop {t : Tracker} {id : Nat} (h : t.running = none) :
    (t.finishStop id).running = none := by
  unfold finishStop
  split
  · exact h
  · split
    · exact h
    · rfl

theorem running_handIn {t : Tracker} {id : Nat} {s : Signal} (h : t.running = none) :
    (t.handIn id s).running = none := by
  unfold handIn
  split
  · rename_i run hintake hrun
    have hcancelled := running_eq_none_iff.mp h run hrun
    split
    · dsimp only
      split <;> simp [running, setStage, mapCalls, hcancelled]
    · exact h
  · exact h

theorem running_enterStop {t : Tracker} {id : Nat} (h : t.running = none) :
    (t.enterStop id).running = none := by
  unfold enterStop
  rw [h]
  exact h

theorem move_advance (t : Tracker) (id : Nat) :
    Move t (.advance id) (t.happening? (.advance id)) (t.advance id) := by
  cases hfind : t.calls.find? (·.id == id) with
  | none =>
      have heq : t.advance id = t := by simp [advance, hfind]
      rw [happening?_advance_eq_none (by simp [heq]), heq]
      exact .still _ (by simp [deliveries, hfind])
  | some c =>
      obtain ⟨hc, rfl⟩ := mem_of_find?_calls hfind
      have hdelivered := deliveries_advance hfind
      unfold callDeliveries at hdelivered
      cases hstage : c.stage with
      | lifecycle =>
          cases hheld : t.lifecycleHeld with
          | true =>
              have heq : t.advance c.id = t := by simp [advance, hfind, hstage, hheld]
              rw [happening?_advance_eq_none (by simp [heq]), heq]
              exact .still _ (by simpa [hstage, hheld] using hdelivered)
          | false =>
              cases hkind : c.kind with
              | start =>
                  have heq : t.advance c.id = t.enterStart c.id := by
                    simp [advance, hfind, hstage, hheld, hkind]
                  rcases move_enterStart hfind hkind hstage hheld with
                    ⟨run, hrunning, hmove⟩ | ⟨hrunning, hmove⟩
                  · rw [happening?_advance_eq_none (by simp [hrunning]), heq]
                    exact hmove
                  · -- the only way for a tracker to run that did not
                    have hspawns : (t.enterStart c.id).running.isSome = true := by
                      unfold enterStart
                      rw [hrunning]
                      rfl
                    have hlabel : t.happening? (.advance c.id) = some .spawned := by
                      simp [happening?, hrunning, heq, hspawns]
                    rw [hlabel, heq]
                    exact hmove
              | stop =>
                  have heq : t.advance c.id = t.enterStop c.id := by
                    simp [advance, hfind, hstage, hheld, hkind]
                  rw [happening?_advance_eq_none fun h => heq ▸ running_enterStop h, heq]
                  exact move_enterStop hfind hkind hstage hheld
              | signal =>
                  have heq : t.advance c.id = t := by
                    simp [advance, hfind, hstage, hheld, hkind]
                  rw [happening?_advance_eq_none (by simp [heq]), heq]
                  exact .still _ (by simpa [hstage, hkind] using hdelivered)
      | worker =>
          have heq : t.advance c.id = t.parkRoster c.id := by simp [advance, hfind, hstage]
          rw [happening?_advance_eq_none fun h => heq ▸ (running_parkRoster t c.id).trans h, heq]
          exact move_parkRoster hfind hstage
      | helpers =>
          have heq : t.advance c.id = t.finishStop c.id := by simp [advance, hfind, hstage]
          rw [happening?_advance_eq_none fun h => heq ▸ running_finishStop h, heq]
          exact move_finishStop hfind hstage
      | intake s =>
          have heq : t.advance c.id = t.handIn c.id s := by simp [advance, hfind, hstage]
          rw [happening?_advance_eq_none fun h => heq ▸ running_handIn h, heq]
          exact move_handIn hfind hstage
      | answered r =>
          have heq : t.advance c.id = t.setStage c.id (.finished r) := by
            simp [advance, hfind, hstage]
          have hrunning : (t.setStage c.id (.finished r)).running = t.running := rfl
          rw [happening?_advance_eq_none fun h => heq ▸ hrunning.trans h, heq]
          exact .returned c r hc hstage (by simpa [hstage] using hdelivered)
      | answer =>
          have heq : t.advance c.id = t := by simp [advance, hfind, hstage]
          rw [happening?_advance_eq_none (by simp [heq]), heq]
          exact .still _ (by simpa [hstage] using hdelivered)
      | finished r =>
          have heq : t.advance c.id = t := by simp [advance, hfind, hstage]
          rw [happening?_advance_eq_none (by simp [heq]), heq]
          exact .still _ (by simpa [hstage] using hdelivered)

theorem move_send (t : Tracker) (s : Signal) : Move t (.send s) none (t.send s) := by
  have hdelivered : t.deliveries (.send s) =
      if t.refusal? = none then [.accepted ⟨s, none⟩] else [] := rfl
  unfold send
  split
  · rename_i run hrefusal hrun
    rw [hrefusal] at hdelivered
    unfold refusal? at hrefusal
    split at hrefusal
    · rename_i run' hintake hrun'
      obtain rfl := Option.some.inj (hrun.symm.trans hrun')
      split at hrefusal
      · contradiction
      · rename_i hlive
        split at hrefusal
        · contradiction
        · rename_i hroom
          exact .sent s run hintake hrun (by simpa using hlive) (Nat.lt_of_not_le hroom) hdelivered
    · contradiction
  · rename_i hrefused
    refine .still _ ?_
    rw [hdelivered, if_neg]
    -- a signal is taken only where there is a run
    intro hnone
    cases hrun : t.run with
    | none => simp [refusal?, hrun] at hnone
    | some run => exact hrefused run hnone hrun

section

variable {t : Tracker} {run : Run} {roster : Roster} {firstRead : Bool} {e : Envelope}
  {rest : List Envelope}

theorem work_of_not_live (hrun : t.run = some run) (hended : run.worker.isLive = false) :
    t.work = t := by
  unfold work
  rw [hrun]
  dsimp only
  cases hworker : run.worker with
  | live roster firstRead => simp [hworker, Worker.isLive] at hended
  | ended roster => rfl
  | crashed => rfl

theorem work_of_cancelled (hrun : t.run = some run) (hworker : run.worker = .live roster firstRead)
    (hcancelled : run.cancelled = true) : t.work = t.endWorker run (.ended roster) [] := by
  simp [work, hrun, hworker, hcancelled]

theorem work_of_idle (hrun : t.run = some run) (hworker : run.worker = .live roster firstRead)
    (hcancelled : run.cancelled = false) (hqueue : run.queue = []) : t.work = t := by
  simp [work, hrun, hworker, hcancelled, hqueue]

/-- A live worker applies the first signal of the queue. -/
theorem work_of_queue (hrun : t.run = some run) (hworker : run.worker = .live roster firstRead)
    (hcancelled : run.cancelled = false) (hqueue : run.queue = e :: rest) :
    t.work =
      match e.signal with
      | .radioState => t.readState (Run.shift run rest) roster firstRead e
      | .scanResults updated => t.takeScan (Run.shift run rest) roster firstRead updated e := by
  -- the step rebuilds the run field by field, and so does `shift`
  obtain ⟨worker, queue, line, notices, notifier, trigger, cancelled⟩ := run
  dsimp only at hworker hcancelled hqueue
  subst hworker hcancelled hqueue
  unfold work
  rw [hrun]
  rfl

theorem deliveries_work_of_queue (hrun : t.run = some run)
    (hworker : run.worker = .live roster firstRead) (hcancelled : run.cancelled = false)
    (hqueue : run.queue = e :: rest) :
    t.deliveries .work =
      match t.verdict? roster firstRead e.signal with
      | none => []
      | some o => .applied e o :: (run.line.take 1).map .accepted := by
  simp only [deliveries, workDeliveries, hrun, hworker, hcancelled, hqueue]
  rfl

/-- Taking a radio state down tells the run its notices. -/
theorem told_state (t : Tracker) (run : Run) (firstRead : Bool) :
    (if (decide (t.recorded ≠ t.radio.state) || firstRead) = true then
        Run.tell run (.stateChanged t.radio.state) else run) =
      Run.tellAll run (t.stateNotices firstRead) := by
  unfold stateNotices
  simp only [Bool.or_eq_true, decide_eq_true_eq]
  split
  · exact Run.tell_eq_tellAll _ _
  · exact (Run.tellAll_nil _).symm

theorem move_readState (hrun : t.run = some run) (hworker : run.worker = .live roster firstRead)
    (hcancelled : run.cancelled = false) (hqueue : run.queue = e :: rest)
    (hsignal : e.signal = .radioState) :
    Move t .work (some (t.application .radioState))
      (t.readState (Run.shift run rest) roster firstRead e) := by
  have hdelivered := deliveries_work_of_queue hrun hworker hcancelled hqueue
  rw [hsignal, verdict?] at hdelivered
  unfold application at hdelivered ⊢
  unfold readState
  cases hcrashing : t.radio.stateCrashing with
  | true =>
      rw [hcrashing] at hdelivered
      exact .crashed run e rest roster firstRead hrun hworker hcancelled hqueue hdelivered
  | false =>
      rw [hcrashing] at hdelivered
      have hmove :=
        Move.stateRead run e rest roster firstRead hrun hworker hcancelled hqueue hsignal hdelivered
      unfold recordState
      dsimp only
      rw [told_state]
      exact hmove

theorem move_takeScan {updated : Bool} (hrun : t.run = some run)
    (hworker : run.worker = .live roster firstRead) (hcancelled : run.cancelled = false)
    (hqueue : run.queue = e :: rest) (hsignal : e.signal = .scanResults updated) :
    Move t .work (some (t.application (.scanResults updated)))
      (t.takeScan (Run.shift run rest) roster firstRead updated e) := by
  have hdelivered := deliveries_work_of_queue hrun hworker hcancelled hqueue
  rw [hsignal, verdict?] at hdelivered
  unfold application at hdelivered ⊢
  cases hreply : t.radio.reply with
  | found sightings =>
      rw [hreply] at hdelivered
      have hmove := Move.scanTaken run e rest roster firstRead updated sightings _ hrun hworker
        hcancelled hqueue hsignal hreply rfl hdelivered
      unfold takeScan
      rw [hreply]
      dsimp only
      rw [Run.tell_eq_tellAll]
      exact hmove
  | failed cause =>
      rw [hreply] at hdelivered
      unfold takeScan
      rw [hreply]
      exact .scanMissed run e rest roster firstRead updated hrun hworker hcancelled hqueue hsignal
        hdelivered
  | crashed =>
      rw [hreply] at hdelivered
      unfold takeScan
      rw [hreply]
      exact .crashed run e rest roster firstRead hrun hworker hcancelled hqueue hdelivered

end

theorem move_work (t : Tracker) : Move t .work (t.nextSignal?.map t.application) t.work := by
  cases hrun : t.run with
  | none =>
      have hwork : t.work = t := by simp [work, hrun]
      have hlabel : t.nextSignal? = none := by simp [nextSignal?, hrun]
      rw [hwork, hlabel]
      exact .still _ (by simp [deliveries, workDeliveries, hrun])
  | some run =>
      cases hworker : run.worker with
      | ended roster =>
          have hlabel : t.nextSignal? = none := by simp [nextSignal?, hrun, hworker, Worker.isLive]
          rw [work_of_not_live hrun (by rw [hworker]; rfl), hlabel]
          exact .still _ (by simp [deliveries, workDeliveries, hrun, hworker])
      | crashed =>
          have hlabel : t.nextSignal? = none := by simp [nextSignal?, hrun, hworker, Worker.isLive]
          rw [work_of_not_live hrun (by rw [hworker]; rfl), hlabel]
          exact .still _ (by simp [deliveries, workDeliveries, hrun, hworker])
      | live roster firstRead =>
          cases hcancelled : run.cancelled with
          | true =>
              have hlabel : t.nextSignal? = none := by simp [nextSignal?, hrun, hcancelled]
              have hdelivered : t.deliveries .work = [] := by
                simp only [deliveries, workDeliveries, hrun, hworker, hcancelled]
                cases run.queue <;> rfl
              rw [work_of_cancelled hrun hworker hcancelled, hlabel]
              exact .ended run roster firstRead hrun hworker hcancelled hdelivered
          | false =>
              have hlabel : t.nextSignal? = run.queue.head?.map (·.signal) := by
                simp [nextSignal?, hrun, hworker, hcancelled, Worker.isLive]
              cases hqueue : run.queue with
              | nil =>
                  rw [work_of_idle hrun hworker hcancelled hqueue, hlabel, hqueue]
                  exact .still _ (by simp [deliveries, workDeliveries, hrun, hworker, hqueue])
              | cons e rest =>
                  rw [work_of_queue hrun hworker hcancelled hqueue, hlabel, hqueue]
                  cases hsignal : e.signal with
                  | radioState =>
                      simpa [hsignal] using move_readState hrun hworker hcancelled hqueue hsignal
                  | scanResults updated =>
                      simpa [hsignal] using move_takeScan hrun hworker hcancelled hqueue hsignal

theorem move_notify (t : Tracker) : Move t .notify t.nextTelling? t.notify := by
  unfold notify nextTelling?
  cases hrun : t.run with
  | none => exact .still _ rfl
  | some run =>
      obtain ⟨worker, queue, line, notices, notifier, trigger, cancelled⟩ := run
      cases notifier with
      | telling n => exact .broadcast _ n hrun rfl
      | ended => cases notices <;> exact .still _ rfl
      | crashed => cases notices <;> exact .still _ rfl
      | live =>
          cases notices with
          | nil =>
              cases hended : worker.isLive with
              | true => simpa [hended] using Move.still .notify rfl
              | false => simpa [hended] using Move.notifierEnded _ hrun rfl rfl hended
          | cons n rest =>
              cases hcrashing : t.audience.crashing with
              | true => simpa using Move.callbackCrashed _ n rest hrun rfl rfl hcrashing
              | false => simpa using Move.called _ n rest hrun rfl rfl hcrashing

theorem move_wakeTrigger (t : Tracker) : Move t .trigger none t.wakeTrigger := by
  unfold wakeTrigger
  cases hrun : t.run with
  | none => exact .still _ rfl
  | some run =>
      have hmove := fun trigger : Trigger =>
        Move.world (t := t) .trigger t.radio t.clock t.elapsed (fun _ => trigger) rfl
          (Or.inl rfl) nofun
      simp only [hrun, Option.map_some, running_eq_some_iff, Option.some.injEq] at hmove
      cases htrigger : run.trigger with
      | fresh =>
          cases hcancelled : run.cancelled with
          | true =>
              simpa [htrigger, hcancelled] using hmove .ended (by rintro _ ⟨rfl, hlive⟩; simp_all)
          | false =>
              simpa [htrigger, hcancelled] using
                hmove (.ticking _) (by rintro _ ⟨rfl, -⟩; rw [htrigger]; rfl)
      | ticking next =>
          cases hcancelled : run.cancelled with
          | true =>
              simpa [htrigger, hcancelled] using hmove .ended (by rintro _ ⟨rfl, hlive⟩; simp_all)
          | false => simpa [htrigger, hcancelled] using Move.still .trigger rfl
      | absent => simpa [htrigger] using Move.still .trigger rfl
      | ended => simpa [htrigger] using Move.still .trigger rfl

/-- A trigger that strikes stays at work. -/
theorem isLive_struck {t : Tracker} {run : Run} {next : Nat} (hrun : t.run = some run)
    (htrigger : run.trigger = .ticking next) (next' : Nat) :
    ∀ run, t.running = some run → (Trigger.ticking next').isLive = run.trigger.isLive := by
  intro run' hrunning
  obtain rfl := Option.some.inj (hrun.symm.trans (running_eq_some_iff.mp hrunning).1)
  rw [htrigger]
  rfl

theorem move_tick (t : Tracker) : Move t .tick none t.tick := by
  unfold tick
  cases hrun : t.run with
  | none => exact .still _ rfl
  | some run =>
      have hmove := fun (radio : Radio) (trigger : Trigger) =>
        Move.world (t := t) .tick radio t.clock t.elapsed (fun _ => trigger) rfl (Or.inr rfl) nofun
      rw [hrun] at hmove
      dsimp only
      split
      · rename_i next htrigger _
        split
        · exact hmove _ _ (isLive_struck hrun htrigger _)
        · exact .still _ rfl
      · exact .still _ rfl

theorem move_passTime (t : Tracker) (nanos : Nat) :
    Move t (.passTime nanos) none (t.passTime nanos) := by
  unfold passTime
  cases hrun : t.run with
  | none =>
      have hmove := Move.world (t := t) (.passTime nanos) t.radio t.clock (t.elapsed + nanos) id
        rfl (Or.inr rfl) nofun fun _ _ => rfl
      simp only [hrun, Option.map_none] at hmove
      exact hmove
  | some run =>
      have hmove := fun (radio : Radio) (trigger : Trigger → Trigger) =>
        Move.world (t := t) (.passTime nanos) radio t.clock (t.elapsed + nanos) trigger
          rfl (Or.inr rfl) nofun
      rw [hrun] at hmove
      dsimp only
      split
      · rename_i next htrigger _
        exact hmove _ (fun _ => _) (isLive_struck hrun htrigger _)
      · exact hmove t.radio id fun _ _ => rfl

theorem move_beginStart (t : Tracker) : Move t .beginStart none t.beginStart := by
  unfold beginStart
  split
  · rename_i hvalid
    exact .begun _ _ _ (by simp) (by simp) (by simp) rfl rfl (fun _ _ => rfl) nofun
      (fun _ _ => hvalid) nofun nofun
  · rename_i cause hinvalid
    refine .begun _ _ _ (by simp) (by simp) (by simp) rfl rfl (fun _ hvalid => ?_) (fun r hr => ?_)
      nofun nofun nofun
    · rw [hinvalid] at hvalid
      contradiction
    · exact ⟨_, (Stage.finished.inj hr).symm⟩

/-- Every step is a move, and makes happen what the move does. -/
theorem move_step (t : Tracker) (s : Step) : Move t s (t.happening? s) (t.step s) := by
  cases s with
  | beginStart => exact move_beginStart t
  | beginStop =>
      exact .begun _ _ _ (by simp) (by simp) (by simp) rfl rfl (fun _ _ => rfl) nofun nofun nofun
        fun _ => rfl
  | beginSignal s =>
      exact .begun _ _ _ (by simp) (by simp) (by simp) rfl rfl nofun nofun nofun (fun _ => rfl) nofun
  | advance id => exact move_advance t id
  | send s => exact move_send t s
  | work => exact move_work t
  | notify => exact move_notify t
  | trigger => exact move_wakeTrigger t
  | tick => exact move_tick t
  | passTime nanos => exact move_passTime t nanos
  | setClock now =>
      have hmove := Move.world (t := t) (.setClock now) t.radio now t.elapsed id rfl
        (Or.inr rfl) (fun _ => ⟨rfl, fun _ => rfl⟩) fun _ _ => rfl
      simp only [id, Option.map_id'] at hmove
      exact hmove
  | setRadio change =>
      have hmove := Move.world (t := t) (.setRadio change) (change t.radio) t.clock t.elapsed id
        rfl (Or.inr rfl) (fun _ => ⟨rfl, fun _ => rfl⟩) fun _ _ => rfl
      simp only [id, Option.map_id'] at hmove
      exact hmove
  | setCallbacks crashing => exact .callbacksSet crashing

end Tracker

end ScanRoster
