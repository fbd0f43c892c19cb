import ScanRoster.Proofs.Tracker.Lifecycle

/-!
# The queue of a run

While the worker of a run is live, the signals that got a place in the queue since the run was
started are those that it has applied followed by those that are still there, in the same order.
Calls are in line only where the queue is full, and nothing is left in either once the worker has
ended.
-/

namespace ScanRoster

open Delivery Tracker

/-- What holds of a run after a log of deliveries. -/
structure Run.Queued (run : Run) (log : List Delivery) : Prop where
  bounded : run.queue.length ≤ queueCapacity
  full : run.line ≠ [] → run.queue.length = queueCapacity
  emptied : run.worker.isLive = false → run.queue = [] ∧ run.line = []
  cancelled : ∀ roster, run.worker = .ended roster → run.cancelled = true
  fifo : run.worker.isLive = true →
    acceptedIn (sinceOpened log) = appliedIn (sinceOpened log) ++ run.queue

namespace Run.Queued

variable {run : Run} {log : List Delivery} {e : Envelope} {rest : List Envelope}

/-- Where the queue has a place, nobody is in line. -/
theorem line_eq_nil (h : run.Queued log) (hroom : run.queue.length < queueCapacity) :
    run.line = [] := by
  by_contra hline
  exact absurd (h.full hline) (Nat.ne_of_lt hroom)

/-- A signal gets a place in the queue. -/
theorem push (h : run.Queued log) (hroom : run.queue.length < queueCapacity)
    (hlive : run.worker.isLive = true) (e : Envelope) :
    Run.Queued { run with queue := run.queue ++ [e] } (log ++ [.accepted e]) where
  bounded := by
    rw [List.length_append, List.length_singleton]
    exact hroom
  full hline := absurd (h.line_eq_nil hroom) hline
  emptied hended := absurd hended (by rw [hlive]; exact Bool.noConfusion)
  cancelled := h.cancelled
  fifo _ := by
    rw [sinceOpened_append _ _ (by simp), acceptedIn_append, appliedIn_append, h.fifo hlive]
    simp [acceptedIn, appliedIn]

/-- A call gets in line. -/
theorem wait (h : run.Queued log) (hfull : ¬ (run.queue.length < queueCapacity ∧ run.line = []))
    (hlive : run.worker.isLive = true) (e : Envelope) :
    Run.Queued { run with line := run.line ++ [e] } log where
  bounded := h.bounded
  full _ := by
    by_cases hroom : run.queue.length < queueCapacity
    · exact absurd ⟨hroom, h.line_eq_nil hroom⟩ hfull
    · exact Nat.le_antisymm h.bounded (Nat.le_of_not_lt hroom)
  emptied hended := absurd hended (by rw [hlive]; exact Bool.noConfusion)
  cancelled := h.cancelled
  fifo := h.fifo

/-- The worker takes the first signal, and the first call in line gets the place. -/
theorem shift (h : run.Queued log) (hlive : run.worker.isLive = true)
    (hqueue : run.queue = e :: rest) {worker : Worker} (hworker : worker.isLive = true)
    (notices : List Notice) (o : SignalOutcome) :
    Run.Queued { Run.shift run rest with worker, notices }
      (log ++ .applied e o :: (run.line.take 1).map .accepted) := by
  have hbounded := h.bounded
  rw [hqueue, List.length_cons] at hbounded
  have hlength : (run.line.take 1).length ≤ 1 := List.length_take_le ..
  refine ⟨?_, ?_, ?_, ?_, ?_⟩
  · simp only [Run.shift, List.length_append]
    by_cases hline : run.line = []
    · rw [hline, List.take_nil, List.length_nil]
      omega
    · have hfull := h.full hline
      rw [hqueue, List.length_cons] at hfull
      omega
  · intro hleft
    have hline : run.line ≠ [] := by
      rintro hnil
      simp [Run.shift, hnil] at hleft
    have hfull := h.full hline
    have hone : (run.line.take 1).length = 1 := by
      rw [List.length_take]
      exact Nat.min_eq_left (List.length_pos_iff.mpr hline)
    rw [hqueue, List.length_cons] at hfull
    simp only [Run.shift, List.length_append, hone]
    exact hfull
  · intro hended
    exact absurd hended (by rw [hworker]; exact Bool.noConfusion)
  · intro roster hended
    have hended' : worker = .ended roster := hended
    rw [hended'] at hworker
    contradiction
  · intro _
    rw [sinceOpened_append _ _ (opened_not_mem_applied _ _ _), acceptedIn_append, appliedIn_append,
      acceptedIn_applied, appliedIn_applied, h.fifo hlive, hqueue]
    simp [Run.shift]

/-- What is left of a run whose worker ends. -/
theorem endWorker {worker : Worker} (hended : worker.isLive = false)
    (hcancelled : ∀ roster, worker = .ended roster → run.cancelled = true) :
    Run.Queued { run with worker, queue := [], line := [] } log where
  bounded := Nat.zero_le _
  full hline := absurd rfl hline
  emptied _ := ⟨rfl, rfl⟩
  cancelled := hcancelled
  fifo hlive := absurd hlive (by simp [hended])

end Run.Queued

namespace Tracker

/-- What holds of the queue of a tracker after a log of deliveries. -/
structure Dispatched (t : Tracker) (log : List Delivery) : Prop where
  queued : ∀ run, t.run = some run → run.Queued log
  ordered : appliedIn (sinceOpened log) <+: acceptedIn (sinceOpened log)

namespace Dispatched

variable {t u : Tracker} {log : List Delivery} {run : Run}

/-- Where the worker is live, the order follows from what is in the queue. -/
theorem of_live (hrun : u.run = some run) (hqueued : run.Queued log)
    (hlive : run.worker.isLive = true) : Dispatched u log where
  queued run' hrun' := by rwa [← Option.some.inj (hrun.symm.trans hrun')]
  ordered := by
    rw [hqueued.fifo hlive]
    exact List.prefix_append ..

/-- A step that leaves the queue alone. -/
theorem congr (h : Dispatched t log) (hrun : ∀ run', u.run = some run' →
    ∃ run, t.run = some run ∧ run'.queue = run.queue ∧ run'.line = run.line ∧
      run'.worker = run.worker ∧ (run.cancelled = true → run'.cancelled = true)) :
    Dispatched u log where
  queued run' hrun' := by
    obtain ⟨run, hsome, hqueue, hline, hworker, hcancelled⟩ := hrun run' hrun'
    have hqueued := h.queued run hsome
    refine ⟨?_, ?_, ?_, ?_, ?_⟩
    · rw [hqueue]
      exact hqueued.bounded
    · rw [hqueue, hline]
      exact hqueued.full
    · rw [hqueue, hline, hworker]
      exact hqueued.emptied
    · intro roster hended
      exact hcancelled (hqueued.cancelled roster (hworker ▸ hended))
    · rw [hqueue, hworker]
      exact hqueued.fifo
  ordered := h.ordered

/-- The notifier does a piece of its work. -/
theorem told (h : Dispatched t log) (hrun : t.run = some run) {notices : List Notice}
    {notifier : Notifier} (hafter : u.run = some { run with notices, notifier }) :
    Dispatched u log := by
  refine h.congr fun run' hrun' => ⟨run, hrun, ?_⟩
  rw [← Option.some.inj (hafter.symm.trans hrun')]
  exact ⟨rfl, rfl, rfl, id⟩

theorem same (h : Dispatched t log) (hrun : u.run = t.run) : Dispatched u log :=
  h.congr fun run hsome => ⟨run, hrun ▸ hsome, rfl, rfl, rfl, id⟩

/-- That a call comes is nothing to the queue. -/
theorem asks (h : Dispatched t log) (id : Nat) (stage : Stage) :
    Dispatched t (log ++ stage.asks id) := by
  cases stage with
  | intake s =>
      have hsame : acceptedIn (sinceOpened (log ++ [.asked id s])) = acceptedIn (sinceOpened log) ∧
          appliedIn (sinceOpened (log ++ [.asked id s])) = appliedIn (sinceOpened log) := by
        rw [sinceOpened_append _ _ (by simp), acceptedIn_append, appliedIn_append]
        simp [acceptedIn, appliedIn]
      refine ⟨fun run hrun => ?_, ?_⟩
      · obtain ⟨hbounded, hfull, hemptied, hcancelled, hfifo⟩ := h.queued run hrun
        refine ⟨hbounded, hfull, hemptied, hcancelled, ?_⟩
        rw [Stage.asks, hsame.1, hsame.2]
        exact hfifo
      · rw [Stage.asks, hsame.1, hsame.2]
        exact h.ordered
  | _ => simpa [Stage.asks] using h

theorem spawn (t : Tracker) (log : List Delivery) : Dispatched t.spawn (log ++ [.opened]) := by
  refine of_live rfl ⟨Nat.zero_le _, ?_, ?_, ?_, ?_⟩ rfl
  · exact fun hline => absurd rfl hline
  · exact fun hended => Bool.noConfusion hended
  · exact fun roster hended => Worker.noConfusion hended
  · intro _
    rw [sinceOpened_opened]
    rfl

/-- The worker ends, and leaves nothing in the queue. -/
theorem endWorker (h : Dispatched t log) (run : Run) {worker : Worker}
    (hended : worker.isLive = false)
    (hcancelled : ∀ roster, worker = .ended roster → run.cancelled = true)
    (dropped : List Envelope) : Dispatched (t.endWorker run worker dropped) log where
  queued run' hrun' := by
    rw [← Option.some.inj hrun']
    exact .endWorker hended hcancelled
  ordered := h.ordered

end Dispatched

section

variable {t u : Tracker} {run : Run} {e : Envelope}

/-- A signal that gets a place in the queue is behind all that wait. -/
theorem waiting_push (hrun : t.run = some run) (hline : run.line = [])
    (hafter : u.run = some { run with queue := run.queue ++ [e] }) :
    u.waiting = t.waiting ++ [e] := by
  rw [waiting_of_run hrun, waiting_of_run hafter, hline, List.append_nil, List.append_nil]

/-- So is one whose call gets in line. -/
theorem waiting_wait (hrun : t.run = some run)
    (hafter : u.run = some { run with line := run.line ++ [e] }) :
    u.waiting = t.waiting ++ [e] := by
  rw [waiting_of_run hrun, waiting_of_run hafter, List.append_assoc]

end

theorem dispatched_move {t t' : Tracker} {s : Step} {happening : Option Happening}
    {log : List Delivery} (hmove : Move t s happening t') (h : Dispatched t log) :
    Dispatched t' (log ++ t.deliveries s) := by
  cases hmove with
  | still _ hdelivered =>
      rw [hdelivered, List.append_nil]
      exact h
  | begun _ kind stage hstage hstop hintake hdelivered =>
      rw [hdelivered]
      exact (h.asks t.nextCall stage).same rfl
  | left c r hc hstage hidle hrefused hdelivered =>
      rw [hdelivered, List.append_nil]
      exact h.same rfl
  | spawned c hc hkind hstage hfree hrunning hdelivered =>
      rw [hdelivered]
      exact (Dispatched.spawn t log).same rfl
  | cancelled c run hc hkind hstage hfree hrun hlive hdelivered =>
      rw [hdelivered, List.append_nil]
      refine h.congr fun run' hrun' => ⟨run, hrun, ?_⟩
      rw [← Option.some.inj hrun']
      exact ⟨rfl, rfl, rfl, fun _ => rfl⟩
  | parked c run hc hstage hrun hended hdelivered =>
      rw [hdelivered, List.append_nil]
      exact h.same rfl
  | stopped c run hc hstage hrun hnotifier htrigger hdelivered =>
      rw [hdelivered, List.append_nil]
      exact h.congr fun _ hnone => by contradiction
  | queued c run s hc hstage hintake hrun hlive hroom hdelivered =>
      rw [hdelivered]
      exact .of_live rfl ((h.queued run hrun).push hroom.1 hlive _) hlive
  | lined c run s hc hstage hintake hrun hlive hroom hdelivered =>
      rw [hdelivered, List.append_nil]
      exact .of_live rfl ((h.queued run hrun).wait hroom hlive _) hlive
  | returned c r hc hstage hdelivered =>
      rw [hdelivered, List.append_nil]
      exact h.same rfl
  | sent s run hintake hrun hlive hroom hdelivered =>
      rw [hdelivered]
      exact .of_live rfl ((h.queued run hrun).push hroom hlive _) hlive
  | ended run roster firstRead hrun hworker hcancelled hdelivered =>
      rw [hdelivered, List.append_nil]
      exact h.endWorker run rfl (fun _ _ => hcancelled) _
  | crashed run e rest roster firstRead hrun hworker hcancelled hqueue hdelivered =>
      rw [hdelivered, List.append_nil]
      exact h.endWorker _ rfl (fun _ hended => Worker.noConfusion hended) _
  | stateRead run e rest roster firstRead hrun hworker hcancelled hqueue hsignal hdelivered =>
      rw [hdelivered]
      exact .of_live rfl ((h.queued run hrun).shift (by rw [hworker]; rfl) hqueue rfl _ _) rfl
  | scanMissed run e rest roster firstRead updated hrun hworker hcancelled hqueue hsignal
      hdelivered =>
      rw [hdelivered]
      exact .of_live rfl ((h.queued run hrun).shift (by rw [hworker]; rfl) hqueue rfl _ _) rfl
  | scanTaken run e rest roster firstRead updated sightings c hrun hworker hcancelled hqueue
      hsignal hreply hcycle hdelivered =>
      rw [hdelivered]
      exact .of_live rfl ((h.queued run hrun).shift (by rw [hworker]; rfl) hqueue rfl _ _) rfl
  | callbackCrashed run n rest hrun =>
      rw [deliveries_notify, List.append_nil]
      exact h.told hrun rfl
  | called run n rest hrun =>
      rw [deliveries_notify, List.append_nil]
      exact h.told hrun rfl
  | broadcast run n hrun =>
      rw [deliveries_notify, List.append_nil]
      exact h.told hrun rfl
  | notifierEnded run hrun =>
      rw [deliveries_notify, List.append_nil]
      exact h.told hrun rfl
  | world s radio clock elapsed trigger hdelivered =>
      rw [hdelivered, List.append_nil]
      refine h.congr fun run' hrun' => ?_
      obtain ⟨run, hrun, rfl⟩ := Option.map_eq_some_iff.mp hrun'
      exact ⟨run, hrun, rfl, rfl, rfl, id⟩
  | callbacksSet crashing =>
      rw [deliveries_setCallbacks, List.append_nil]
      exact h.same rfl

/-- After any steps the queue of a tracker is as its deliveries tell. -/
theorem dispatched_after (config : TrackerConfig) (radio : Radio) (clock : Int64)
    (steps : List Step) : Dispatched ((new config radio clock).after steps)
      ((new config radio clock).deliveryLog steps) := by
  induction steps using List.reverseRecOn with
  | nil => exact ⟨fun _ hnone => by contradiction, List.prefix_refl _⟩
  | append_singleton steps s ih =>
      rw [after_concat, deliveryLog_concat]
      exact dispatched_move (move_step _ s) ih

end Tracker

end ScanRoster
