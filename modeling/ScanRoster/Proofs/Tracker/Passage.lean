import ScanRoster.Proofs.Tracker.Answer

/-!
# The passage of signals

Signals pass from the callers to the worker in the order in which they were accepted, each once,
and none from one run to the next.  The worker gets to every signal that waits, whatever else
happens in between, so every call returns: with the outcome of its own signal, or to tell that the
tracker was stopped, and then its signal has left no trace.
-/

namespace ScanRoster

open Delivery

/-- Whether a step is a piece of the worker's work. -/
def Step.isWork : Step → Bool
  | .work => true
  | _ => false

namespace Tracker

/-! ## What an applied signal leaves behind -/

/-- What a signal that is applied with some outcome makes of a tracker. -/
def Carried (t t' : Tracker) : Signal → SignalOutcome → Prop
  | .radioState, .radioState state _ =>
    state = t.radio.state ∧ t'.recorded = state ∧ t'.feed = t.feed
  | .scanResults _, .sourceUnavailable => t'.recorded = t.recorded ∧ t'.feed = t.feed
  | .scanResults updated, .ingested report =>
    t'.recorded = t.recorded ∧ ∃ run roster firstRead sightings, t.run = some run ∧
      run.worker = .live roster firstRead ∧ t.radio.reply = .found sightings ∧
      t'.feed = t.feed.publish (roster.apply (.ofSightings sightings updated t.clock)).1.entries ∧
      report = (roster.apply (.ofSightings sightings updated t.clock)).2
  | _, _ => False

/-- A signal that is among the deliveries of a piece of work is the one that is applied. -/
theorem eq_of_mem_applied {e e' : Envelope} {o o' : SignalOutcome} {es : List Envelope}
    (hmem : .applied e' o' ∈ applied e o :: es.map .accepted) : e' = e ∧ o' = o := by
  rcases List.mem_cons.mp hmem with heq | hrest
  · exact Delivery.applied.inj heq
  · obtain ⟨_, -, heq⟩ := List.mem_map.mp hrest
    contradiction

section

variable {t t' : Tracker} {s : Step} {happening : Option Happening}

/-- Signals are applied by a run that no stop has come to, and each does what it is for. -/
theorem carried_move (hmove : Move t s happening t') {e : Envelope} {o : SignalOutcome}
    (hmem : .applied e o ∈ t.deliveries s) :
    t.running.isSome = true ∧ Carried t t' e.signal o := by
  have hsome : ∀ {run : Run}, t.run = some run → run.cancelled = false →
      t.running.isSome = true := by
    intro run hrun hcancelled
    rw [running_eq_some_iff.mpr ⟨hrun, hcancelled⟩]
    rfl
  cases hmove with
  | begun _ kind stage hstage hstop hintake hdelivered =>
      rw [hdelivered] at hmem
      cases stage with
      | intake s' => exact absurd hmem (by simp [Stage.asks])
      | _ => contradiction
  | stateRead run e' rest roster firstRead hrun hworker hcancelled hqueue hsignal hdelivered =>
      rw [hdelivered] at hmem
      obtain ⟨rfl, rfl⟩ := eq_of_mem_applied hmem
      rw [hsignal]
      exact ⟨hsome hrun hcancelled, rfl, rfl, rfl⟩
  | scanMissed run e' rest roster firstRead updated hrun hworker hcancelled hqueue hsignal
      hdelivered =>
      rw [hdelivered] at hmem
      obtain ⟨rfl, rfl⟩ := eq_of_mem_applied hmem
      rw [hsignal]
      exact ⟨hsome hrun hcancelled, rfl, rfl⟩
  | scanTaken run e' rest roster firstRead updated sightings c hrun hworker hcancelled hqueue
      hsignal hreply hcycle hdelivered =>
      rw [hdelivered] at hmem
      obtain ⟨rfl, rfl⟩ := eq_of_mem_applied hmem
      rw [hsignal, hcycle]
      exact ⟨hsome hrun hcancelled, rfl, run, roster, firstRead, sightings, hrun, hworker, hreply,
        rfl, rfl⟩
  | callbackCrashed | called | broadcast | notifierEnded | callbacksSet => contradiction
  | still _ hdelivered | left _ _ _ _ _ _ hdelivered | spawned _ _ _ _ _ _ hdelivered
  | cancelled _ _ _ _ _ _ _ _ hdelivered | parked _ _ _ _ _ _ hdelivered
  | stopped _ _ _ _ _ _ _ hdelivered | queued _ _ _ _ _ _ _ _ _ hdelivered
  | lined _ _ _ _ _ _ _ _ _ hdelivered | returned _ _ _ _ hdelivered | sent _ _ _ _ _ _ hdelivered
  | ended _ _ _ _ _ _ hdelivered | crashed _ _ _ _ _ _ _ _ _ hdelivered
  | world _ _ _ _ _ hdelivered =>
      rw [hdelivered] at hmem
      simp at hmem

/-- Where no signal is applied, neither the entries nor the radio state on record change. -/
theorem untouched_move (hmove : Move t s happening t')
    (hnone : ∀ e o, .applied e o ∉ t.deliveries s) :
    t'.feed = t.feed ∧ t'.recorded = t.recorded := by
  cases hmove with
  | stateRead run e rest roster firstRead hrun hworker hcancelled hqueue hsignal hdelivered =>
      rw [hdelivered] at hnone
      exact absurd (List.mem_cons_self ..) (hnone _ _)
  | scanTaken run e rest roster firstRead updated sightings c hrun hworker hcancelled hqueue
      hsignal hreply hcycle hdelivered =>
      rw [hdelivered] at hnone
      exact absurd (List.mem_cons_self ..) (hnone _ _)
  | _ => exact ⟨rfl, rfl⟩

end

/-! ## Signals that are refused -/

/-- A signal that does not wait is refused only where the queue is full, or where the tracker is
stopped or its worker has crashed. -/
theorem refusal_cases {t : Tracker} {log : List Delivery} (horderly : Orderly t)
    (hdispatched : Dispatched t log) {e : TrackerError} (h : t.refusal? = some e) :
    (e = .queueFull queueCapacity ∧
        ∃ run, t.run = some run ∧ run.queue.length = queueCapacity) ∨
      (e = .stopped ∧
        (t.isRunning = false ∨ ∃ run, t.run = some run ∧ run.worker = .crashed)) := by
  unfold refusal? at h
  split at h
  · rename_i run hintake hrun
    have hqueued := hdispatched.queued run hrun
    split at h
    · rename_i hended
      rw [Bool.not_eq_true'] at hended
      refine Or.inr ⟨(Option.some.inj h).symm, Or.inr ⟨run, hrun, ?_⟩⟩
      cases hworker : run.worker with
      | crashed => rfl
      | live roster firstRead =>
          rw [hworker] at hended
          contradiction
      | ended roster =>
          -- a worker ends in order only where a stop has come, and then no signals are taken
          have hcancelled := hqueued.cancelled roster hworker
          have houtline : t.run.map Run.outline = some (true, false) := by
            rw [hrun, Option.map_some, Run.outline, hcancelled, hended]
          cases horderly.phase with
          | stopped _ hr _ _ => rw [houtline] at hr; contradiction
          | running live _ hr _ _ => rw [houtline] at hr; simp at hr
          | stopping _ _ _ _ hclosed => rw [hintake] at hclosed; contradiction
          | closing _ _ _ hclosed => rw [hintake] at hclosed; contradiction
    · split at h
      · rename_i hfull
        exact Or.inl ⟨(Option.some.inj h).symm, run, hrun, Nat.le_antisymm hqueued.bounded hfull⟩
      · contradiction
  · rename_i hclosed
    refine Or.inr ⟨(Option.some.inj h).symm, Or.inl ?_⟩
    cases hintake : t.intake with
    | false => exact hintake
    | true =>
        -- while signals are taken there is a run
        cases horderly.phase with
        | stopped _ _ _ hi => rw [hintake] at hi; contradiction
        | running live _ hr _ _ =>
            obtain ⟨run, hrun, -⟩ := Option.map_eq_some_iff.mp hr
            exact absurd hrun (hclosed run hintake)
        | stopping _ _ _ _ hi => rw [hintake] at hi; contradiction
        | closing _ _ _ hi => rw [hintake] at hi; contradiction

theorem send_of_refused {t : Tracker} {e : TrackerError} (h : t.refusal? = some e) (s : Signal) :
    t.send s = t := by
  simp [send, h]

/-! ## Every call returns -/

/-- Whether a call has returned. -/
def Returned (t : Tracker) (id : Nat) : Prop :=
  ∃ c ∈ t.calls, c.id = id ∧ ∃ r, c.stage = .finished r

/-- Whether a call has been answered. It returns as soon as it goes on. -/
def HasAnswer (t : Tracker) (id : Nat) : Prop :=
  ∃ c ∈ t.calls, c.id = id ∧ ∃ r, c.stage.result? = some r

/-- Whether a call has been answered, or has its signal among the first so many that wait. -/
def Nearing (t : Tracker) (id n : Nat) : Prop :=
  t.HasAnswer id ∨ ∃ before e rest, t.waiting = before ++ e :: rest ∧ e.caller = some id ∧
    before.length < n

theorem Nearing.hasAnswer {t : Tracker} {id : Nat} (h : Nearing t id 0) : t.HasAnswer id := by
  rcases h with hanswer | ⟨before, e, rest, -, -, hlt⟩
  · exact hanswer
  · exact absurd hlt (Nat.not_lt_zero _)

section

variable {t t' u : Tracker} {s : Step} {happening : Option Happening} {log : List Delivery}
  {c : Call} {id : Nat}

theorem Enrolled.find?_eq (h : Enrolled t) (hc : c ∈ t.calls) :
    t.calls.find? (·.id == c.id) = some c := by
  cases hfind : t.calls.find? (·.id == c.id) with
  | none => exact absurd (List.find?_eq_none.mp hfind c hc) (by simp)
  | some d =>
      obtain ⟨hd, hid⟩ := mem_of_find?_calls hfind
      rw [h.eq_of_id_eq hd hc hid]

theorem mem_setStage_of_ne (hc : c ∈ u.calls) (hid : c.id ≠ id) (stage : Stage) :
    c ∈ (u.setStage id stage).calls :=
  List.mem_map.mpr ⟨c, hc, if_neg hid⟩

theorem stage_of_mem_setStage {stage : Stage} (hc : c ∈ (u.setStage id stage).calls)
    (hid : c.id = id) : c.stage = stage := by
  obtain ⟨d, -, rfl⟩ := List.mem_map.mp hc
  split
  · rfl
  · rename_i hne
    rw [if_neg hne] at hid
    exact absurd hid hne

theorem mem_answer_of_not_mem {es : List Envelope} {r : Except TrackerError SignalOutcome}
    (hc : c ∈ u.calls) (hid : c.id ∉ callers es) : c ∈ (u.answer es r).calls :=
  List.mem_map.mpr ⟨c, hc, if_neg (any_caller_iff.not.mpr hid)⟩

/-- A call that an answer is for has been answered. -/
theorem Enrolled.hasAnswer_answer (h : Enrolled t) (hcalls : u.calls = t.calls)
    {es : List Envelope} (hes : es ⊆ t.waiting) {r : Except TrackerError SignalOutcome}
    (hid : id ∈ callers es) : (u.answer es r).HasAnswer id := by
  obtain ⟨e, he, hcaller⟩ := mem_callers.mp hid
  obtain ⟨c, hc, rfl, -⟩ := h.answerable e (hes he) id hcaller
  refine ⟨_, List.mem_map_of_mem (hcalls ▸ hc), ?_⟩
  rw [if_pos (any_caller_iff.mpr hid)]
  exact ⟨rfl, _, rfl⟩

/-- A call that has been answered stays as it is until it returns with just that answer. -/
theorem mem_of_result_move (hmove : Move t s happening t') (henrolled : Enrolled t)
    (hattended : Attended t log) (hc : c ∈ t.calls) {r : CallResult}
    (hresult : c.stage.result? = some r) :
    c ∈ t'.calls ∨ (c.stage = .answered r ∧ { c with stage := .finished r } ∈ t'.calls) := by
  have hturn := turn_move hmove
  generalize t'.calls = calls at hturn ⊢
  cases hturn with
  | rests => exact Or.inl hc
  | comes kind stage => exact Or.inl (List.mem_append_left _ hc)
  | goesOn d stage hd hgoes =>
      by_cases hid : c.id = d.id
      · obtain rfl := henrolled.eq_of_id_eq hc hd hid
        obtain ⟨hstage, rfl⟩ := hgoes r hresult
        exact Or.inr ⟨hstage, List.mem_map.mpr ⟨c, hc, if_pos rfl⟩⟩
      · exact Or.inl (mem_setStage_of_ne hc hid _)
  | answers es r' hes =>
      refine Or.inl (mem_answer_of_not_mem hc fun hid => ?_)
      rw [hattended.stage_of_mem_callers hc hes hid] at hresult
      contradiction

/-- A call that has returned is done with. -/
theorem returned_move (hmove : Move t s happening t') (henrolled : Enrolled t)
    (hattended : Attended t log) (h : t.Returned id) : t'.Returned id := by
  obtain ⟨c, hc, rfl, r, hfinished⟩ := h
  rcases mem_of_result_move hmove henrolled hattended hc (r := r) (by rw [hfinished]; rfl) with
    hstays | ⟨hanswered, -⟩
  · exact ⟨c, hstays, rfl, r, hfinished⟩
  · rw [hfinished] at hanswered
    contradiction

/-- An answer is not taken back. -/
theorem hasAnswer_move (hmove : Move t s happening t') (henrolled : Enrolled t)
    (hattended : Attended t log) (h : t.HasAnswer id) : t'.HasAnswer id := by
  obtain ⟨c, hc, rfl, r, hresult⟩ := h
  rcases mem_of_result_move hmove henrolled hattended hc hresult with hstays | ⟨-, hreturned⟩
  · exact ⟨c, hstays, rfl, r, hresult⟩
  · exact ⟨_, hreturned, rfl, r, rfl⟩

/-- A call that has been answered returns when it goes on. -/
theorem HasAnswer.returned_advance (h : t.HasAnswer id) (henrolled : Enrolled t) :
    (t.step (.advance id)).Returned id := by
  obtain ⟨c, hc, rfl, r, hresult⟩ := h
  have hfind := henrolled.find?_eq hc
  have hstep : t.step (.advance c.id) = t.advance c.id := rfl
  cases hstage : c.stage with
  | answered r' =>
      have hreturns : t.advance c.id = t.setStage c.id (.finished r') := by
        simp [advance, hfind, hstage]
      rw [hstep, hreturns]
      exact ⟨_, List.mem_map.mpr ⟨c, hc, if_pos rfl⟩, rfl, r', rfl⟩
  | finished r' =>
      have hstill : t.advance c.id = t := by simp [advance, hfind, hstage]
      rw [hstep, hstill]
      exact ⟨c, hc, rfl, r', hstage⟩
  | _ => rw [hstage] at hresult; contradiction

/-- Whatever happens but work, signals only come behind those that wait. -/
theorem waiting_grows (hmove : Move t s happening t') (horderly : Orderly t)
    (hdispatched : Dispatched t log) (hwork : s.isWork = false) (hsome : t.waiting ≠ []) :
    ∃ more, t'.waiting = t.waiting ++ more := by
  have hsame : ∀ {w : List Envelope}, w = t.waiting → ∃ more, w = t.waiting ++ more :=
    fun heq => ⟨[], by rw [heq, List.append_nil]⟩
  cases hmove with
  | spawned c hc hkind hstage hfree hrunning =>
      have hnone := (horderly.phase.of_not_running (lifecycleHeld_eq_false_iff.mp hfree) hrunning).1
      exact absurd (by rw [waiting, hnone]) hsome
  | cancelled c run hc hkind hstage hfree hrun => exact hsame (waiting_of_run hrun).symm
  | stopped c run hc hstage hrun =>
      have hmem : Stage.helpers ∈ t.held := hstage ▸ stage_mem_held hc (by rw [hstage]; rfl)
      have hended := (horderly.phase.of_helpers hmem hrun).2.1
      obtain ⟨hqueue, hline⟩ := (hdispatched.queued run hrun).emptied hended
      exact absurd (by rw [waiting_of_run hrun, hqueue, hline]; rfl) hsome
  | queued c run s hc hstage hintake hrun hlive hroom =>
      exact ⟨_, waiting_push hrun hroom.2 rfl⟩
  | lined c run s hc hstage hintake hrun => exact ⟨_, waiting_wait hrun rfl⟩
  | sent s run hintake hrun hlive hroom =>
      exact ⟨_, waiting_push hrun ((hdispatched.queued run hrun).line_eq_nil hroom) rfl⟩
  | callbackCrashed run n rest hrun => exact hsame (waiting_of_run hrun).symm
  | called run n rest hrun => exact hsame (waiting_of_run hrun).symm
  | broadcast run n hrun => exact hsame (waiting_of_run hrun).symm
  | notifierEnded run hrun => exact hsame (waiting_of_run hrun).symm
  | world s radio clock elapsed trigger =>
      refine hsame ?_
      cases hrun : t.run with
      | none => simp [waiting, hrun]
      | some run => simp [waiting, hrun]
  | ended | crashed | stateRead | scanMissed | scanTaken => contradiction
  | still | begun | left | parked | returned | callbacksSet => exact hsame rfl

/-- The worker applies the first signal that waits, and its call is answered. -/
theorem Enrolled.answered_first (h : Enrolled t) {run : Run} {e e' : Envelope}
    {queue rest : List Envelope} (hrun : t.run = some run) (hqueue : run.queue = e' :: queue)
    (hwaiting : t.waiting = e :: rest) {worker : Worker} {notices : List Notice} {feed : Feed}
    {recorded : RadioState} {recordings : Nat} (r : Except TrackerError SignalOutcome) :
    let u := { t with
      feed, recorded, recordings
      run := some { Run.shift run queue with worker, notices } }
    (u.answer [e'] r).waiting = rest ∧
      ∀ id, e.caller = some id → (u.answer [e'] r).HasAnswer id := by
  have hfirst := mem_waiting_of_queue hrun hqueue
  rw [waiting_of_run hrun, waiting_shift hqueue] at hwaiting
  obtain ⟨rfl, hrest⟩ := List.cons.inj hwaiting
  refine ⟨hrest, fun id hcaller => h.hasAnswer_answer rfl hfirst ?_⟩
  exact mem_callers.mpr ⟨e', List.mem_singleton_self _, hcaller⟩

/-- Where signals wait for a run that no stop has come to, the worker has one to apply. -/
theorem nextSignal?_of_waiting (hdispatched : Dispatched t log) {run : Run}
    (hrun : t.run = some run) (hsome : t.waiting ≠ []) (hcancelled : run.cancelled = false) :
    ∃ signal, t.nextSignal? = some signal := by
  have hqueued := hdispatched.queued run hrun
  rw [waiting_of_run hrun] at hsome
  have hlive : run.worker.isLive = true := by
    by_contra hended
    obtain ⟨hqueue, hline⟩ := hqueued.emptied (by simpa using hended)
    rw [hqueue, hline] at hsome
    exact hsome rfl
  cases hqueue : run.queue with
  | nil =>
      -- calls are in line only where the queue is full
      have hfull := hqueued.full fun hline => hsome (by rw [hqueue, hline]; rfl)
      rw [hqueue] at hfull
      contradiction
  | cons e rest => exact ⟨e.signal, by simp [nextSignal?, hrun, hlive, hcancelled, hqueue]⟩

/-- A piece of work answers the first signal that waits, or ends the worker and answers all. -/
theorem work_answers (horderly : Orderly t) (hdispatched : Dispatched t log) {e : Envelope}
    {rest : List Envelope} (hwaiting : t.waiting = e :: rest) :
    (∀ id ∈ callers t.waiting, t.work.HasAnswer id) ∨
      (t.work.waiting = rest ∧ ∀ id, e.caller = some id → t.work.HasAnswer id) := by
  have henrolled := horderly.enrolled
  have hsome : t.waiting ≠ [] := by
    rw [hwaiting]
    exact List.cons_ne_nil e rest
  cases hrun : t.run with
  | none => rw [waiting, hrun] at hsome; exact absurd rfl hsome
  | some run =>
      have hsplit := waiting_of_run hrun
      cases hcancelled : run.cancelled with
      | true =>
          cases hworker : run.worker with
          | live roster firstRead =>
              rw [work_of_cancelled hrun hworker hcancelled]
              refine Or.inl fun id hid => ?_
              rw [hsplit] at hid
              exact henrolled.hasAnswer_answer (u := { t with run := some _ }) rfl
                (subset_waiting_of_run hrun) hid
          | ended roster =>
              obtain ⟨hqueue, hline⟩ := (hdispatched.queued run hrun).emptied (by rw [hworker]; rfl)
              exact absurd (by rw [hsplit, hqueue, hline]; rfl) hsome
          | crashed =>
              obtain ⟨hqueue, hline⟩ := (hdispatched.queued run hrun).emptied (by rw [hworker]; rfl)
              exact absurd (by rw [hsplit, hqueue, hline]; rfl) hsome
      | false =>
          obtain ⟨signal, hnext⟩ := nextSignal?_of_waiting hdispatched hrun hsome hcancelled
          have hmove := move_work t
          rw [hnext, Option.map_some] at hmove
          generalize t.application signal = happening at hmove
          generalize t.work = t' at hmove ⊢
          cases hmove with
          | crashed run e' queue roster firstRead hrun hworker hcancelled hqueue =>
              refine Or.inl fun id hid => ?_
              rw [waiting_of_run hrun, waiting_shift hqueue] at hid
              exact henrolled.hasAnswer_answer (u := { t with run := some _ }) rfl
                (subset_waiting_of_shift hrun hqueue) hid
          | stateRead run e' queue roster firstRead hrun hworker hcancelled hqueue =>
              exact Or.inr (henrolled.answered_first hrun hqueue hwaiting _)
          | scanMissed run e' queue roster firstRead updated hrun hworker hcancelled hqueue =>
              exact Or.inr (henrolled.answered_first hrun hqueue hwaiting _)
          | scanTaken run e' queue roster firstRead updated sightings c hrun hworker hcancelled
              hqueue =>
              exact Or.inr (henrolled.answered_first hrun hqueue hwaiting _)

/-- Each piece of work brings a call nearer to its answer, and nothing else takes it away. -/
theorem nearing_step (horderly : Orderly t) (hdispatched : Dispatched t log)
    (hattended : Attended t log) (s : Step) {n : Nat} (h : Nearing t id n) :
    Nearing (t.step s) id (n - [s].countP Step.isWork) := by
  rcases h with hanswer | ⟨before, e, rest, hwaiting, hcaller, hlt⟩
  · exact Or.inl (hasAnswer_move (move_step t s) horderly.enrolled hattended hanswer)
  · have hmem : id ∈ callers t.waiting := by
      rw [hwaiting]
      exact mem_callers.mpr ⟨e, List.mem_append_right _ (List.mem_cons_self ..), hcaller⟩
    cases hwork : s.isWork with
    | false =>
        have hsome : t.waiting ≠ [] := by
          rw [hwaiting]
          exact List.append_ne_nil_of_right_ne_nil _ (List.cons_ne_nil e rest)
        obtain ⟨more, hmore⟩ := waiting_grows (move_step t s) horderly hdispatched hwork hsome
        refine Or.inr ⟨before, e, rest ++ more, ?_, hcaller, ?_⟩
        · rw [hmore, hwaiting, List.append_assoc, List.cons_append]
        · simpa [hwork] using hlt
    | true =>
        obtain rfl : s = .work := by
          cases s with
          | work => rfl
          | _ => contradiction
        have hcount : n - [Step.work].countP Step.isWork = n - 1 := by simp [Step.isWork]
        rw [hcount]
        cases before with
        | nil =>
            rcases work_answers horderly hdispatched hwaiting with hall | ⟨-, hfirst⟩
            · exact Or.inl (hall id hmem)
            · exact Or.inl (hfirst id hcaller)
        | cons first before =>
            rcases work_answers horderly hdispatched hwaiting with hall | ⟨hrest, -⟩
            · exact Or.inl (hall id hmem)
            · refine Or.inr ⟨before, e, rest, hrest, hcaller, ?_⟩
              rw [List.length_cons] at hlt
              omega

/-- A call that goes on to hand in its signal has it handed in, or returns. -/
theorem nearing_advance (horderly : Orderly t) (hattended : Attended (t.step (.advance c.id)) log)
    (hc : c ∈ t.calls) {s : Signal} {applied : List (Signal × SignalOutcome)}
    (hserved : Served s applied c.stage)
    (hlater : ∃ d ∈ (t.step (.advance c.id)).calls, d.id = c.id ∧
      ∃ applied', Served s applied' d.stage) :
    Nearing (t.step (.advance c.id)) c.id (t.step (.advance c.id)).waiting.length := by
  obtain ⟨d, hd, hid, applied', hserved'⟩ := hlater
  have hfind := horderly.enrolled.find?_eq hc
  -- where the call is after the step, it is not in front of the queue any longer
  have hstage : d.stage = .answer ∨ ∃ r, d.stage.result? = some r := by
    have hstep : t.step (.advance c.id) = t.advance c.id := rfl
    cases hbefore : c.stage with
    | intake s' =>
        have hhand : t.advance c.id = t.handIn c.id s' := by simp [advance, hfind, hbefore]
        rw [hstep, hhand] at hd
        unfold handIn at hd
        split at hd
        · split at hd
          · exact Or.inl (stage_of_mem_setStage hd hid)
          · exact Or.inr ⟨_, congrArg Stage.result? (stage_of_mem_setStage hd hid)⟩
        · exact Or.inr ⟨_, congrArg Stage.result? (stage_of_mem_setStage hd hid)⟩
    | answer =>
        have hstill : t.advance c.id = t := by simp [advance, hfind, hbefore]
        rw [hstep, hstill] at hd
        rw [horderly.enrolled.eq_of_id_eq hd hc hid]
        exact Or.inl hbefore
    | answered r =>
        have hreturns : t.advance c.id = t.setStage c.id (.finished r) := by
          simp [advance, hfind, hbefore]
        rw [hstep, hreturns] at hd
        exact Or.inr ⟨r, congrArg Stage.result? (stage_of_mem_setStage hd hid)⟩
    | finished r =>
        have hstill : t.advance c.id = t := by simp [advance, hfind, hbefore]
        rw [hstep, hstill] at hd
        rw [horderly.enrolled.eq_of_id_eq hd hc hid]
        exact Or.inr ⟨r, congrArg Stage.result? hbefore⟩
    | lifecycle => rw [hbefore] at hserved; exact hserved.elim
    | worker => rw [hbefore] at hserved; exact hserved.elim
    | helpers => rw [hbefore] at hserved; exact hserved.elim
  rcases hstage with hanswer | hresult
  · obtain ⟨e, he, hcaller⟩ := mem_callers.mp ((hattended.awaited d hd).mp hanswer)
    obtain ⟨before, rest, hwaiting⟩ := List.append_of_mem he
    refine Or.inr ⟨before, e, rest, hwaiting, hid ▸ hcaller, ?_⟩
    rw [hwaiting, List.length_append, List.length_cons]
    omega
  · exact Or.inl ⟨d, hd, hid, hresult⟩

end

theorem after_append (t : Tracker) (steps later : List Step) :
    t.after (steps ++ later) = (t.after steps).after later := by
  simp [after, List.foldl_append]

theorem nearing_after (config : TrackerConfig) (radio : Radio) (clock : Int64) (steps : List Step)
    {id n : Nat} (h : Nearing ((new config radio clock).after steps) id n) (later : List Step) :
    Nearing (((new config radio clock).after steps).after later) id
      (n - later.countP Step.isWork) := by
  induction later using List.reverseRecOn with
  | nil => exact h
  | append_singleton later s ih =>
      rw [after_concat, List.countP_append, ← Nat.sub_sub]
      rw [← after_append] at ih ⊢
      exact nearing_step (orderly_after config radio clock _) (dispatched_after config radio clock _)
        (attended_after config radio clock _) s ih

theorem returned_after (config : TrackerConfig) (radio : Radio) (clock : Int64) (steps : List Step)
    {id : Nat} (h : ((new config radio clock).after steps).Returned id) (later : List Step) :
    (((new config radio clock).after steps).after later).Returned id := by
  induction later using List.reverseRecOn with
  | nil => exact h
  | append_singleton later s ih =>
      rw [after_concat]
      rw [← after_append] at ih ⊢
      exact returned_move (move_step _ s) (orderly_after config radio clock _).enrolled
        (attended_after config radio clock _) ih

/-- A call with a signal returns once it has gone on, the worker has had as many turns as signals
waited then, and it has gone on again, whatever else there is in between and later. -/
theorem returned_of_turns (config : TrackerConfig) (radio : Radio) (clock : Int64)
    (steps : List Step) {id : Nat} {s : Signal}
    (hasked : .asked id s ∈ (new config radio clock).deliveryLog steps) (turns later : List Step)
    (hturns : (((new config radio clock).after steps).step (.advance id)).waiting.length ≤
      turns.countP Step.isWork) :
    ((((new config radio clock).after steps).step (.advance id)).after
      (turns ++ .advance id :: later)).Returned id := by
  obtain ⟨c, hc, rfl, -, hserved⟩ := (attended_after config radio clock steps).served id s hasked
  have hnext := attended_after config radio clock (steps ++ [.advance c.id])
  have hasked' : .asked c.id s ∈ (new config radio clock).deliveryLog
      (steps ++ [.advance c.id]) := by
    rw [deliveryLog_concat]
    exact List.mem_append_left _ hasked
  obtain ⟨d, hd, hid, -, hserved'⟩ := hnext.served c.id s hasked'
  rw [after_concat] at hnext hd
  have hnear := nearing_advance (orderly_after config radio clock steps) hnext hc hserved
    ⟨d, hd, hid, _, hserved'⟩
  rw [← after_concat] at hnear hturns ⊢
  have hanswer := nearing_after config radio clock _ hnear turns
  rw [Nat.sub_eq_zero_of_le hturns, ← after_append] at hanswer
  have hreturned := hanswer.hasAnswer.returned_advance (orderly_after config radio clock _).enrolled
  rw [← after_concat] at hreturned
  have hthen := returned_after config radio clock _ hreturned later
  rw [after_append, after_append] at hthen
  rwa [List.append_cons, after_append, after_append]

/-- Signals are delivered in order, at most once, and wholly or not at all, however calls, sends and
the tasks are mixed.  What the worker has applied since the last start are the first of the signals
accepted since; while it is live the others are still in the queue, of which there are never more
than it has places for.  From a stop to the next start nothing is applied.  Neither entries nor
radio state change but by a signal that is applied, and that does all that it is for.  A call with a
signal can return once the worker has had as many turns as signals waited, with the outcome of its
own signal, applied once, or to tell that the tracker was stopped, and then its signal was not
applied.
A signal that does not wait is refused only where the queue is full, the tracker is stopped or its
worker has crashed; it is accepted otherwise. -/
theorem signals_delivered_in_order (config : TrackerConfig) (radio : Radio) (clock : Int64)
    (steps : List Step) :
    let t := (new config radio clock).after steps
    let log := (new config radio clock).deliveryLog steps
    appliedIn (sinceOpened log) <+: acceptedIn (sinceOpened log) ∧
    (∀ run, t.run = some run → run.queue.length ≤ queueCapacity ∧ (run.worker.isLive = true →
      acceptedIn (sinceOpened log) = appliedIn (sinceOpened log) ++ run.queue)) ∧
    (∀ s e o, .applied e o ∈ t.deliveries s →
      t.running.isSome = true ∧ Carried t (t.step s) e.signal o) ∧
    (∀ s, (∀ e o, .applied e o ∉ t.deliveries s) →
      (t.step s).feed = t.feed ∧ (t.step s).recorded = t.recorded) ∧
    (∀ id s, .asked id s ∈ log →
      (∃ c ∈ t.calls, c.id = id ∧ c.kind = .signal ∧ Served s (appliedFor id log) c.stage) ∧
      ∀ turns later, (t.step (.advance id)).waiting.length ≤ turns.countP Step.isWork →
        ((t.step (.advance id)).after (turns ++ .advance id :: later)).Returned id) ∧
    (∀ s, t.refusal? = none → t.deliveries (.send s) = [.accepted ⟨s, none⟩]) ∧
    (∀ s e, t.refusal? = some e → t.step (.send s) = t ∧
      ((e = .queueFull queueCapacity ∧
          ∃ run, t.run = some run ∧ run.queue.length = queueCapacity) ∨
        (e = .stopped ∧
          (t.isRunning = false ∨ ∃ run, t.run = some run ∧ run.worker = .crashed)))) := by
  intro t log
  have horderly : Orderly t := orderly_after config radio clock steps
  have hdispatched : Dispatched t log := dispatched_after config radio clock steps
  have hattended : Attended t log := attended_after config radio clock steps
  refine ⟨hdispatched.ordered, fun run hrun => ?_, fun s e o hmem => ?_, fun s hnone => ?_,
    fun id s hasked => ⟨hattended.served id s hasked, fun turns later hturns => ?_⟩, fun s hnone => ?_,
    fun s e hsome => ⟨send_of_refused hsome s, refusal_cases horderly hdispatched hsome⟩⟩
  · exact ⟨(hdispatched.queued run hrun).bounded, (hdispatched.queued run hrun).fifo⟩
  · exact carried_move (move_step t s) hmem
  · exact untouched_move (move_step t s) hnone
  · exact returned_of_turns config radio clock steps hasked turns later hturns
  · simp [deliveries, hnone]

/-- A stop comes while a scan signal is in the queue: its call is told, and the signal is gone, also
after another start. -/
theorem signals_delivered_in_order_until_stop :
    let config : TrackerConfig := ⟨.ofSeconds 15, .ofSeconds 10, false⟩
    let steps : List Step := [.beginStart, .advance 0, .advance 0, .work, .advance 0,
      .beginSignal (.scanResults true), .advance 1, .beginStop, .advance 2, .work, .advance 2,
      .notify, .notify, .notify, .advance 2, .advance 1, .beginStart, .advance 3, .advance 3, .work]
    let t := (new config (.new .enabled) 0).after steps
    let log := (new config (.new .enabled) 0).deliveryLog steps
    .asked 1 (.scanResults true) ∈ log ∧ ⟨1, .signal, .finished (.failed .stopped)⟩ ∈ t.calls ∧
      appliedFor 1 log = [] ∧ (acceptedIn log).length = 3 ∧ (appliedIn log).length = 2 ∧
      t.running.isSome = true := by
  intro config steps t log
  have hasked : .asked 1 (.scanResults true) ∈ log := by decide +kernel
  have hcalls : ∀ c ∈ t.calls, c.id = 1 → c = ⟨1, .signal, .finished (.failed .stopped)⟩ := by
    decide +kernel
  obtain ⟨-, -, -, -, hserved, -⟩ := signals_delivered_in_order config (.new .enabled) 0 steps
  obtain ⟨⟨c, hc, hid, -, hnone⟩, -⟩ := hserved 1 _ hasked
  obtain rfl := hcalls c hc hid
  exact ⟨hasked, hc, hnone.2, by decide +kernel, by decide +kernel, by decide +kernel⟩

end Tracker

end ScanRoster
