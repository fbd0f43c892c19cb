import ScanRoster.Proofs.Tracker.Queue

/-!
# Answers to calls

A call that hands in a signal waits for the answer exactly as long as its envelope is in the queue
or in line, and no two envelopes name the same call.  So the outcome that it returns is that of its
own signal, and where it returns that the tracker was stopped, its signal was never applied.  The
worker gets to every signal that waits, so every call returns.
-/

namespace ScanRoster

open Delivery

/-- The calls that some envelopes name. -/
def callers (es : List Envelope) : List Nat :=
  es.filterMap (·.caller)

/-- Where a call with a signal is, if this is what was applied for it. -/
def Served (s : Signal) (applied : List (Signal × SignalOutcome)) : Stage → Prop
  | .intake s' => s' = s ∧ applied = []
  | .answer => applied = []
  | .answered (.outcome o) | .finished (.outcome o) => applied = [(s, o)]
  | .answered (.failed e) | .finished (.failed e) => e = .stopped ∧ applied = []
  | _ => False

theorem mem_callers {es : List Envelope} {id : Nat} :
    id ∈ callers es ↔ ∃ e ∈ es, e.caller = some id :=
  List.mem_filterMap

theorem callers_append (es fs : List Envelope) : callers (es ++ fs) = callers es ++ callers fs :=
  List.filterMap_append

theorem any_caller_iff {es : List Envelope} {id : Nat} :
    es.any (·.caller == some id) = true ↔ id ∈ callers es := by
  simp [mem_callers]

namespace Tracker

/-- What holds of the calls of a tracker after a log of deliveries. -/
structure Attended (t : Tracker) (log : List Delivery) : Prop where
  distinct : (callers t.waiting).Nodup
  awaited : ∀ c ∈ t.calls, c.stage = .answer ↔ c.id ∈ callers t.waiting
  served : ∀ id s, .asked id s ∈ log →
    ∃ c ∈ t.calls, c.id = id ∧ c.kind = .signal ∧ Served s (appliedFor id log) c.stage
  own : ∀ e ∈ t.waiting, ∀ id, e.caller = some id → ∀ s, .asked id s ∈ log → e.signal = s
  known : ∀ id, appliedFor id log ≠ [] → id < t.nextCall

/-- Deliveries that are not about calls. -/
def Silent (log log' : List Delivery) : Prop :=
  (∀ id s, .asked id s ∈ log' → .asked id s ∈ log) ∧
    ∀ id, appliedFor id log' = appliedFor id log

theorem silent_append (log : List Delivery) {ds : List Delivery}
    (hasked : ∀ id s, .asked id s ∉ ds) (happlied : ∀ id, appliedFor id ds = []) :
    Silent log (log ++ ds) := by
  refine ⟨fun id s hmem => ?_, fun id => ?_⟩
  · exact (List.mem_append.mp hmem).resolve_right (hasked id s)
  · rw [appliedFor_append, happlied, List.append_nil]

theorem silent_opened (log : List Delivery) : Silent log (log ++ [.opened]) :=
  silent_append log (by simp) fun _ => rfl

theorem silent_accepted (log : List Delivery) (e : Envelope) : Silent log (log ++ [.accepted e]) :=
  silent_append log (by simp) fun _ => rfl

theorem Enrolled.id_lt {t : Tracker} (h : Enrolled t) {c : Call} (hc : c ∈ t.calls) :
    c.id < t.nextCall := by
  have hmem : c.id ∈ t.calls.map (·.id) := List.mem_map_of_mem hc
  rwa [h.numbered, List.mem_range] at hmem

/-- Whoever an envelope names has called. -/
theorem Enrolled.caller_lt {t : Tracker} (h : Enrolled t) {id : Nat}
    (hid : id ∈ callers t.waiting) : id < t.nextCall := by
  obtain ⟨e, he, hcaller⟩ := mem_callers.mp hid
  obtain ⟨c, hc, rfl, -⟩ := h.answerable e he id hcaller
  exact h.id_lt hc

namespace Attended

variable {t u : Tracker} {log log' : List Delivery} {c : Call}

/-- Who is to be told about a signal that waits, waits for the answer. -/
theorem stage_of_mem_callers (h : Attended t log) (hc : c ∈ t.calls) {es : List Envelope}
    (hes : es ⊆ t.waiting) (hid : c.id ∈ callers es) : c.stage = .answer := by
  obtain ⟨e, he, hcaller⟩ := mem_callers.mp hid
  exact (h.awaited c hc).mpr (mem_callers.mpr ⟨e, hes he, hcaller⟩)

/-- Envelopes without a caller may come. -/
theorem congr (h : Attended t log) (hlog : Silent log log') (hcalls : u.calls = t.calls)
    (hnext : u.nextCall = t.nextCall) (hcallers : callers u.waiting = callers t.waiting)
    (hwaiting : ∀ e ∈ u.waiting, e ∈ t.waiting ∨ e.caller = none) : Attended u log' where
  distinct := by rw [hcallers]; exact h.distinct
  awaited := by rw [hcalls, hcallers]; exact h.awaited
  served id s hasked := by
    rw [hcalls, hlog.2]
    exact h.served id s (hlog.1 id s hasked)
  own e he id hcaller s hasked := by
    rcases hwaiting e he with hold | hnone
    · exact h.own e hold id hcaller s (hlog.1 id s hasked)
    · rw [hcaller] at hnone
      contradiction
  known id happlied := by
    rw [hlog.2] at happlied
    rw [hnext]
    exact h.known id happlied

theorem same (h : Attended t log) (hcalls : u.calls = t.calls) (hnext : u.nextCall = t.nextCall)
    (hwaiting : u.waiting = t.waiting) : Attended u log :=
  h.congr ⟨fun _ _ => id, fun _ => rfl⟩ hcalls hnext (by rw [hwaiting])
    fun _ he => Or.inl (hwaiting ▸ he)

/-- A call comes. -/
theorem begin (h : Attended t log) (henrolled : Enrolled t) {kind : CallKind} {stage : Stage}
    (hstage : stage ≠ .answer) (hintake : ∀ s, stage = .intake s → kind = .signal) :
    Attended (t.begin kind stage) (log ++ stage.asks t.nextCall) := by
  have hnew : ∀ id s, .asked id s ∈ stage.asks t.nextCall → id = t.nextCall ∧ stage = .intake s := by
    intro id s hmem
    cases stage with
    | intake s' =>
        obtain ⟨rfl, rfl⟩ := Delivery.asked.inj (List.mem_singleton.mp hmem)
        exact ⟨rfl, rfl⟩
    | _ => contradiction
  have happlied : ∀ id, appliedFor id (log ++ stage.asks t.nextCall) = appliedFor id log := by
    intro id
    rw [appliedFor_append]
    cases stage <;> exact List.append_nil _
  refine ⟨h.distinct, fun c hc => ?_, fun id s hasked => ?_, fun e he id hcaller s hasked => ?_,
    fun id hsome => ?_⟩
  · rcases List.mem_append.mp hc with hold | hlast
    · exact h.awaited c hold
    · rw [List.mem_singleton.mp hlast]
      refine iff_of_false hstage fun hmem => ?_
      exact absurd (henrolled.caller_lt hmem) (Nat.lt_irrefl _)
  · rw [happlied]
    rcases List.mem_append.mp hasked with hold | hlast
    · obtain ⟨c, hc, hserved⟩ := h.served id s hold
      exact ⟨c, List.mem_append_left _ hc, hserved⟩
    · obtain ⟨rfl, rfl⟩ := hnew id s hlast
      refine ⟨_, List.mem_append_right _ (List.mem_singleton_self _), rfl, hintake s rfl, rfl, ?_⟩
      -- nothing was applied for a call that is still to come
      by_contra hsome
      exact absurd (h.known _ hsome) (Nat.lt_irrefl _)
  · rcases List.mem_append.mp hasked with hold | hlast
    · exact h.own e he id hcaller s hold
    · have hlt := henrolled.caller_lt (mem_callers.mpr ⟨e, he, hcaller⟩)
      rw [(hnew id s hlast).1] at hlt
      exact absurd hlt (Nat.lt_irrefl _)
  · rw [happlied] at hsome
    exact Nat.lt_succ_of_lt (h.known id hsome)

/-- A call that waits for no answer goes on, and waits for none. -/
theorem setStage (h : Attended t log) (henrolled : Enrolled t) (hc : c ∈ t.calls) {stage : Stage}
    (hbefore : c.stage ≠ .answer) (hafter : stage ≠ .answer)
    (hserved : ∀ s applied, Served s applied c.stage → Served s applied stage) :
    Attended (t.setStage c.id stage) log where
  distinct := h.distinct
  awaited d' hd' := by
    obtain ⟨d, hd, rfl⟩ := List.mem_map.mp hd'
    split
    · rename_i hid
      refine iff_of_false hafter fun hmem => hbefore ?_
      exact (h.awaited c hc).mpr (hid ▸ hmem)
    · exact h.awaited d hd
  served id s hasked := by
    obtain ⟨d, hd, rfl, hkind, hdone⟩ := h.served id s hasked
    refine ⟨_, List.mem_map_of_mem hd, ?_⟩
    split
    · rename_i hid
      obtain rfl := henrolled.eq_of_id_eq hd hc hid
      exact ⟨rfl, hkind, hserved s _ hdone⟩
    · exact ⟨rfl, hkind, hdone⟩
  own := h.own
  known := h.known

/-- A call that has no signal to hand in goes on. -/
theorem pass (h : Attended t log) (henrolled : Enrolled t) (hc : c ∈ t.calls) {stage : Stage}
    (hbefore : ∀ s applied, ¬ Served s applied c.stage) (hafter : stage ≠ .answer) :
    Attended (t.setStage c.id stage) log := by
  refine h.setStage henrolled hc ?_ hafter fun s applied hserved => absurd hserved (hbefore s _)
  intro hstage
  refine hbefore .radioState [] ?_
  rw [hstage]
  rfl

/-- A call hands in its signal, and waits for the answer. -/
theorem enqueue (h : Attended t log) (henrolled : Enrolled t) (hc : c ∈ t.calls) {s : Signal}
    (hstage : c.stage = .intake s) (hlog : Silent log log') (hcalls : u.calls = t.calls)
    (hnext : u.nextCall = t.nextCall) (hwaiting : u.waiting = t.waiting ++ [⟨s, some c.id⟩]) :
    Attended (u.setStage c.id .answer) log' := by
  have hfresh : c.id ∉ callers t.waiting := by
    rw [← h.awaited c hc, hstage]
    exact Stage.noConfusion
  have hcallers : callers u.waiting = callers t.waiting ++ [c.id] := by
    rw [hwaiting, callers_append]
    rfl
  refine ⟨?_, fun d' hd' => ?_, fun id s' hasked => ?_, fun e he id hcaller s' hasked => ?_,
    fun id hsome => ?_⟩
  · change (callers u.waiting).Nodup
    rw [hcallers]
    refine List.nodup_append.mpr ⟨h.distinct, List.nodup_singleton _, fun id hid id' hid' => ?_⟩
    rw [List.mem_singleton.mp hid']
    exact fun heq => hfresh (heq ▸ hid)
  · change d'.stage = .answer ↔ d'.id ∈ callers u.waiting
    obtain ⟨d, hd, rfl⟩ := List.mem_map.mp hd'
    rw [hcalls] at hd
    rw [hcallers, List.mem_append, List.mem_singleton]
    split
    · rename_i hid
      exact iff_of_true rfl (Or.inr hid)
    · rename_i hid
      rw [h.awaited d hd]
      exact (or_iff_left hid).symm
  · obtain ⟨d, hd, rfl, hkind, hserved⟩ := h.served id s' (hlog.1 id s' hasked)
    rw [hlog.2]
    refine ⟨_, List.mem_map_of_mem (hcalls ▸ hd), ?_⟩
    split
    · rename_i hid
      obtain rfl := henrolled.eq_of_id_eq hd hc hid
      rw [hstage] at hserved
      exact ⟨rfl, hkind, hserved.2⟩
    · exact ⟨rfl, hkind, hserved⟩
  · have he' : e ∈ t.waiting ++ [⟨s, some c.id⟩] := hwaiting ▸ he
    have hold := hlog.1 id s' hasked
    rcases List.mem_append.mp he' with hbefore | hlast
    · exact h.own e hbefore id hcaller s' hold
    · obtain rfl := List.mem_singleton.mp hlast
      -- the signal that is handed in is the one that the call has come with
      obtain ⟨d, hd, hid, -, hserved⟩ := h.served id s' hold
      obtain rfl := henrolled.eq_of_id_eq hd hc (hid.trans (Option.some.inj hcaller).symm)
      rw [hstage] at hserved
      exact hserved.1
  · rw [hlog.2] at hsome
    change id < u.nextCall
    rw [hnext]
    exact h.known id hsome

/-- The first of the envelopes that wait are answered. -/
theorem answer (h : Attended t log) (henrolled : Enrolled t) {es rest : List Envelope}
    (hold : t.waiting = es ++ rest) (hnew : u.waiting = rest) (hcalls : u.calls = t.calls)
    (hnext : u.nextCall = t.nextCall) {r : Except TrackerError SignalOutcome}
    (hasked : ∀ id s, .asked id s ∈ log' → .asked id s ∈ log)
    (hothers : ∀ id ∉ callers es, appliedFor id log' = appliedFor id log)
    (hserved : ∀ c ∈ t.calls, c.kind = .signal → c.id ∈ callers es → ∀ s, .asked c.id s ∈ log →
      appliedFor c.id log = [] → Served s (appliedFor c.id log') (c.answered r).stage) :
    Attended (u.answer es r) log' := by
  have hdistinct := h.distinct
  rw [hold, callers_append, List.nodup_append] at hdistinct
  refine ⟨?_, fun d' hd' => ?_, fun id s hmem => ?_, fun e he id hcaller s hmem => ?_,
    fun id hsome => ?_⟩
  · change (callers u.waiting).Nodup
    rw [hnew]
    exact hdistinct.2.1
  · change d'.stage = .answer ↔ d'.id ∈ callers u.waiting
    obtain ⟨d, hd, rfl⟩ := List.mem_map.mp hd'
    rw [hcalls] at hd
    rw [hnew]
    split
    · rename_i hany
      refine iff_of_false Stage.noConfusion fun hmem => ?_
      exact hdistinct.2.2 d.id (any_caller_iff.mp hany) d.id hmem rfl
    · rename_i hany
      rw [any_caller_iff] at hany
      rw [h.awaited d hd, hold, callers_append, List.mem_append]
      exact or_iff_right hany
  · obtain ⟨d, hd, rfl, hkind, hdone⟩ := h.served id s (hasked id s hmem)
    refine ⟨_, List.mem_map_of_mem (hcalls ▸ hd), ?_⟩
    split
    · rename_i hany
      rw [any_caller_iff] at hany
      -- it was waiting for the answer, so nothing was applied for it before
      have hstage : d.stage = .answer := by
        rw [h.awaited d hd, hold, callers_append, List.mem_append]
        exact Or.inl hany
      rw [hstage] at hdone
      exact ⟨rfl, hkind, hserved d hd hkind hany s (hasked d.id s hmem) hdone⟩
    · rename_i hany
      rw [any_caller_iff] at hany
      rw [hothers d.id hany]
      exact ⟨rfl, hkind, hdone⟩
  · have he' : e ∈ t.waiting := by
      rw [hold]
      exact List.mem_append_right _ (hnew ▸ he)
    exact h.own e he' id hcaller s (hasked id s hmem)
  · change id < u.nextCall
    rw [hnext]
    by_cases hid : id ∈ callers es
    · refine henrolled.caller_lt ?_
      rw [hold, callers_append]
      exact List.mem_append_left _ hid
    · rw [hothers id hid] at hsome
      exact h.known id hsome

/-- The worker applies the first signal, and its call is answered with the outcome. -/
theorem apply (h : Attended t log) (henrolled : Enrolled t) {run : Run} (hrun : t.run = some run)
    {e : Envelope} {rest : List Envelope} (hqueue : run.queue = e :: rest) {worker : Worker}
    {notices : List Notice} {feed : Feed} {recorded : RadioState} {recordings : Nat}
    (o : SignalOutcome) (es : List Envelope) :
    Attended ({ t with
      feed, recorded, recordings
      run := some { Run.shift run rest with worker, notices } }.answer [e] (.ok o))
      (log ++ .applied e o :: es.map .accepted) := by
  have hold : t.waiting = [e] ++ ((Run.shift run rest).queue ++ (Run.shift run rest).line) := by
    rw [waiting_of_run hrun, waiting_shift hqueue]
    rfl
  have happlied : ∀ id, appliedFor id (log ++ .applied e o :: es.map .accepted) =
      appliedFor id log ++ if e.caller = some id then [(e.signal, o)] else [] := by
    intro id
    rw [appliedFor_append, appliedFor_applied]
  refine h.answer
    (u := { t with
      feed, recorded, recordings
      run := some { Run.shift run rest with worker, notices } })
    henrolled hold rfl rfl rfl ?_ ?_ ?_
  · intro id s hmem
    simpa using hmem
  · intro id hid
    have hother : e.caller ≠ some id := fun hcaller =>
      hid (mem_callers.mpr ⟨e, List.mem_singleton_self _, hcaller⟩)
    rw [happlied, if_neg hother, List.append_nil]
  · intro c hc hkind hcaller s hasked hnone
    obtain ⟨e', he', hnamed⟩ := mem_callers.mp hcaller
    obtain rfl := List.mem_singleton.mp he'
    have hsignal := h.own e' (hold ▸ List.mem_append_left _ he') c.id hnamed s hasked
    have hstage : (c.answered (.ok o)).stage = .answered (.outcome o) := by
      simp [Call.answered, hkind]
    rw [happlied, if_pos hnamed, hnone, hsignal, hstage]
    rfl

/-- The worker ends, and all calls that wait are told so. -/
theorem endWorker (h : Attended t log) (henrolled : Enrolled t) (run : Run) (worker : Worker)
    {dropped : List Envelope} (hdropped : t.waiting = dropped ++ run.queue ++ run.line) :
    Attended (t.endWorker run worker dropped) log := by
  refine h.answer (u := { t with run := some { run with worker, queue := [], line := [] } })
    henrolled (hdropped.trans (List.append_nil _).symm) rfl rfl rfl (fun _ _ => id)
    (fun _ _ => rfl) ?_
  intro c hc hkind hcaller s hasked hnone
  exact ⟨rfl, hnone⟩

end Attended

theorem attended_move {t t' : Tracker} {s : Step} {happening : Option Happening}
    {log : List Delivery} (hmove : Move t s happening t') (horderly : Orderly t)
    (hdispatched : Dispatched t log) (h : Attended t log) :
    Attended t' (log ++ t.deliveries s) := by
  have henrolled := horderly.enrolled
  cases hmove with
  | still _ hdelivered =>
      rw [hdelivered, List.append_nil]
      exact h
  | begun _ kind stage hstage hstop hintake hdelivered =>
      rw [hdelivered]
      exact h.begin henrolled hstage.2.2.1 hintake
  | left c r hc hstage hidle hrefused hdelivered =>
      rw [hdelivered, List.append_nil]
      rcases hstage with hstage | ⟨s, hstage⟩
      · refine h.pass henrolled hc ?_ Stage.noConfusion
        rw [hstage]
        exact fun _ _ => id
      · refine h.setStage henrolled hc ?_ Stage.noConfusion fun s applied hserved => ?_
        · rw [hstage]
          exact Stage.noConfusion
        · rw [hstage] at hserved
          rw [hrefused _ hstage]
          exact ⟨rfl, hserved.2⟩
  | spawned c hc hkind hstage hfree hrunning hdelivered =>
      rw [hdelivered]
      have hnone := (horderly.phase.of_not_running (lifecycleHeld_eq_false_iff.mp hfree) hrunning).1
      have hwaiting : t.spawn.waiting = t.waiting := by
        rw [waiting_of_run rfl, waiting, hnone]
        rfl
      have hspawn : Attended t.spawn (log ++ [.opened]) :=
        h.congr (silent_opened log) rfl rfl (by rw [hwaiting]) fun _ he => Or.inl (hwaiting ▸ he)
      refine hspawn.pass (henrolled.congr rfl rfl (List.nil_subset _)) hc ?_ Stage.noConfusion
      rw [hstage]
      exact fun _ _ => id
  | cancelled c run hc hkind hstage hfree hrun hlive hdelivered =>
      rw [hdelivered, List.append_nil]
      have hwaiting := waiting_of_run hrun
      have hcancel : Attended { t with
          intake := false, run := some { run with cancelled := true } } log :=
        h.same rfl rfl hwaiting.symm
      refine hcancel.pass (henrolled.congr rfl rfl ?_) hc ?_ Stage.noConfusion
      · rw [hwaiting]
        exact List.Subset.refl _
      · rw [hstage]
        exact fun _ _ => id
  | parked c run hc hstage hrun hended hdelivered =>
      rw [hdelivered, List.append_nil]
      have hpark : Attended { t with
          parked := some (run.worker.roster?.getD (.empty t.config.policy)) } log :=
        h.same rfl rfl rfl
      refine hpark.pass (henrolled.congr rfl rfl (List.Subset.refl _)) hc ?_ Stage.noConfusion
      rw [hstage]
      exact fun _ _ => id
  | stopped c run hc hstage hrun hnotifier htrigger hdelivered =>
      rw [hdelivered, List.append_nil]
      have hmem : Stage.helpers ∈ t.held := hstage ▸ stage_mem_held hc (by rw [hstage]; rfl)
      have hended := (horderly.phase.of_helpers hmem hrun).2.1
      obtain ⟨hqueue, hline⟩ := (hdispatched.queued run hrun).emptied hended
      have hwaiting : t.waiting = [] := by
        rw [waiting_of_run hrun, hqueue, hline]
        rfl
      have hgone : Attended { t with run := none } log := h.same rfl rfl hwaiting.symm
      refine hgone.pass (henrolled.congr rfl rfl (List.nil_subset _)) hc ?_ Stage.noConfusion
      rw [hstage]
      exact fun _ _ => id
  | queued c run s hc hstage hintake hrun hlive hroom hdelivered =>
      rw [hdelivered]
      exact h.enqueue henrolled hc hstage (silent_accepted log _) rfl rfl
        (waiting_push hrun hroom.2 rfl)
  | lined c run s hc hstage hintake hrun hlive hroom hdelivered =>
      rw [hdelivered, List.append_nil]
      exact h.enqueue henrolled hc hstage ⟨fun _ _ => id, fun _ => rfl⟩ rfl rfl
        (waiting_wait hrun rfl)
  | returned c r hc hstage hdelivered =>
      rw [hdelivered, List.append_nil]
      refine h.setStage henrolled hc ?_ Stage.noConfusion fun s applied hserved => ?_
      · rw [hstage]
        exact Stage.noConfusion
      · rw [hstage] at hserved
        cases r <;> exact hserved
  | sent s run hintake hrun hlive hroom hdelivered =>
      rw [hdelivered]
      have hline := (hdispatched.queued run hrun).line_eq_nil hroom
      have hwaiting := waiting_push (u := { t with run := some _ }) (e := ⟨s, none⟩) hrun hline rfl
      refine h.congr (silent_accepted log _) rfl rfl ?_ fun e he => ?_
      · rw [hwaiting, callers_append]
        exact List.append_nil _
      · rw [hwaiting] at he
        rcases List.mem_append.mp he with hold | hlast
        · exact Or.inl hold
        · rw [List.mem_singleton.mp hlast]
          exact Or.inr rfl
  | ended run roster firstRead hrun hworker hcancelled hdelivered =>
      rw [hdelivered, List.append_nil]
      exact h.endWorker henrolled run _ (waiting_of_run hrun)
  | crashed run e rest roster firstRead hrun hworker hcancelled hqueue hdelivered =>
      rw [hdelivered, List.append_nil]
      refine h.endWorker henrolled _ _ ?_
      rw [waiting_of_run hrun, waiting_shift hqueue]
      rfl
  | stateRead run e rest roster firstRead hrun hworker hcancelled hqueue hsignal hdelivered =>
      rw [hdelivered]
      exact h.apply henrolled hrun hqueue _ _
  | scanMissed run e rest roster firstRead updated hrun hworker hcancelled hqueue hsignal
      hdelivered =>
      rw [hdelivered]
      exact h.apply henrolled hrun hqueue _ _
  | scanTaken run e rest roster firstRead updated sightings c hrun hworker hcancelled hqueue
      hsignal hreply hcycle hdelivered =>
      rw [hdelivered]
      exact h.apply henrolled hrun hqueue _ _
  | callbackCrashed run n rest hrun =>
      rw [deliveries_notify, List.append_nil]
      exact h.same rfl rfl (waiting_of_run hrun).symm
  | called run n rest hrun =>
      rw [deliveries_notify, List.append_nil]
      exact h.same rfl rfl (waiting_of_run hrun).symm
  | broadcast run n hrun =>
      rw [deliveries_notify, List.append_nil]
      exact h.same rfl rfl (waiting_of_run hrun).symm
  | notifierEnded run hrun =>
      rw [deliveries_notify, List.append_nil]
      exact h.same rfl rfl (waiting_of_run hrun).symm
  | world s radio clock elapsed trigger hdelivered =>
      rw [hdelivered, List.append_nil]
      refine h.same rfl rfl ?_
      cases hrun : t.run with
      | none => simp [waiting, hrun]
      | some run => simp [waiting, hrun]
  | callbacksSet crashing =>
      rw [deliveries_setCallbacks, List.append_nil]
      exact h.same rfl rfl rfl

/-- After any steps the calls of a tracker are as its deliveries tell. -/
theorem attended_after (config : TrackerConfig) (radio : Radio) (clock : Int64)
    (steps : List Step) : Attended ((new config radio clock).after steps)
      ((new config radio clock).deliveryLog steps) := by
  induction steps using List.reverseRecOn with
  | nil =>
      refine ⟨List.nodup_nil, fun c hc => ?_, fun id s hasked => ?_, fun e he => ?_,
        fun id hsome => absurd rfl hsome⟩
      · exact absurd hc List.not_mem_nil
      · exact absurd hasked List.not_mem_nil
      · exact absurd he List.not_mem_nil
  | append_singleton steps s ih =>
      rw [after_concat, deliveryLog_concat]
      exact attended_move (move_step _ s) (orderly_after config radio clock steps)
        (dispatched_after config radio clock steps) ih

end Tracker

end ScanRoster
