import Mathlib.Data.List.Induction
import Mathlib.Data.List.Nodup
import ScanRoster.Proofs.Tracker.Move

/-!
# The lifecycle of a tracker

At any moment a tracker is stopped, running, or being stopped by the one call that holds the
lifecycle, first until the worker has ended and then until its helpers have.  The roster is parked
before a run and again from the moment the stop has seen the worker end.  Calls are numbered in the
order in which they come, and only calls that are not stops wait for an answer of the worker, so
that the worker never moves a stop on.
-/

namespace ScanRoster

namespace Stage

/-- Whether a call at this stage keeps others from the lifecycle. -/
def holds : Stage → Bool
  | .worker | .helpers => true
  | _ => false

/-- What a call at this stage has been told, if it has been told anything. -/
def result? : Stage → Option CallResult
  | .answered r | .finished r => some r
  | _ => none

/-- Whether a call of some kind can be at this stage. -/
def Fits : Stage → CallKind → Prop
  | .worker, kind | .helpers, kind => kind = .stop
  | .intake _, kind | .answer, kind | .answered _, kind => kind ≠ .stop
  | .lifecycle, _ | .finished _, _ => True

end Stage

theorem Call.holdsLifecycle_eq (c : Call) : c.holdsLifecycle = c.stage.holds := by
  unfold holdsLifecycle Stage.holds
  cases c.stage <;> rfl

namespace Tracker

/-! ## The calls -/

/-- The signals that are in the queue or in line for it. -/
def waiting (t : Tracker) : List Envelope :=
  match t.run with
  | none => []
  | some run => run.queue ++ run.line

/-- The stages of the calls that hold the lifecycle. -/
def held (t : Tracker) : List Stage :=
  (t.calls.map (·.stage)).filter Stage.holds

/-- What holds of the calls and of the envelopes that name them. -/
structure Enrolled (t : Tracker) : Prop where
  numbered : t.calls.map (·.id) = List.range t.nextCall
  fits : ∀ c ∈ t.calls, c.stage.Fits c.kind
  answerable : ∀ e ∈ t.waiting, ∀ id ∈ e.caller, ∃ c ∈ t.calls, c.id = id ∧ c.kind ≠ .stop

theorem lifecycleHeld_eq_false_iff {t : Tracker} : t.lifecycleHeld = false ↔ t.held = [] := by
  simp [lifecycleHeld, held, List.filter_eq_nil_iff, Call.holdsLifecycle_eq]

theorem stage_mem_held {t : Tracker} {c : Call} (hc : c ∈ t.calls) (hholds : c.stage.holds = true) :
    c.stage ∈ t.held :=
  List.mem_filter.mpr ⟨List.mem_map_of_mem hc, hholds⟩

namespace Enrolled

variable {t : Tracker} {c : Call}

theorem nodup (h : Enrolled t) : (t.calls.map (·.id)).Nodup := by
  rw [h.numbered]
  exact List.nodup_range

theorem eq_of_id_eq (h : Enrolled t) {d : Call} (hc : c ∈ t.calls) (hd : d ∈ t.calls)
    (hid : c.id = d.id) : c = d :=
  List.inj_on_of_nodup_map h.nodup hc hd hid

/-- Envelopes may go, and come where no stop waits for their answer. -/
theorem extend {t' : Tracker} (h : Enrolled t) (hcalls : t'.calls = t.calls)
    (hnext : t'.nextCall = t.nextCall)
    (hwaiting : ∀ e ∈ t'.waiting, e ∈ t.waiting ∨
      ∀ id ∈ e.caller, ∃ c ∈ t.calls, c.id = id ∧ c.kind ≠ .stop) : Enrolled t' where
  numbered := by rw [hcalls, hnext, h.numbered]
  fits := by rw [hcalls]; exact h.fits
  answerable := by
    rw [hcalls]
    intro e he
    rcases hwaiting e he with hold | hnew
    · exact h.answerable e hold
    · exact hnew

theorem congr {t' : Tracker} (h : Enrolled t) (hcalls : t'.calls = t.calls)
    (hnext : t'.nextCall = t.nextCall) (hwaiting : t'.waiting ⊆ t.waiting) : Enrolled t' :=
  h.extend hcalls hnext fun _ he => Or.inl (hwaiting he)

theorem begin (h : Enrolled t) {kind : CallKind} {stage : Stage} (hfits : stage.Fits kind) :
    Enrolled (t.begin kind stage) where
  numbered := by
    simp only [Tracker.begin, List.map_append, h.numbered, List.map_cons, List.map_nil]
    exact List.range_succ.symm
  fits := by
    intro c hc
    rcases List.mem_append.mp hc with hold | hnew
    · exact h.fits c hold
    · rw [List.mem_singleton.mp hnew]
      exact hfits
  answerable := by
    intro e he id hid
    obtain ⟨c, hc, hcall⟩ := h.answerable e he id hid
    exact ⟨c, List.mem_append_left _ hc, hcall⟩

/-- Calls may change their stages, but neither their numbers nor their kinds. -/
theorem mapCalls (h : Enrolled t) {f : Call → Call} (hid : ∀ c, (f c).id = c.id)
    (hkind : ∀ c, (f c).kind = c.kind) (hfits : ∀ c ∈ t.calls, (f c).stage.Fits c.kind) :
    Enrolled (t.mapCalls f) where
  numbered := by
    simp only [Tracker.mapCalls, List.map_map, Function.comp_def, hid]
    exact h.numbered
  fits := by
    intro c hc
    obtain ⟨d, hd, rfl⟩ := List.mem_map.mp hc
    rw [hkind]
    exact hfits d hd
  answerable := by
    intro e he id hcaller
    obtain ⟨c, hc, heq, hstop⟩ := h.answerable e he id hcaller
    exact ⟨f c, List.mem_map_of_mem hc, (hid c).trans heq, by rwa [hkind]⟩

theorem setStage (h : Enrolled t) (hc : c ∈ t.calls) {stage : Stage} (hfits : stage.Fits c.kind) :
    Enrolled (t.setStage c.id stage) := by
  refine h.mapCalls ?_ ?_ ?_
  · intro d
    split <;> rfl
  · intro d
    split <;> rfl
  · intro d hd
    split
    · rename_i heq
      rw [h.eq_of_id_eq hd hc heq]
      exact hfits
    · exact h.fits d hd

/-- No stop is among the calls that some envelopes name. -/
theorem kind_of_asked (h : Enrolled t) {envelopes : List Envelope}
    (hcallers : ∀ e ∈ envelopes, ∀ id ∈ e.caller, ∃ c ∈ t.calls, c.id = id ∧ c.kind ≠ .stop)
    (hc : c ∈ t.calls) (hasked : envelopes.any (·.caller == some c.id) = true) : c.kind ≠ .stop := by
  obtain ⟨e, he, hcaller⟩ := List.any_eq_true.mp hasked
  obtain ⟨d, hd, hid, hkind⟩ := hcallers e he c.id (by simpa using hcaller)
  rwa [h.eq_of_id_eq hd hc hid] at hkind

theorem answer (h : Enrolled t) {envelopes : List Envelope}
    (hcallers : ∀ e ∈ envelopes, ∀ id ∈ e.caller, ∃ c ∈ t.calls, c.id = id ∧ c.kind ≠ .stop)
    (r : Except TrackerError SignalOutcome) : Enrolled (t.answer envelopes r) := by
  refine h.mapCalls ?_ ?_ ?_
  · intro d
    split <;> rfl
  · intro d
    split <;> rfl
  · intro d hd
    split
    · rename_i hasked
      exact h.kind_of_asked hcallers hd hasked
    · exact h.fits d hd

/-! ### Who holds the lifecycle -/

theorem held_begin {kind : CallKind} {stage : Stage} (hfree : stage.holds = false) :
    (t.begin kind stage).held = t.held := by
  simp [held, Tracker.begin, List.filter_append, hfree]

/-- Where one call changes its stage, all others stay as they are, and in their places. -/
theorem calls_setStage (h : Enrolled t) (hc : c ∈ t.calls) (stage : Stage) :
    ∃ before rest, t.calls = before ++ c :: rest ∧
      (t.setStage c.id stage).calls = before ++ { c with stage } :: rest := by
  obtain ⟨before, rest, hcalls⟩ := List.append_of_mem hc
  have hnodup := h.nodup
  rw [hcalls, List.map_append, List.map_cons, List.nodup_middle, List.nodup_cons] at hnodup
  -- numbers are given out once, so no other call has the number of this one
  have hothers : ∀ d ∈ before ++ rest, d.id ≠ c.id := by
    intro d hd heq
    rw [← List.map_append] at hnodup
    exact hnodup.1 (heq ▸ List.mem_map_of_mem hd)
  have hkept : ∀ l ⊆ before ++ rest,
      l.map (fun d => if d.id = c.id then { d with stage } else d) = l := by
    intro l hl
    have hsame : ∀ d ∈ l, (if d.id = c.id then { d with stage } else d) = d :=
      fun d hd => if_neg (hothers d (hl hd))
    exact (List.map_congr_left hsame).trans (List.map_id' l)
  refine ⟨before, rest, hcalls, ?_⟩
  simp only [Tracker.setStage, Tracker.mapCalls, hcalls, List.map_append, List.map_cons, if_true,
    hkept before (List.subset_append_left _ _), hkept rest (List.subset_append_right _ _)]

/-- Where one call changes its stage, only its own entry among the holders does. -/
theorem held_setStage (h : Enrolled t) (hc : c ∈ t.calls) (stage : Stage) :
    ∃ before rest, t.held = before ++ [c.stage].filter Stage.holds ++ rest ∧
      (t.setStage c.id stage).held = before ++ [stage].filter Stage.holds ++ rest := by
  obtain ⟨before, rest, hcalls, hafter⟩ := h.calls_setStage hc stage
  have hsplit : ∀ d : Call, ((before ++ d :: rest).map (·.stage)).filter Stage.holds =
      (before.map (·.stage)).filter Stage.holds ++ [d.stage].filter Stage.holds ++
        (rest.map (·.stage)).filter Stage.holds := by
    intro d
    rw [← List.filter_append, ← List.filter_append]
    simp
  refine ⟨(before.map (·.stage)).filter Stage.holds, (rest.map (·.stage)).filter Stage.holds,
    ?_, ?_⟩
  · rw [held, hcalls]
    exact hsplit c
  · rw [held, hafter]
    exact hsplit { c with stage }

/-- A call takes the lifecycle. -/
theorem held_setStage_of_nil (h : Enrolled t) (hc : c ∈ t.calls) {stage : Stage}
    (hfree : t.held = []) : (t.setStage c.id stage).held = [stage].filter Stage.holds := by
  obtain ⟨before, rest, hheld, hheld'⟩ := h.held_setStage hc stage
  rw [hfree] at hheld
  obtain ⟨hbefore, hrest⟩ := List.append_eq_nil_iff.mp hheld.symm
  rw [hheld', hrest, (List.append_eq_nil_iff.mp hbefore).1]
  simp

/-- The only call that holds the lifecycle goes on. -/
theorem held_setStage_of_singleton (h : Enrolled t) (hc : c ∈ t.calls) {stage : Stage}
    (hholds : c.stage.holds = true) (honly : t.held = [c.stage]) :
    (t.setStage c.id stage).held = [stage].filter Stage.holds := by
  obtain ⟨before, rest, hheld, hheld'⟩ := h.held_setStage hc stage
  rw [honly, List.filter_cons_of_pos hholds] at hheld
  have hlength := congrArg List.length hheld
  simp only [List.length_append, List.length_cons, List.length_nil, List.filter_nil] at hlength
  have hbefore : before = [] := List.eq_nil_of_length_eq_zero (by omega)
  have hrest : rest = [] := List.eq_nil_of_length_eq_zero (by omega)
  rw [hheld', hbefore, hrest]
  simp

/-- Calls that hold nothing before and after do not show among the holders. -/
theorem held_mapCalls {f : Call → Call} (hf : ∀ c ∈ t.calls, (f c).stage = c.stage ∨
    (c.stage.holds = false ∧ (f c).stage.holds = false)) : (t.mapCalls f).held = t.held := by
  unfold held Tracker.mapCalls
  dsimp only
  generalize t.calls = calls at hf
  induction calls with
  | nil => rfl
  | cons c calls ih =>
      have htail := ih fun d hd => hf d (List.mem_cons_of_mem _ hd)
      simp only [List.map_cons]
      rcases hf c (List.mem_cons_self ..) with hsame | ⟨hbefore, hafter⟩
      · rw [hsame, List.filter_cons, List.filter_cons, htail]
      · rw [List.filter_cons_of_neg (by simp [hafter]), List.filter_cons_of_neg (by simp [hbefore]),
          htail]

theorem held_setStage_of_free (h : Enrolled t) (hc : c ∈ t.calls) {stage : Stage}
    (hbefore : c.stage.holds = false) (hafter : stage.holds = false) :
    (t.setStage c.id stage).held = t.held := by
  refine held_mapCalls fun d hd => ?_
  split
  · rename_i heq
    rw [h.eq_of_id_eq hd hc heq]
    exact Or.inr ⟨hbefore, hafter⟩
  · exact Or.inl rfl

theorem kind_of_holds (h : Enrolled t) (hc : c ∈ t.calls) (hholds : c.stage.holds = true) :
    c.kind = .stop := by
  have hfits := h.fits c hc
  cases hstage : c.stage with
  | worker => rwa [hstage] at hfits
  | helpers => rwa [hstage] at hfits
  | lifecycle => simp [hstage, Stage.holds] at hholds
  | intake s => simp [hstage, Stage.holds] at hholds
  | answer => simp [hstage, Stage.holds] at hholds
  | answered r => simp [hstage, Stage.holds] at hholds
  | finished r => simp [hstage, Stage.holds] at hholds

/-- An answer reaches no stop, and so leaves the holders where they are. -/
theorem held_answer (h : Enrolled t) {envelopes : List Envelope}
    (hcallers : ∀ e ∈ envelopes, ∀ id ∈ e.caller, ∃ c ∈ t.calls, c.id = id ∧ c.kind ≠ .stop)
    (r : Except TrackerError SignalOutcome) : (t.answer envelopes r).held = t.held := by
  refine held_mapCalls fun c hc => ?_
  split
  · rename_i hasked
    refine Or.inr ⟨?_, rfl⟩
    rw [← Bool.not_eq_true]
    exact fun hholds => h.kind_of_asked hcallers hc hasked (h.kind_of_holds hc hholds)
  · exact Or.inl rfl

end Enrolled

/-! ## The phases -/

/-- What a phase reads of a run: whether it is cancelled, and whether its worker is live. -/
def Run.outline (run : Run) : Bool × Bool :=
  (run.cancelled, run.worker.isLive)

/-- Where a tracker is in its lifecycle. -/
inductive Phase (t : Tracker) : Prop
  /-- There is no run, and the roster is parked. -/
  | stopped (hheld : t.held = []) (hrun : t.run.map Run.outline = none)
      (hparked : t.parked.isSome = true) (hintake : t.intake = false)
  /-- No stop has come to the run. -/
  | running (live : Bool) (hheld : t.held = []) (hrun : t.run.map Run.outline = some (false, live))
      (hparked : t.parked.isSome = false) (hintake : t.intake = true)
  /-- A stop waits for the worker. -/
  | stopping (live : Bool) (hheld : t.held = [.worker])
      (hrun : t.run.map Run.outline = some (true, live))
      (hparked : t.parked.isSome = false) (hintake : t.intake = false)
  /-- A stop has parked the roster and waits for the helpers. -/
  | closing (hheld : t.held = [.helpers]) (hrun : t.run.map Run.outline = some (true, false))
      (hparked : t.parked.isSome = true) (hintake : t.intake = false)

namespace Phase

variable {t : Tracker}

theorem congr {t' : Tracker} (h : Phase t) (hheld : t'.held = t.held)
    (hrun : t'.run.map Run.outline = t.run.map Run.outline)
    (hparked : t'.parked.isSome = t.parked.isSome) (hintake : t'.intake = t.intake) : Phase t' := by
  cases h with
  | stopped h hr hp hi =>
      exact .stopped (hheld.trans h) (hrun.trans hr) (hparked.trans hp) (hintake.trans hi)
  | running live h hr hp hi =>
      exact .running live (hheld.trans h) (hrun.trans hr) (hparked.trans hp) (hintake.trans hi)
  | stopping live h hr hp hi =>
      exact .stopping live (hheld.trans h) (hrun.trans hr) (hparked.trans hp) (hintake.trans hi)
  | closing h hr hp hi =>
      exact .closing (hheld.trans h) (hrun.trans hr) (hparked.trans hp) (hintake.trans hi)

/-- Where no call holds the lifecycle, a tracker without a run of its own has none left over. -/
theorem of_not_running (h : Phase t) (hfree : t.held = []) (hrunning : t.running = none) :
    t.run = none ∧ t.parked.isSome = true := by
  cases h with
  | stopped _ hrun hparked _ => exact ⟨Option.map_eq_none_iff.mp hrun, hparked⟩
  | running live _ hrun _ _ =>
      obtain ⟨run, hsome, heq⟩ := Option.map_eq_some_iff.mp hrun
      have hcancelled := running_eq_none_iff.mp hrunning run hsome
      simp [Run.outline, hcancelled] at heq
  | stopping live hheld _ _ _ => rw [hfree] at hheld; contradiction
  | closing hheld _ _ _ => rw [hfree] at hheld; contradiction

/-- A run that is not cancelled has the roster, and nobody holds the lifecycle. -/
theorem of_not_cancelled (h : Phase t) {run : Run} (hrun : t.run = some run)
    (hcancelled : run.cancelled = false) :
    t.held = [] ∧ t.parked.isSome = false ∧ t.intake = true := by
  have houtline : t.run.map Run.outline = some (false, run.worker.isLive) := by
    rw [hrun, Option.map_some, Run.outline, hcancelled]
  cases h with
  | stopped _ hr _ _ => rw [houtline] at hr; contradiction
  | running live hheld _ hparked hintake => exact ⟨hheld, hparked, hintake⟩
  | stopping live _ hr _ _ => rw [houtline] at hr; simp at hr
  | closing _ hr _ _ => rw [houtline] at hr; simp at hr

/-- While a stop waits for the worker, it is the only one to hold the lifecycle. -/
theorem of_worker (h : Phase t) (hmem : Stage.worker ∈ t.held) {run : Run}
    (hrun : t.run = some run) :
    t.held = [.worker] ∧ run.cancelled = true ∧ t.parked.isSome = false ∧ t.intake = false := by
  cases h with
  | stopped hheld _ _ _ => rw [hheld] at hmem; contradiction
  | running live hheld _ _ _ => rw [hheld] at hmem; contradiction
  | stopping live hheld hr hparked hintake =>
      rw [hrun] at hr
      exact ⟨hheld, congrArg Prod.fst (Option.some.inj hr), hparked, hintake⟩
  | closing hheld _ _ _ => rw [hheld] at hmem; simp at hmem

/-- While a stop waits for the helpers, the worker has ended and the roster is parked. -/
theorem of_helpers (h : Phase t) (hmem : Stage.helpers ∈ t.held) {run : Run}
    (hrun : t.run = some run) :
    t.held = [.helpers] ∧ run.worker.isLive = false ∧ t.parked.isSome = true ∧
      t.intake = false := by
  cases h with
  | stopped hheld _ _ _ => rw [hheld] at hmem; contradiction
  | running live hheld _ _ _ => rw [hheld] at hmem; contradiction
  | stopping live hheld _ _ _ => rw [hheld] at hmem; simp at hmem
  | closing hheld hr hparked hintake =>
      rw [hrun] at hr
      exact ⟨hheld, congrArg Prod.snd (Option.some.inj hr), hparked, hintake⟩

/-- While the worker is live, no stop has parked the roster. -/
theorem of_live (h : Phase t) {run : Run} (hrun : t.run = some run)
    (hlive : run.worker.isLive = true) : t.parked = none := by
  cases h with
  | stopped _ hr _ _ => rw [hrun] at hr; contradiction
  | running live _ _ hparked _ => simpa using hparked
  | stopping live _ _ hparked _ => simpa using hparked
  | closing _ hr _ _ =>
      rw [hrun] at hr
      have hended : run.worker.isLive = false := congrArg Prod.snd (Option.some.inj hr)
      rw [hlive] at hended
      contradiction

end Phase

/-! ## Every reachable state is orderly -/

/-- What holds of a tracker between any two steps. -/
structure Orderly (t : Tracker) : Prop where
  enrolled : Enrolled t
  phase : Phase t

theorem waiting_of_run {t : Tracker} {run : Run} (hrun : t.run = some run) :
    t.waiting = run.queue ++ run.line := by
  simp [waiting, hrun]

/-- What waits after the first signal has left the queue was waiting before. -/
theorem waiting_shift {run : Run} {e : Envelope} {rest : List Envelope}
    (hqueue : run.queue = e :: rest) :
    run.queue ++ run.line = e :: ((Run.shift run rest).queue ++ (Run.shift run rest).line) := by
  simp only [Run.shift, hqueue, List.cons_append, List.append_assoc, List.take_append_drop]

namespace Orderly

variable {t : Tracker} {run : Run} {c : Call}

theorem new (config : TrackerConfig) (radio : Radio) (clock : Int64) :
    Orderly (new config radio clock) where
  enrolled :=
    { numbered := rfl
      fits := fun c hc => by cases hc
      answerable := fun e he => by cases he }
  phase := .stopped rfl rfl rfl rfl

/-- A step that leaves the calls alone and moves no phase. -/
theorem extend {u : Tracker} (h : Orderly t) (hcalls : u.calls = t.calls)
    (hnext : u.nextCall = t.nextCall)
    (hwaiting : ∀ e ∈ u.waiting, e ∈ t.waiting ∨
      ∀ id ∈ e.caller, ∃ c ∈ t.calls, c.id = id ∧ c.kind ≠ .stop)
    (hrun : u.run.map Run.outline = t.run.map Run.outline) (hparked : u.parked = t.parked)
    (hintake : u.intake = t.intake) : Orderly u where
  enrolled := h.enrolled.extend hcalls hnext hwaiting
  phase := h.phase.congr (by rw [held, held, hcalls]) hrun (by rw [hparked]) hintake

theorem congr {u : Tracker} (h : Orderly t) (hcalls : u.calls = t.calls)
    (hnext : u.nextCall = t.nextCall) (hwaiting : u.waiting = t.waiting)
    (hrun : u.run.map Run.outline = t.run.map Run.outline) (hparked : u.parked = t.parked)
    (hintake : u.intake = t.intake) : Orderly u :=
  h.extend hcalls hnext (fun _ he => Or.inl (hwaiting ▸ he)) hrun hparked hintake

theorem begin (h : Orderly t) {kind : CallKind} {stage : Stage} (hfits : stage.Fits kind)
    (hfree : stage.holds = false) : Orderly (t.begin kind stage) where
  enrolled := h.enrolled.begin hfits
  phase := h.phase.congr (Enrolled.held_begin hfree) rfl rfl rfl

/-- A call goes on between two stages at which it holds nothing. -/
theorem setStage (h : Orderly t) (hc : c ∈ t.calls) {stage : Stage} (hfits : stage.Fits c.kind)
    (hbefore : c.stage.holds = false) (hafter : stage.holds = false) :
    Orderly (t.setStage c.id stage) where
  enrolled := h.enrolled.setStage hc hfits
  phase := h.phase.congr (h.enrolled.held_setStage_of_free hc hbefore hafter) rfl rfl rfl

theorem answer (h : Orderly t) {envelopes : List Envelope}
    (hcallers : ∀ e ∈ envelopes, ∀ id ∈ e.caller, ∃ c ∈ t.calls, c.id = id ∧ c.kind ≠ .stop)
    (r : Except TrackerError SignalOutcome) : Orderly (t.answer envelopes r) where
  enrolled := h.enrolled.answer hcallers r
  phase := h.phase.congr (h.enrolled.held_answer hcallers r) rfl rfl rfl

theorem spawn (h : Orderly t) (hfree : t.held = []) : Orderly t.spawn where
  enrolled := h.enrolled.congr rfl rfl (List.nil_subset _)
  phase := .running true hfree rfl rfl rfl

/-- A stop that takes the lifecycle cancels the run. -/
theorem cancel (h : Orderly t) (hc : c ∈ t.calls) (hkind : c.kind = .stop)
    (hfree : t.held = []) (hrun : t.run = some run) (hlive : run.cancelled = false) :
    Orderly ({ t with intake := false, run := some { run with cancelled := true } }.setStage c.id
      .worker) := by
  obtain ⟨-, hparked, -⟩ := h.phase.of_not_cancelled hrun hlive
  have henrolled : Enrolled { t with
      intake := false, run := some { run with cancelled := true } } := by
    refine h.enrolled.congr rfl rfl ?_
    rw [waiting_of_run hrun]
    exact List.Subset.refl _
  exact
    { enrolled := henrolled.setStage hc hkind
      phase := .stopping _ (henrolled.held_setStage_of_nil hc hfree) rfl hparked rfl }

/-- The stop that holds the lifecycle parks the roster once the worker has ended. -/
theorem park (h : Orderly t) (hc : c ∈ t.calls) (hstage : c.stage = .worker)
    (hrun : t.run = some run) (hended : run.worker.isLive = false) (roster : Roster) :
    Orderly ({ t with parked := some roster }.setStage c.id .helpers) := by
  have hmem : Stage.worker ∈ t.held := hstage ▸ stage_mem_held hc (by rw [hstage]; rfl)
  obtain ⟨hheld, hcancelled, -, hintake⟩ := h.phase.of_worker hmem hrun
  have henrolled : Enrolled { t with parked := some roster } :=
    h.enrolled.congr rfl rfl (List.Subset.refl _)
  have hkind := h.enrolled.fits c hc
  rw [hstage] at hkind
  have houtline : t.run.map Run.outline = some (true, false) := by
    rw [hrun, Option.map_some, Run.outline, hcancelled, hended]
  refine ⟨henrolled.setStage hc hkind, .closing ?_ houtline rfl hintake⟩
  exact henrolled.held_setStage_of_singleton hc (by rw [hstage]; rfl) (by rw [hstage]; exact hheld)

/-- The stop that holds the lifecycle returns and leaves it. -/
theorem finish (h : Orderly t) (hc : c ∈ t.calls) (hstage : c.stage = .helpers)
    (hrun : t.run = some run) (r : CallResult) :
    Orderly ({ t with run := none }.setStage c.id (.finished r)) := by
  have hmem : Stage.helpers ∈ t.held := hstage ▸ stage_mem_held hc (by rw [hstage]; rfl)
  obtain ⟨hheld, -, hparked, hintake⟩ := h.phase.of_helpers hmem hrun
  have henrolled : Enrolled { t with run := none } :=
    h.enrolled.congr rfl rfl (List.nil_subset _)
  refine ⟨henrolled.setStage hc trivial, .stopped ?_ rfl hparked hintake⟩
  exact henrolled.held_setStage_of_singleton hc (by rw [hstage]; rfl) (by rw [hstage]; exact hheld)

/-- A call puts its signal into the queue or the line, and waits. -/
theorem enqueue (h : Orderly t) (hc : c ∈ t.calls) {s : Signal} (hstage : c.stage = .intake s)
    (hrun : t.run = some run) {queue line : List Envelope}
    (hwaiting : ∀ e ∈ queue ++ line, e ∈ run.queue ++ run.line ∨ e = ⟨s, some c.id⟩) :
    Orderly ({ t with run := some { run with queue, line } }.setStage c.id .answer) := by
  have hkind := h.enrolled.fits c hc
  rw [hstage] at hkind
  suffices horderly : Orderly { t with run := some { run with queue, line } } from
    horderly.setStage hc hkind (by rw [hstage]; rfl) rfl
  refine h.extend rfl rfl ?_ (by rw [hrun]; rfl) rfl rfl
  intro e he
  rw [waiting_of_run hrun]
  rcases hwaiting e he with hold | rfl
  · exact Or.inl hold
  · exact Or.inr fun id hid => ⟨c, hc, Option.some.inj hid, hkind⟩

/-- The worker applies the first signal of the queue, and its call is answered. -/
theorem apply (h : Orderly t) (hrun : t.run = some run) {e : Envelope} {rest : List Envelope}
    (hqueue : run.queue = e :: rest) {worker : Worker}
    (hlive : worker.isLive = run.worker.isLive) {notices : List Notice} {feed : Feed}
    {recorded : RadioState} {recordings : Nat} {r : Except TrackerError SignalOutcome} :
    Orderly ({ t with
      feed, recorded, recordings
      run := some { Run.shift run rest with worker, notices } }.answer [e] r) := by
  have hold : t.waiting =
      e :: ((Run.shift run rest).queue ++ (Run.shift run rest).line) := by
    rw [waiting_of_run hrun, waiting_shift hqueue]
  suffices horderly : Orderly { t with
      feed, recorded, recordings
      run := some { Run.shift run rest with worker, notices } } by
    refine horderly.answer (fun e' he => ?_) r
    rw [List.mem_singleton.mp he]
    exact h.enrolled.answerable e (by rw [hold]; exact List.mem_cons_self ..)
  refine h.extend rfl rfl ?_ ?_ rfl rfl
  · rw [hold]
    exact fun e' he => Or.inl (List.mem_cons_of_mem _ he)
  · rw [hrun, Option.map_some, Option.map_some, Run.outline, Run.outline, hlive]
    rfl

/-- The worker of a live run ends, and the signals that are left are answered. -/
theorem endWorker (h : Orderly t) (hrun : t.run = some run) (hlive : run.worker.isLive = true)
    (run' : Run) (hcancelled : run'.cancelled = run.cancelled) {worker : Worker}
    (hworker : worker.isLive = false) {dropped : List Envelope}
    (hwaiting : dropped ++ (run'.queue ++ run'.line) ⊆ run.queue ++ run.line) :
    Orderly (t.endWorker run' worker dropped) := by
  -- what is dropped was waiting before, so no stop is among those that are answered
  have hold : ∀ e ∈ dropped ++ run'.queue ++ run'.line, e ∈ t.waiting := by
    rw [List.append_assoc, waiting_of_run hrun]
    exact fun e he => hwaiting he
  have hcallers := fun e he => h.enrolled.answerable e (hold e he)
  suffices horderly : Orderly { t with
      run := some { run' with worker, queue := [], line := [] } } from horderly.answer hcallers _
  refine ⟨h.enrolled.congr rfl rfl (List.nil_subset _), ?_⟩
  have houtline : ∀ {cancelled live}, t.run.map Run.outline = some (cancelled, live) →
      some (Run.outline { run' with worker, queue := [], line := [] }) =
        some (cancelled, false) := by
    intro cancelled live heq
    rw [hrun] at heq
    have hc : run.cancelled = cancelled := congrArg Prod.fst (Option.some.inj heq)
    rw [Run.outline, hcancelled, hc, hworker]
  have hparked : t.parked.isSome = false := by rw [h.phase.of_live hrun hlive]; rfl
  cases h.phase with
  | stopped _ hr _ _ => rw [hrun] at hr; contradiction
  | running live hheld hr _ hintake => exact .running false hheld (houtline hr) hparked hintake
  | stopping live hheld hr _ hintake => exact .stopping false hheld (houtline hr) hparked hintake
  | closing _ _ hp _ => rw [hparked] at hp; contradiction

end Orderly

theorem orderly_move {t t' : Tracker} {s : Step} {happening : Option Happening}
    (hmove : Move t s happening t') (h : Orderly t) : Orderly t' := by
  cases hmove with
  | still => exact h
  | begun _ kind stage hstage hstop =>
      cases stage with
      | lifecycle => exact h.begin trivial rfl
      | worker => exact absurd rfl hstage.1
      | helpers => exact absurd rfl hstage.2.1
      | intake s =>
          -- a stop begins in front of the lifecycle and hands in no signal
          exact h.begin (fun hkind => nomatch hstop hkind) rfl
      | answer => exact absurd rfl hstage.2.2.1
      | answered r => exact absurd rfl (hstage.2.2.2 r)
      | finished r => exact h.begin trivial rfl
  | left c r hc hstage hidle =>
      refine h.setStage hc trivial ?_ rfl
      rcases hstage with hstage | ⟨s, hstage⟩
      · rw [hstage]; rfl
      · rw [hstage]; rfl
  | spawned c hc hkind hstage hfree hrunning =>
      have hspawn := h.spawn (lifecycleHeld_eq_false_iff.mp hfree)
      exact hspawn.setStage hc (by rw [hkind]; exact nofun) (by rw [hstage]; rfl) rfl
  | cancelled c run hc hkind hstage hfree hrun hlive =>
      exact h.cancel hc hkind (lifecycleHeld_eq_false_iff.mp hfree) hrun hlive
  | parked c run hc hstage hrun hended => exact h.park hc hstage hrun hended _
  | stopped c run hc hstage hrun hnotifier htrigger => exact h.finish hc hstage hrun _
  | queued c run s hc hstage hintake hrun hlive hroom =>
      refine h.enqueue hc hstage hrun fun e he => ?_
      simp only [List.mem_append, List.mem_singleton] at he ⊢
      tauto
  | lined c run s hc hstage hintake hrun hlive hroom =>
      refine h.enqueue hc hstage hrun fun e he => ?_
      simp only [List.mem_append, List.mem_singleton] at he ⊢
      tauto
  | returned c r hc hstage => exact h.setStage hc trivial (by rw [hstage]; rfl) rfl
  | sent s run hintake hrun hlive hroom =>
      refine h.extend rfl rfl ?_ (by rw [hrun]; rfl) rfl rfl
      intro e he
      rw [waiting_of_run hrun]
      simp only [waiting, List.mem_append, List.mem_singleton] at he ⊢
      rcases he with (hold | rfl) | hold
      · exact Or.inl (Or.inl hold)
      · exact Or.inr fun id hid => by contradiction
      · exact Or.inl (Or.inr hold)
  | ended run roster firstRead hrun hworker hcancelled =>
      exact h.endWorker hrun (by rw [hworker]; rfl) run rfl rfl (List.Subset.refl _)
  | crashed run e rest roster firstRead hrun hworker hcancelled hqueue =>
      refine h.endWorker hrun (by rw [hworker]; rfl) (Run.shift run rest) rfl rfl ?_
      rw [waiting_shift hqueue]
      exact List.Subset.refl _
  | stateRead run e rest roster firstRead hrun hworker hcancelled hqueue hsignal =>
      exact h.apply hrun hqueue (by rw [hworker]; rfl)
  | scanMissed run e rest roster firstRead updated hrun hworker hcancelled hqueue hsignal =>
      exact h.apply hrun hqueue (by rw [hworker])
  | scanTaken run e rest roster firstRead updated sightings c hrun hworker hcancelled hqueue =>
      exact h.apply hrun hqueue (by rw [hworker]; rfl)
  | callbackCrashed run n rest hrun hnotifier hnotices hcrashing =>
      exact h.congr rfl rfl (waiting_of_run hrun).symm (by rw [hrun]; rfl) rfl rfl
  | called run n rest hrun hnotifier hnotices hcrashing =>
      exact h.congr rfl rfl (waiting_of_run hrun).symm (by rw [hrun]; rfl) rfl rfl
  | broadcast run n hrun hnotifier =>
      exact h.congr rfl rfl (waiting_of_run hrun).symm (by rw [hrun]; rfl) rfl rfl
  | notifierEnded run hrun hnotifier hnotices hended =>
      exact h.congr rfl rfl (waiting_of_run hrun).symm (by rw [hrun]; rfl) rfl rfl
  | world s radio clock elapsed trigger =>
      refine h.congr rfl rfl ?_ ?_ rfl rfl
      · cases hrun : t.run with
        | none => simp [waiting, hrun]
        | some run => simp [waiting, hrun]
      · rw [Option.map_map]
        rfl
  | callbacksSet crashing => exact h.congr rfl rfl rfl rfl rfl rfl

theorem orderly_step {t : Tracker} (h : Orderly t) (s : Step) : Orderly (t.step s) :=
  orderly_move (move_step t s) h

/-! ## Which calls have changed -/

section

variable {t t' : Tracker} {c : Call}

theorem mem_begin {kind : CallKind} {stage : Stage} {c : Call} (hc : c ∈ (t.begin kind stage).calls) :
    c ∈ t.calls ∨ c.stage = stage := by
  rcases List.mem_append.mp hc with hold | hnew
  · exact Or.inl hold
  · exact Or.inr (List.mem_singleton.mp hnew ▸ rfl)

theorem mem_setStage {id : Nat} {stage : Stage} {c : Call} (hc : c ∈ (t.setStage id stage).calls) :
    c ∈ t.calls ∨ c.stage = stage := by
  obtain ⟨d, hd, rfl⟩ := List.mem_map.mp hc
  split
  · exact Or.inr rfl
  · exact Or.inl hd

theorem answered_of_mem_answer {es : List Envelope} {r : Except TrackerError SignalOutcome}
    (hc : c ∈ (t.answer es r).calls) : c ∈ t.calls ∨ ∃ result, c.stage = .answered result := by
  obtain ⟨d, hd, rfl⟩ := List.mem_map.mp hc
  split
  · exact Or.inr ⟨_, rfl⟩
  · exact Or.inl hd

/-- A call that has gone past the lifecycle is to hand in a signal only where it is a start that has
spawned tasks. -/
def PastLifecycle (c : Call) : Prop :=
  c.stage ≠ .lifecycle ∧ ∀ signal, c.stage = .intake signal → signal = .radioState

/-- A call that a step has changed has gone past the lifecycle, or it has just come. -/
theorem stage_move {s : Step} {happening : Option Happening} (hmove : Move t s happening t')
    (hc : c ∈ t'.calls) :
    c ∈ t.calls ∨ PastLifecycle c ∨
      ((c.kind = .start → c.stage = .lifecycle → t.config.validate = .ok ()) ∧
        ∀ signal, c.stage = .intake signal → c.kind = .signal) := by
  have hmoved : ∀ {u : Tracker} {id : Nat} {stage : Stage}, c ∈ (u.setStage id stage).calls →
      u.calls = t.calls → stage ≠ .lifecycle →
      (∀ signal, stage = .intake signal → signal = .radioState) →
      c ∈ t.calls ∨ PastLifecycle c := by
    intro u id stage hc hcalls hpast hsignal
    rcases mem_setStage hc with hold | rfl
    · exact Or.inl (hcalls ▸ hold)
    · exact Or.inr ⟨hpast, hsignal⟩
  have hanswered : ∀ {u : Tracker} {es : List Envelope} {r : Except TrackerError SignalOutcome},
      c ∈ (u.answer es r).calls → u.calls = t.calls → c ∈ t.calls ∨ PastLifecycle c := by
    intro u es r hc hcalls
    rcases answered_of_mem_answer hc with hold | ⟨result, hstage⟩
    · exact Or.inl (hcalls ▸ hold)
    · rw [PastLifecycle, hstage]
      exact Or.inr ⟨nofun, nofun⟩
  have hchanged : c ∈ t.calls ∨ PastLifecycle c → c ∈ t.calls ∨ PastLifecycle c ∨
      ((c.kind = .start → c.stage = .lifecycle → t.config.validate = .ok ()) ∧
        ∀ signal, c.stage = .intake signal → c.kind = .signal) := Or.imp_right Or.inl
  cases hmove with
  | begun s kind stage hstage hstop hintake hdelivered hcomes hvalid hfailed hsanctioned =>
      rcases List.mem_append.mp hc with hold | hlast
      · exact Or.inl hold
      · obtain rfl := List.mem_singleton.mp hlast
        exact Or.inr (Or.inr ⟨hsanctioned, hintake⟩)
  | left => exact hchanged (hmoved hc rfl nofun nofun)
  | spawned =>
      exact hchanged (hmoved hc rfl nofun fun _ hsignal => (Stage.intake.inj hsignal).symm)
  | cancelled => exact hchanged (hmoved hc rfl nofun nofun)
  | parked => exact hchanged (hmoved hc rfl nofun nofun)
  | stopped => exact hchanged (hmoved hc rfl nofun nofun)
  | queued => exact hchanged (hmoved hc rfl nofun nofun)
  | lined => exact hchanged (hmoved hc rfl nofun nofun)
  | returned => exact hchanged (hmoved hc rfl nofun nofun)
  | ended => exact hchanged (hanswered hc rfl)
  | crashed => exact hchanged (hanswered hc rfl)
  | stateRead => exact hchanged (hanswered hc rfl)
  | scanMissed => exact hchanged (hanswered hc rfl)
  | scanTaken => exact hchanged (hanswered hc rfl)
  | _ => exact Or.inl hc

/-! ## What a step does to the calls -/

theorem mem_waiting_of_queue {run : Run} {e : Envelope} {rest : List Envelope}
    (hrun : t.run = some run) (hqueue : run.queue = e :: rest) : [e] ⊆ t.waiting := by
  rw [waiting_of_run hrun, hqueue]
  simp

theorem subset_waiting_of_run {run : Run} (hrun : t.run = some run) :
    run.queue ++ run.line ⊆ t.waiting :=
  (waiting_of_run hrun).symm ▸ List.Subset.refl _

theorem subset_waiting_of_shift {run : Run} {e : Envelope} {rest : List Envelope}
    (hrun : t.run = some run) (hqueue : run.queue = e :: rest) :
    e :: ((Run.shift run rest).queue ++ (Run.shift run rest).line) ⊆ t.waiting :=
  waiting_shift hqueue ▸ subset_waiting_of_run hrun

/-- What a step can do to the calls: one comes, one goes on, or those that some of the signals came
from are answered.  A call that has been told how it ends goes on to just that end. -/
inductive Turn (t : Tracker) (s : Step) : List Call → Prop
  | rests : Turn t s t.calls
  | comes (kind : CallKind) (stage : Stage)
      (hsignal : s.entersLifecycle = false → kind = .signal)
      (hstops : kind = .stop → s = .beginStop) : Turn t s (t.begin kind stage).calls
  | goesOn (c : Call) (stage : Stage) (hc : c ∈ t.calls)
      (hresult : ∀ r, c.stage.result? = some r → c.stage = .answered r ∧ stage = .finished r) :
      Turn t s (t.setStage c.id stage).calls
  | answers (es : List Envelope) (r : Except TrackerError SignalOutcome) (hes : es ⊆ t.waiting) :
      Turn t s (t.answer es r).calls

theorem turn_move {s : Step} {happening : Option Happening} (hmove : Move t s happening t') :
    Turn t s t'.calls := by
  have hmoved : ∀ {c : Call} {stage : Stage}, c ∈ t.calls → c.stage.result? = none →
      Turn t s (t.setStage c.id stage).calls := by
    intro c stage hc hnone
    refine .goesOn c stage hc fun r hresult => ?_
    rw [hnone] at hresult
    contradiction
  cases hmove with
  | begun _ kind stage hstage hstop hintake hdelivered hcomes hvalid hfailed hsanctioned hsignal
      hstops => exact .comes kind stage hsignal hstops
  | left c r hc hstage =>
      refine hmoved hc ?_
      rcases hstage with hstage | ⟨signal, hstage⟩
      · rw [hstage]; rfl
      · rw [hstage]; rfl
  | spawned c hc hkind hstage => exact hmoved hc (by rw [hstage]; rfl)
  | cancelled c run hc hkind hstage => exact hmoved hc (by rw [hstage]; rfl)
  | parked c run hc hstage => exact hmoved hc (by rw [hstage]; rfl)
  | stopped c run hc hstage => exact hmoved hc (by rw [hstage]; rfl)
  | queued c run signal hc hstage => exact hmoved hc (by rw [hstage]; rfl)
  | lined c run signal hc hstage => exact hmoved hc (by rw [hstage]; rfl)
  | returned c r hc hstage =>
      -- the only call to go on that has been told how it ends
      refine .goesOn c _ hc fun r' hresult => ?_
      rw [hstage] at hresult ⊢
      obtain rfl := Option.some.inj hresult
      exact ⟨rfl, rfl⟩
  | ended run roster firstRead hrun => exact .answers _ _ (subset_waiting_of_run hrun)
  | crashed run e rest roster firstRead hrun hworker hcancelled hqueue =>
      exact .answers _ _ (subset_waiting_of_shift hrun hqueue)
  | stateRead run e rest roster firstRead hrun hworker hcancelled hqueue =>
      exact .answers _ _ (mem_waiting_of_queue hrun hqueue)
  | scanMissed run e rest roster firstRead updated hrun hworker hcancelled hqueue =>
      exact .answers _ _ (mem_waiting_of_queue hrun hqueue)
  | scanTaken run e rest roster firstRead updated sightings c hrun hworker hcancelled hqueue =>
      exact .answers _ _ (mem_waiting_of_queue hrun hqueue)
  | _ => exact .rests

/-- Calls may change their stages, but they stay calls of their kind. -/
theorem exists_call_move {s : Step} {happening : Option Happening} (hmove : Move t s happening t')
    (hc : c ∈ t.calls) : ∃ c' ∈ t'.calls, c'.id = c.id ∧ c'.kind = c.kind := by
  have hturn := turn_move hmove
  generalize t'.calls = calls at hturn ⊢
  cases hturn with
  | rests => exact ⟨c, hc, rfl, rfl⟩
  | comes kind stage => exact ⟨c, List.mem_append_left _ hc, rfl, rfl⟩
  | goesOn d stage =>
      refine ⟨_, List.mem_map_of_mem hc, ?_⟩
      split <;> exact ⟨rfl, rfl⟩
  | answers es r =>
      refine ⟨_, List.mem_map_of_mem hc, ?_⟩
      split <;> exact ⟨rfl, rfl⟩

end

/-! ## When a stop returns -/

/-- A call that goes on is the only one to change. -/
theorem Enrolled.mem_setStage {t u : Tracker} (h : Enrolled t) (hcalls : u.calls = t.calls)
    {c d : Call} (hc : c ∈ t.calls) {stage : Stage} (hd : d ∈ (u.setStage c.id stage).calls) :
    d ∈ t.calls ∨ d = { c with stage } := by
  obtain ⟨c', hc', rfl⟩ := List.mem_map.mp hd
  rw [hcalls] at hc'
  split
  · rename_i hid
    rw [h.eq_of_id_eq hc' hc hid]
    exact Or.inr rfl
  · exact Or.inl hc'

/-- An answer is for no stop. -/
theorem Enrolled.mem_answer {t u : Tracker} (h : Enrolled t) (hcalls : u.calls = t.calls)
    {envelopes : List Envelope} (hwaiting : envelopes ⊆ t.waiting)
    {r : Except TrackerError SignalOutcome} {d : Call} (hkind : d.kind = .stop)
    (hd : d ∈ (u.answer envelopes r).calls) : d ∈ t.calls := by
  obtain ⟨c, hc, rfl⟩ := List.mem_map.mp hd
  rw [hcalls] at hc
  split at hkind
  · rename_i hasked
    have hcall : c.kind ≠ .stop :=
      h.kind_of_asked (fun e he => h.answerable e (hwaiting he)) hc hasked
    exact absurd hkind hcall
  · rename_i hasked
    rwa [if_neg hasked]

/-- Where a stop returns, nothing happens, and no run is left or all of its tasks have ended. -/
theorem stop_returned {t t' : Tracker} {s : Step} {happening : Option Happening}
    (hmove : Move t s happening t') (h : Orderly t) {d : Call} (hkind : d.kind = .stop)
    {result : CallResult} (hfinished : d.stage = .finished result) (hafter : d ∈ t'.calls)
    (hbefore : d ∉ t.calls) :
    happening = none ∧ ∀ run ∈ t.run, run.worker.isLive = false ∧
      run.notifier.isLive = false ∧ run.trigger.isLive = false := by
  -- the stop was not there as it is now, so it is the call that goes on
  have hmoved : ∀ {u : Tracker} {c : Call} {stage : Stage}, u.calls = t.calls → c ∈ t.calls →
      d ∈ (u.setStage c.id stage).calls → d = { c with stage } := by
    intro u c stage hcalls hc hd
    exact (h.enrolled.mem_setStage hcalls hc hd).resolve_left hbefore
  have hanswered : ∀ {u : Tracker} {envelopes : List Envelope}
      {r : Except TrackerError SignalOutcome}, u.calls = t.calls → envelopes ⊆ t.waiting →
      d ∉ (u.answer envelopes r).calls := by
    intro u envelopes r hcalls hwaiting hd
    exact hbefore (h.enrolled.mem_answer hcalls hwaiting hkind hd)
  cases hmove with
  | begun _ kind stage hstages hstop =>
      rcases List.mem_append.mp hafter with hold | hnew
      · exact absurd hold hbefore
      · rw [List.mem_singleton.mp hnew] at hkind hfinished
        exact nomatch (hstop hkind).symm.trans hfinished
  | left c r hc hstage hidle =>
      obtain rfl := hmoved rfl hc hafter
      have hfits := h.enrolled.fits c hc
      rcases hstage with hstage | ⟨s, hstage⟩
      · obtain ⟨hfree, hrunning⟩ := hidle hstage hkind
        have hnone := (h.phase.of_not_running (lifecycleHeld_eq_false_iff.mp hfree) hrunning).1
        refine ⟨rfl, fun run hrun => ?_⟩
        exact nomatch hnone.symm.trans hrun
      · rw [hstage] at hfits
        exact absurd hkind hfits
  | stopped c run hc hstage hrun hnotifier htrigger =>
      have hmem : Stage.helpers ∈ t.held := hstage ▸ stage_mem_held hc (by rw [hstage]; rfl)
      refine ⟨rfl, fun run' hrun' => ?_⟩
      rw [← Option.some.inj (hrun.symm.trans hrun')]
      exact ⟨(h.phase.of_helpers hmem hrun).2.1, hnotifier, htrigger⟩
  | spawned c hc => rw [hmoved rfl hc hafter] at hfinished; contradiction
  | cancelled c run hc => rw [hmoved rfl hc hafter] at hfinished; contradiction
  | parked c run hc => rw [hmoved rfl hc hafter] at hfinished; contradiction
  | queued c run s hc => rw [hmoved rfl hc hafter] at hfinished; contradiction
  | lined c run s hc => rw [hmoved rfl hc hafter] at hfinished; contradiction
  | returned c r hc hstage =>
      -- only calls that hand in a signal are answered
      obtain rfl := hmoved rfl hc hafter
      have hfits := h.enrolled.fits c hc
      rw [hstage] at hfits
      exact absurd hkind hfits
  | ended run roster firstRead hrun =>
      exact absurd hafter (hanswered rfl (subset_waiting_of_run hrun))
  | crashed run e rest roster firstRead hrun hworker hcancelled hqueue =>
      exact absurd hafter (hanswered rfl (subset_waiting_of_shift hrun hqueue))
  | stateRead run e rest roster firstRead hrun hworker hcancelled hqueue =>
      exact absurd hafter (hanswered rfl (mem_waiting_of_queue hrun hqueue))
  | scanMissed run e rest roster firstRead updated hrun hworker hcancelled hqueue =>
      exact absurd hafter (hanswered rfl (mem_waiting_of_queue hrun hqueue))
  | scanTaken run e rest roster firstRead updated sightings c hrun hworker hcancelled hqueue =>
      exact absurd hafter (hanswered rfl (mem_waiting_of_queue hrun hqueue))
  | _ => exact absurd hafter hbefore

/-- Every state that steps can lead to is orderly. -/
theorem orderly_after (config : TrackerConfig) (radio : Radio) (clock : Int64)
    (steps : List Step) : Orderly ((new config radio clock).after steps) := by
  induction steps using List.reverseRecOn with
  | nil => exact .new config radio clock
  | append_singleton steps s ih =>
      rw [after_concat]
      exact orderly_step ih s

end Tracker

end ScanRoster
