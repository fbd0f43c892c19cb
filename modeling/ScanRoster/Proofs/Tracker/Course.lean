import Mathlib.Data.List.Induction
import ScanRoster.Proofs.Tracker.Answer

/-!
# The course of a start

A start that finds tasks returns at once.  Any other one spawns tasks, hands in a radio signal,
waits for the answer of their worker and returns with it when it goes on.  In between it keeps
nobody from the lifecycle, so that other calls may come to it.  `Onward` lists once what a step can
do to a start; what holds of starts in all runs is proved by cases on it.
-/

namespace ScanRoster

/-- Whether a start at this stage has spawned tasks and is still to return. -/
def Stage.hasSpawned : Stage → Bool
  | .intake _ | .answer | .answered _ => true
  | _ => false

/-- Whether a call is still to return. -/
def Call.isPending (c : Call) : Bool :=
  match c.stage with
  | .finished _ => false
  | _ => true

theorem Call.isPending_of_hasSpawned {c : Call} (h : c.stage.hasSpawned = true) :
    c.isPending = true := by
  unfold isPending
  split
  · rename_i r hfinished
    rw [hfinished] at h
    contradiction
  · rfl

namespace Tracker

/-! ## What starts hand in -/

/-- Starts hand in radio signals, and the other envelopes that name a call are those of signals. -/
structure Reading (t : Tracker) : Prop where
  intake : ∀ c ∈ t.calls, c.kind = .start → ∀ s, c.stage = .intake s → s = .radioState
  envelope : ∀ e ∈ t.waiting, ∀ id, e.caller = some id →
    e.signal = .radioState ∨ ∃ c ∈ t.calls, c.id = id ∧ c.kind = .signal

section

variable {t t' u : Tracker} {s : Step} {happening : Option Happening} {c : Call}

/-- An envelope that a step puts into the queue or in line is a send's, or that of a call that hands
in its signal. -/
theorem mem_waiting_move (hmove : Move t s happening t') {e : Envelope} (he : e ∈ t'.waiting) :
    e ∈ t.waiting ∨ e.caller = none ∨
      ∃ c ∈ t.calls, e.caller = some c.id ∧ c.stage = .intake e.signal := by
  have hrest : ∀ {run run' : Run} {e' : Envelope} {rest : List Envelope}, t.run = some run →
      t'.run = some run' → run.queue = e' :: rest → run'.queue = (Run.shift run rest).queue →
      run'.line = (Run.shift run rest).line → e ∈ t.waiting := by
    intro run run' e' rest hrun hrun' hqueue hqueue' hline'
    rw [waiting_of_run hrun', hqueue', hline'] at he
    rw [waiting_of_run hrun, waiting_shift hqueue]
    exact List.mem_cons_of_mem _ he
  have hkept : ∀ {run run' : Run}, t.run = some run → t'.run = some run' →
      run'.queue = run.queue → run'.line = run.line → e ∈ t.waiting := by
    intro run run' hrun hrun' hqueue hline
    rwa [waiting_of_run hrun', hqueue, hline, ← waiting_of_run hrun] at he
  cases hmove with
  | still => exact Or.inl he
  | begun => exact Or.inl he
  | left => exact Or.inl he
  | spawned => contradiction
  | cancelled c run hc hkind hstage hfree hrun => exact Or.inl (hkept hrun rfl rfl rfl)
  | parked => exact Or.inl he
  | stopped => contradiction
  | queued c run s hc hstage hintake hrun =>
      rcases List.mem_append.mp he with hqueue | hline
      · rcases List.mem_append.mp hqueue with hold | hlast
        · exact Or.inl (waiting_of_run hrun ▸ List.mem_append_left _ hold)
        · obtain rfl := List.mem_singleton.mp hlast
          exact Or.inr (Or.inr ⟨c, hc, rfl, hstage⟩)
      · exact Or.inl (waiting_of_run hrun ▸ List.mem_append_right _ hline)
  | lined c run s hc hstage hintake hrun =>
      rcases List.mem_append.mp he with hqueue | hline
      · exact Or.inl (waiting_of_run hrun ▸ List.mem_append_left _ hqueue)
      · rcases List.mem_append.mp hline with hold | hlast
        · exact Or.inl (waiting_of_run hrun ▸ List.mem_append_right _ hold)
        · obtain rfl := List.mem_singleton.mp hlast
          exact Or.inr (Or.inr ⟨c, hc, rfl, hstage⟩)
  | returned => exact Or.inl he
  | sent s run hintake hrun =>
      rcases List.mem_append.mp he with hqueue | hline
      · rcases List.mem_append.mp hqueue with hold | hlast
        · exact Or.inl (waiting_of_run hrun ▸ List.mem_append_left _ hold)
        · obtain rfl := List.mem_singleton.mp hlast
          exact Or.inr (Or.inl rfl)
      · exact Or.inl (waiting_of_run hrun ▸ List.mem_append_right _ hline)
  | ended => contradiction
  | crashed => contradiction
  | stateRead run e' rest roster firstRead hrun hworker hcancelled hqueue =>
      exact Or.inl (hrest hrun rfl hqueue rfl rfl)
  | scanMissed run e' rest roster firstRead updated hrun hworker hcancelled hqueue =>
      exact Or.inl (hrest hrun rfl hqueue rfl rfl)
  | scanTaken run e' rest roster firstRead updated sightings c hrun hworker hcancelled hqueue =>
      exact Or.inl (hrest hrun rfl hqueue rfl rfl)
  | callbackCrashed run n rest hrun => exact Or.inl (hkept hrun rfl rfl rfl)
  | called run n rest hrun => exact Or.inl (hkept hrun rfl rfl rfl)
  | broadcast run n hrun => exact Or.inl (hkept hrun rfl rfl rfl)
  | notifierEnded run hrun => exact Or.inl (hkept hrun rfl rfl rfl)
  | world =>
      refine Or.inl ?_
      cases hrun : t.run with
      | none => simp [waiting, hrun] at he
      | some run => simpa [waiting, hrun] using he
  | callbacksSet => exact Or.inl he

theorem reading_step (horderly : Orderly t) (h : Reading t) (s : Step) : Reading (t.step s) := by
  have hmove := move_step t s
  constructor
  · intro c hc hkind signal hstage
    rcases stage_move hmove hc with hold | hpast | ⟨-, hasks⟩
    · exact h.intake c hold hkind signal hstage
    · exact hpast.2 signal hstage
    · rw [hasks signal hstage] at hkind
      contradiction
  · intro e he id hcaller
    have hsignals : ∀ c ∈ t.calls, c.id = id → c.kind = .signal →
        ∃ c ∈ (t.step s).calls, c.id = id ∧ c.kind = .signal := by
      intro c hc hid hkind
      obtain ⟨c', hc', hid', hkind'⟩ := exists_call_move hmove hc
      exact ⟨c', hc', hid'.trans hid, hkind'.trans hkind⟩
    rcases mem_waiting_move hmove he with hold | hnone | ⟨c, hc, hcaller', hstage⟩
    · rcases h.envelope e hold id hcaller with hradio | ⟨c, hc, hid, hkind⟩
      · exact Or.inl hradio
      · exact Or.inr (hsignals c hc hid hkind)
    · rw [hnone] at hcaller
      contradiction
    · -- the envelope is new, so it is what a call hands in
      have hid : c.id = id := Option.some.inj (hcaller'.symm.trans hcaller)
      have hfits := horderly.enrolled.fits c hc
      rw [hstage] at hfits
      cases hkind : c.kind with
      | start => exact Or.inl (h.intake c hc hkind _ hstage)
      | stop => exact absurd hkind hfits
      | signal => exact Or.inr (hsignals c hc hid hkind)

theorem reading_after (config : TrackerConfig) (radio : Radio) (clock : Int64)
    (steps : List Step) : Reading ((new config radio clock).after steps) := by
  induction steps using List.reverseRecOn with
  | nil => exact ⟨nofun, nofun⟩
  | append_singleton steps s ih =>
      rw [after_concat]
      exact reading_step (orderly_after config radio clock steps) ih s

/-- A scan signal in the queue is not that of a start. -/
theorem not_mem_callers_of_scan (hreading : Reading t) (horderly : Orderly t) (hc : c ∈ t.calls)
    (hkind : c.kind = .start) {e : Envelope} (he : e ∈ t.waiting) {updated : Bool}
    (hscan : e.signal = .scanResults updated) : c.id ∉ callers [e] := by
  intro hmem
  obtain ⟨e', he', hcaller⟩ := mem_callers.mp hmem
  obtain rfl := List.mem_singleton.mp he'
  rcases hreading.envelope e' he c.id hcaller with hradio | ⟨d, hd, hid, hsignal⟩
  · rw [hscan] at hradio
    contradiction
  · rw [horderly.enrolled.eq_of_id_eq hd hc hid, hkind] at hsignal
    contradiction

end

/-! ## How starts get on -/

/-- To which stage a step from `t` to `t'` can bring a start. -/
inductive Onward (t t' : Tracker) (s : Step) (happening : Option Happening) (c : Call) :
    Stage → Prop
  /-- It stays where it is. -/
  | stays : Onward t t' s happening c c.stage
  /-- It finds tasks, and returns. -/
  | finds (hs : s = .advance c.id) (hstage : c.stage = .lifecycle)
      (hrunning : t.running.isSome = true) (hsame : t' = t.setStage c.id (.finished .done)) :
      Onward t t' s happening c (.finished .done)
  /-- It spawns tasks. -/
  | spawns (hs : s = .advance c.id) (hstage : c.stage = .lifecycle)
      (hspawned : happening = some .spawned) : Onward t t' s happening c (.intake .radioState)
  /-- Its signal is not taken. -/
  | refused (hstage : c.stage = .intake .radioState)
      (hclosed : ∀ run, t.running = some run → run.worker.isLive = false) :
      Onward t t' s happening c (.finished (.failed .stopped))
  /-- It hands in its signal. -/
  | handsIn (hstage : c.stage = .intake .radioState) : Onward t t' s happening c .answer
  /-- The worker ends before it has come to the signal. -/
  | dropped (hstage : c.stage = .answer)
      (hended : t.running = none ∨ happening = some .crashed) :
      Onward t t' s happening c (.answered (.failed .stopped))
  /-- The worker takes the radio state down under the signal. -/
  | served (hstage : c.stage = .answer) (hread : happening = some (.stateRead t.radio.state)) :
      Onward t t' s happening c (.answered .done)
  /-- It returns with its answer. -/
  | returns (r : CallResult) (hs : s = .advance c.id) (hstage : c.stage = .answered r)
      (hsame : t' = t.setStage c.id (.finished r)) : Onward t t' s happening c (.finished r)

section

variable {t t' : Tracker} {s : Step} {happening : Option Happening} {log : List Delivery}

/-- A start that has spawned tasks after a step has done so in the step or before. -/
theorem Onward.hasSpawned {c : Call} {stage : Stage} (h : Onward t t' s happening c stage)
    (hspawned : stage.hasSpawned = true) :
    c.stage.hasSpawned = true ∨ (s = .advance c.id ∧ happening = some .spawned) := by
  cases h with
  | stays => exact Or.inl hspawned
  | spawns hs hstage hhappens => exact Or.inr ⟨hs, hhappens⟩
  | handsIn hstage => rw [hstage]; exact Or.inl rfl
  | dropped hstage => rw [hstage]; exact Or.inl rfl
  | served hstage => rw [hstage]; exact Or.inl rfl
  | finds | refused | returns => contradiction

/-- Where a start is after a step, it was brought to, or it has come in the step. -/
theorem onward_move (hmove : Move t s happening t') (horderly : Orderly t)
    (hattended : Attended t log) (hreading : Reading t) {c' : Call} (hc' : c' ∈ t'.calls)
    (hkind' : c'.kind = .start) :
    (∃ c ∈ t.calls, c.id = c'.id ∧ c.kind = .start ∧ Onward t t' s happening c c'.stage) ∨
      (c'.id = t.nextCall ∧ (c'.stage = .lifecycle ∨
        ∃ cause, t.config.validate ≠ .ok () ∧ c'.stage = .finished (.failed cause))) := by
  have hstays : c' ∈ t.calls →
      ∃ c ∈ t.calls, c.id = c'.id ∧ c.kind = .start ∧ Onward t t' s happening c c'.stage :=
    fun hold => ⟨c', hold, rfl, hkind', .stays⟩
  have hmoved : ∀ {u : Tracker} {d : Call} {stage : Stage}, u.calls = t.calls → d ∈ t.calls →
      c' ∈ (u.setStage d.id stage).calls →
      (d.kind = .start → Onward t t' s happening d stage) →
      ∃ c ∈ t.calls, c.id = c'.id ∧ c.kind = .start ∧ Onward t t' s happening c c'.stage := by
    intro u d stage hcalls hd hmem hgoes
    rcases horderly.enrolled.mem_setStage hcalls hd hmem with hold | rfl
    · exact hstays hold
    · exact ⟨d, hd, rfl, hkind', hgoes hkind'⟩
  have hanswered : ∀ {u : Tracker} {es : List Envelope} {r : Except TrackerError SignalOutcome},
      u.calls = t.calls → c' ∈ (u.answer es r).calls →
      (∀ c ∈ t.calls, c.kind = .start → c.id ∈ callers es →
        Onward t t' s happening c (c.answered r).stage) →
      ∃ c ∈ t.calls, c.id = c'.id ∧ c.kind = .start ∧ Onward t t' s happening c c'.stage := by
    intro u es r hcalls hmem hgoes
    obtain ⟨c, hc, rfl⟩ := List.mem_map.mp hmem
    rw [hcalls] at hc
    split at hkind'
    · rename_i hasked
      rw [if_pos hasked]
      exact ⟨c, hc, rfl, hkind', hgoes c hc hkind' (any_caller_iff.mp hasked)⟩
    · rename_i hasked
      rw [if_neg hasked]
      exact ⟨c, hc, rfl, hkind', .stays⟩
  cases hmove with
  | begun _ kind stage hstage hstop hintake hdelivered hcomes hvalid hfailed =>
      rcases List.mem_append.mp hc' with hold | hlast
      · exact Or.inl (hstays hold)
      · obtain rfl := List.mem_singleton.mp hlast
        refine Or.inr ⟨rfl, ?_⟩
        cases stage with
        | lifecycle => exact Or.inl rfl
        | worker => exact absurd rfl hstage.1
        | helpers => exact absurd rfl hstage.2.1
        | intake signal => exact nomatch hkind'.symm.trans (hintake signal rfl)
        | answer => exact absurd rfl hstage.2.2.1
        | answered r => exact absurd rfl (hstage.2.2.2 r)
        | finished r =>
            obtain ⟨cause, rfl⟩ := hfailed r rfl
            exact Or.inr ⟨cause, fun hok => (nomatch hvalid hkind' hok), rfl⟩
  | left d r hd hstage hidle hrefused hdelivered hdone hclosed hbusy =>
      refine Or.inl (hmoved rfl hd hc' fun hkind => ?_)
      rcases hstage with hstage | ⟨signal, hstage⟩
      · obtain rfl := hdone hstage
        exact .finds rfl hstage (hbusy hstage hkind) rfl
      · obtain rfl := hrefused signal hstage
        obtain rfl := hreading.intake d hd hkind signal hstage
        refine .refused hstage fun run hrunning => ?_
        obtain ⟨hrun, hcancelled⟩ := running_eq_some_iff.mp hrunning
        exact hclosed _ hstage (horderly.phase.of_not_cancelled hrun hcancelled).2.2 run hrun
  | spawned d hd hkind hstage =>
      exact Or.inl (hmoved (u := t.spawn) rfl hd hc' fun _ => .spawns rfl hstage rfl)
  | cancelled d run hd hkind =>
      refine Or.inl (hmoved (u := { t with intake := _, run := some _ }) rfl hd hc'
        fun hstart => ?_)
      exact nomatch hkind.symm.trans hstart
  | parked d run hd hstage =>
      refine Or.inl (hmoved (u := { t with parked := _ }) rfl hd hc' fun hstart => ?_)
      have hfits := horderly.enrolled.fits d hd
      rw [hstage, Stage.Fits, hstart] at hfits
      contradiction
  | stopped d run hd hstage =>
      refine Or.inl (hmoved (u := { t with run := none }) rfl hd hc' fun hstart => ?_)
      have hfits := horderly.enrolled.fits d hd
      rw [hstage, Stage.Fits, hstart] at hfits
      contradiction
  | queued d run signal hd hstage =>
      refine Or.inl (hmoved (u := { t with run := some _ }) rfl hd hc' fun hkind => ?_)
      obtain rfl := hreading.intake d hd hkind signal hstage
      exact .handsIn hstage
  | lined d run signal hd hstage =>
      refine Or.inl (hmoved (u := { t with run := some _ }) rfl hd hc' fun hkind => ?_)
      obtain rfl := hreading.intake d hd hkind signal hstage
      exact .handsIn hstage
  | returned d r hd hstage =>
      exact Or.inl (hmoved rfl hd hc' fun _ => .returns r rfl hstage rfl)
  | ended run roster firstRead hrun hworker hcancelled =>
      refine Or.inl (hanswered (u := { t with run := some _ }) rfl hc' fun c hc _ hid => ?_)
      refine .dropped (hattended.stage_of_mem_callers hc (subset_waiting_of_run hrun) hid)
        (Or.inl ?_)
      simp [running, hrun, hcancelled]
  | crashed run e rest roster firstRead hrun hworker hcancelled hqueue =>
      refine Or.inl (hanswered (u := { t with run := some _ }) rfl hc' fun c hc _ hid => ?_)
      exact .dropped
        (hattended.stage_of_mem_callers hc (subset_waiting_of_shift hrun hqueue) hid) (Or.inr rfl)
  | stateRead run e rest roster firstRead hrun hworker hcancelled hqueue =>
      refine Or.inl (hanswered (u := { t with run := some _, recorded := _, recordings := _ }) rfl
        hc' fun c hc hkind hid => ?_)
      simp only [Call.answered, hkind]
      exact .served
        (hattended.stage_of_mem_callers hc (mem_waiting_of_queue hrun hqueue) hid) rfl
  | scanMissed run e rest roster firstRead updated hrun hworker hcancelled hqueue hsignal =>
      -- under a scan signal no start is answered
      refine Or.inl (hanswered (u := { t with run := some _ }) rfl hc' fun c hc hkind hid => ?_)
      have he := mem_waiting_of_queue hrun hqueue (List.mem_singleton_self e)
      exact absurd hid (not_mem_callers_of_scan hreading horderly hc hkind he hsignal)
  | scanTaken run e rest roster firstRead updated sightings cycle hrun hworker hcancelled hqueue
      hsignal =>
      refine Or.inl (hanswered (u := { t with run := some _, feed := _ }) rfl hc'
        fun c hc hkind hid => ?_)
      have he := mem_waiting_of_queue hrun hqueue (List.mem_singleton_self e)
      exact absurd hid (not_mem_callers_of_scan hreading horderly hc hkind he hsignal)
  | _ => exact Or.inl (hstays hc')

/-- A start is somewhere after every step. -/
theorem exists_onward (hmove : Move t s happening t') (horderly : Orderly t)
    (hattended : Attended t log) (hreading : Reading t) {c : Call} (hc : c ∈ t.calls)
    (hkind : c.kind = .start) :
    ∃ c' ∈ t'.calls, c'.id = c.id ∧ c'.kind = .start ∧ Onward t t' s happening c c'.stage := by
  obtain ⟨c', hc', hid, hkind'⟩ := exists_call_move hmove hc
  rw [hkind] at hkind'
  rcases onward_move hmove horderly hattended hreading hc' hkind' with
    ⟨d, hd, hsame, -, honward⟩ | ⟨hnew, -⟩
  · obtain rfl := horderly.enrolled.eq_of_id_eq hd hc (hsame.trans hid)
    exact ⟨c', hc', hid, hkind', honward⟩
  · have hlt := horderly.enrolled.id_lt hc
    rw [← hid, hnew] at hlt
    exact absurd hlt (Nat.lt_irrefl _)

/-! ## What becomes of the tasks -/

theorem isSome_running_congr (hcancelled : t'.run.map (·.cancelled) = t.run.map (·.cancelled)) :
    t'.running.isSome = t.running.isSome := by
  unfold running
  cases hrun : t.run with
  | none =>
      rw [hrun, Option.map_none, Option.map_eq_none_iff] at hcancelled
      rw [hcancelled]
  | some run =>
      rw [hrun] at hcancelled
      obtain ⟨run', hrun', hsame⟩ := Option.map_eq_some_iff.mp hcancelled
      cases hlive : run.cancelled <;> simp [hrun', hsame, hlive, Option.filter_some]

/-- The lifecycle comes to hold tasks where a start spawns them, and lets them go where a stop comes
to it. -/
theorem running_move (hmove : Move t s happening t') (horderly : Orderly t) :
    (happening = some .spawned ∧ t.running = none ∧ t'.running.isSome = true) ∨
      ((∃ d ∈ t.calls, d.kind = .stop ∧ d.isPending = true) ∧ happening = none ∧
        t'.running = none) ∨
      (happening ≠ some .spawned ∧ t'.running.isSome = t.running.isSome) := by
  have hkept (hother : happening ≠ some .spawned)
      (hcancelled : t'.run.map (·.cancelled) = t.run.map (·.cancelled)) :
      (happening = some .spawned ∧ t.running = none ∧ t'.running.isSome = true) ∨
        ((∃ d ∈ t.calls, d.kind = .stop ∧ d.isPending = true) ∧ happening = none ∧
          t'.running = none) ∨
        (happening ≠ some .spawned ∧ t'.running.isSome = t.running.isSome) :=
    Or.inr (Or.inr ⟨hother, isSome_running_congr hcancelled⟩)
  cases hmove with
  | spawned c hc hkind hstage hfree hrunning => exact Or.inl ⟨rfl, hrunning, rfl⟩
  -- a run that a stop has come to is not held any more, whatever its tasks still do
  | cancelled c run hc hkind hstage =>
      exact Or.inr (Or.inl ⟨⟨c, hc, hkind, by rw [Call.isPending, hstage]⟩, rfl, rfl⟩)
  | stopped c run hc hstage =>
      have hkind := horderly.enrolled.fits c hc
      rw [hstage] at hkind
      exact Or.inr (Or.inl ⟨⟨c, hc, hkind, by rw [Call.isPending, hstage]⟩, rfl, rfl⟩)
  | queued c run signal hc hstage hintake hrun => exact hkept nofun (by rw [hrun]; rfl)
  | lined c run signal hc hstage hintake hrun => exact hkept nofun (by rw [hrun]; rfl)
  | sent signal run hintake hrun => exact hkept nofun (by rw [hrun]; rfl)
  | ended run roster firstRead hrun => exact hkept nofun (by rw [hrun]; rfl)
  | crashed run e rest roster firstRead hrun => exact hkept nofun (by rw [hrun]; rfl)
  | stateRead run e rest roster firstRead hrun => exact hkept nofun (by rw [hrun]; rfl)
  | scanMissed run e rest roster firstRead updated hrun =>
      exact hkept nofun (by rw [hrun]; rfl)
  | scanTaken run e rest roster firstRead updated sightings c hrun =>
      exact hkept nofun (by rw [hrun]; rfl)
  | callbackCrashed run n rest hrun => exact hkept nofun (by rw [hrun]; rfl)
  | called run n rest hrun => exact hkept nofun (by rw [hrun]; rfl)
  | broadcast run n hrun => exact hkept nofun (by rw [hrun]; rfl)
  | notifierEnded run hrun => exact hkept nofun (by rw [hrun]; rfl)
  | world => exact hkept nofun (by rw [Option.map_map]; rfl)
  | _ => exact hkept nofun rfl

end

end Tracker

end ScanRoster
