import Mathlib.Data.List.Infix
import Mathlib.Data.List.TakeWhile
import ScanRoster.Proofs.Tracker.Notification
import ScanRoster.Proofs.Tracker.Ownership

/-!
# When a start returns

A start that spawns tasks hands in a radio signal and returns when it goes on with the answer, so
that a state was read for it since it has spawned them; stops and other starts may have come in
between.  A start that finds tasks changes nothing and returns at once; it does not wait for the
first read of a run that another start is still bringing up.  So a start that has returned well
vouches for the radio state on record, or there is another start that is still to do so.
-/

namespace ScanRoster

/-- Whether a start is between the tasks that it has spawned and their first answer. -/
def Call.AwaitsRead (c : Call) : Prop :=
  c.kind = .start ∧ (c.stage = .intake .radioState ∨ c.stage = .answer)

/-- Whether a state is the one that was read last, and was read since the last start. -/
def ReadSinceStart (happenings : List Happening) (state : RadioState) : Prop :=
  ∃ before since, happenings = before ++ .stateRead state :: since ∧
    ∀ x ∈ since, x ≠ .spawned ∧ x.state? = none

theorem Happening.eq_stateRead {x : Happening} {state : RadioState} (h : x.state? = some state) :
    x = .stateRead state := by
  cases x with
  | stateRead other => exact congrArg Happening.stateRead (Option.some.inj h)
  | _ => contradiction

/-- A state that was read is on record until the next one is. -/
theorem exists_last_read (happenings : List Happening) {more : List Happening}
    (hread : ∃ state, .stateRead state ∈ more) :
    ∃ past rest, more = past ++ .stateRead (lastState (happenings ++ more)) :: rest ∧
      ∀ x ∈ rest, x.state? = none := by
  induction more using List.reverseRecOn with
  | nil => simp at hread
  | append_singleton more x ih =>
      rw [← List.append_assoc, lastState_concat]
      cases hstate : x.state? with
      | some state =>
          obtain rfl := Happening.eq_stateRead hstate
          exact ⟨more, [], rfl, by simp⟩
      | none =>
          have hbefore : ∃ state, .stateRead state ∈ more := by
            obtain ⟨state, hmem⟩ := hread
            rcases List.mem_append.mp hmem with hold | hlast
            · exact ⟨state, hold⟩
            · rw [← List.mem_singleton.mp hlast] at hstate
              contradiction
          obtain ⟨past, rest, heq, hquiet⟩ := ih hbefore
          refine ⟨past, rest ++ [x], ?_, fun y hy => ?_⟩
          · exact (congrArg (· ++ [x]) heq).trans (List.append_assoc ..)
          · rcases List.mem_append.mp hy with hold | hlast
            · exact hquiet y hold
            · rwa [List.mem_singleton.mp hlast]

/-- What was read last after the last start, was read since then. -/
theorem readSinceStart_of_append {happenings more : List Happening} (hspawned : .spawned ∉ more)
    (hread : ∃ state, .stateRead state ∈ more) :
    ReadSinceStart (happenings ++ more) (lastState (happenings ++ more)) := by
  obtain ⟨past, rest, heq, hquiet⟩ := exists_last_read happenings hread
  refine ⟨happenings ++ past, rest, ?_, fun x hx => ⟨?_, hquiet x hx⟩⟩
  · rw [List.append_assoc, ← heq]
  · rintro rfl
    rw [heq] at hspawned
    exact hspawned (List.mem_append_right _ (List.mem_cons_of_mem _ hx))

theorem readSinceStart_lastState {happenings : List Happening}
    (hread : unreadSinceStart happenings = false) :
    ReadSinceStart happenings (lastState happenings) := by
  have hsplit : (happenings.reverse.dropWhile (· ≠ .spawned)).reverse ++
      (happenings.reverse.takeWhile (· ≠ .spawned)).reverse = happenings := by
    rw [← List.reverse_append, List.takeWhile_append_dropWhile, List.reverse_reverse]
  obtain ⟨x, hx, hstate⟩ := List.all_eq_false.mp hread
  obtain ⟨state, hsome⟩ : ∃ state, x.state? = some state :=
    Option.ne_none_iff_exists'.mp fun hnone => hstate (by rw [hnone]; rfl)
  rw [← hsplit]
  refine readSinceStart_of_append (fun hspawned => ?_) ⟨state, ?_⟩
  · simpa using List.mem_takeWhile_imp (List.mem_reverse.mp hspawned)
  · rw [← Happening.eq_stateRead hsome]
    exact List.mem_reverse.mpr hx

theorem ReadSinceStart.unread_eq_false {happenings : List Happening} {state : RadioState}
    (h : ReadSinceStart happenings state) : unreadSinceStart happenings = false := by
  obtain ⟨before, since, rfl, hquiet⟩ := h
  induction since using List.reverseRecOn with
  | nil => rw [unreadSinceStart_concat]; rfl
  | append_singleton since x ih =>
      obtain ⟨hother, -⟩ := hquiet x (by simp)
      have hbefore := ih fun y hy => hquiet y (List.mem_append_left _ hy)
      rw [← List.cons_append, ← List.append_assoc, unreadSinceStart_concat, hbefore]
      simp [hother]

namespace Tracker

/-- Whether a start has spawned tasks in some steps, and a state is the one that was read last since
then. -/
def ReadSinceSpawn (t : Tracker) (steps : List Step) (id : Nat) (state : RadioState) : Prop :=
  ∃ before since, steps = before ++ .advance id :: since ∧
    (t.after before).happening? (.advance id) = some .spawned ∧
    ∃ past rest,
      (t.after (before ++ [.advance id])).trace since = past ++ .stateRead state :: rest ∧
      ∀ x ∈ rest, x.state? = none

section

variable {t t' : Tracker} {s : Step} {happening : Option Happening} {log : List Delivery} {c : Call}

/-! ## The first read of a run -/

theorem exists_intake_of_spawned (hmove : Move t s (some .spawned) t') :
    ∃ c ∈ t'.calls, c.AwaitsRead := by
  cases hmove with
  | spawned c hc hkind =>
      refine ⟨_, List.mem_map_of_mem hc, ?_⟩
      rw [if_pos rfl]
      exact ⟨hkind, Or.inl rfl⟩

/-- While the lifecycle holds tasks that have not read the radio, a start awaits that read. -/
theorem awaitsRead_move {happenings : List Happening} (hmove : Move t s happening t')
    (horderly : Orderly t) (hattended : Attended t log) (hreading : Reading t)
    (hcalm : happening ≠ some .crashed)
    (hlive : ∀ run, t.running = some run → run.worker.isLive = true)
    (h : t.running.isSome = true → unreadSinceStart happenings = true →
      ∃ c ∈ t.calls, c.AwaitsRead)
    (hrunning : t'.running.isSome = true)
    (hunread : unreadSinceStart (happenings ++ happening.toList) = true) :
    ∃ c ∈ t'.calls, c.AwaitsRead := by
  rcases running_move hmove horderly with ⟨rfl, -, -⟩ | ⟨-, -, hnone⟩ | ⟨hother, hsame⟩
  · exact exists_intake_of_spawned hmove
  · rw [hnone] at hrunning
    contradiction
  rw [hsame] at hrunning
  obtain ⟨hbefore, hquiet⟩ : unreadSinceStart happenings = true ∧
      ∀ state, happening ≠ some (.stateRead state) := by
    cases happening with
    | none => exact ⟨by simpa using hunread, nofun⟩
    | some x =>
        rw [Option.toList_some, unreadSinceStart_concat, Bool.or_eq_true, Bool.and_eq_true]
          at hunread
        obtain ⟨hstate, hunread⟩ :=
          hunread.resolve_left fun hspawned => hother (congrArg some (of_decide_eq_true hspawned))
        refine ⟨hunread, fun state heq => ?_⟩
        rw [Option.some.inj heq] at hstate
        contradiction
  obtain ⟨c, hc, hkind, hawaits⟩ := h hrunning hbefore
  obtain ⟨run, hsome⟩ := Option.isSome_iff_exists.mp hrunning
  obtain ⟨c', hc', -, hkind', honward⟩ :=
    exists_onward hmove horderly hattended hreading hc hkind
  have hwaits : c.stage ≠ .lifecycle ∧ ∀ r, c.stage ≠ .answered r := by
    rcases hawaits with hstage | hstage
    · rw [hstage]; exact ⟨nofun, nofun⟩
    · rw [hstage]; exact ⟨nofun, nofun⟩
  refine ⟨c', hc', hkind', ?_⟩
  generalize c'.stage = stage at honward
  -- a start leaves this window by the read itself, or by an answer that no live worker gives
  cases honward with
  | stays => exact hawaits
  | handsIn => exact Or.inr rfl
  | finds hs hstage => exact absurd hstage hwaits.1
  | spawns hs hstage => exact absurd hstage hwaits.1
  | returns r hs hstage => exact absurd hstage (hwaits.2 r)
  | served hstage hread => exact absurd hread (hquiet _)
  | refused hstage hclosed =>
      -- while the lifecycle holds tasks, their worker is live
      have hended := hclosed run hsome
      rw [hlive run hsome] at hended
      contradiction
  | dropped hstage hended =>
      rw [hended.resolve_right hcalm] at hsome
      contradiction

/-- A live worker has read the radio if a state was read since the last start. -/
theorem Recalls.hasRead {happenings : List Happening} {run : Run} (h : Recalls t happenings)
    (hread : unreadSinceStart happenings = false) (hrun : t.run = some run)
    (hlive : run.worker.isLive = true) : run.worker.firstRead? = some false := by
  have hfirst := h.firstRead run hrun
  rw [hread] at hfirst
  cases hworker : run.worker with
  | live roster firstRead =>
      rw [hworker] at hfirst
      exact congrArg some (hfirst firstRead rfl)
  | ended roster =>
      rw [hworker] at hlive
      contradiction
  | crashed =>
      rw [hworker] at hlive
      contradiction

/-! ## How starts return -/

/-- A start that returns well has been told so, or it has found tasks and leaves everything else as
it is. -/
theorem start_returned (hmove : Move t s happening t') (horderly : Orderly t)
    (hattended : Attended t log) (hreading : Reading t) (hc : c ∈ t.calls) (hkind : c.kind = .start)
    (hpending : c.isPending = true) (hdone : { c with stage := .finished .done } ∈ t'.calls) :
    s = .advance c.id ∧ t' = t.setStage c.id (.finished .done) ∧
      (c.stage = .answered .done ∨ (c.stage = .lifecycle ∧ t.running.isSome = true)) := by
  rcases onward_move hmove horderly hattended hreading hdone hkind with
    ⟨d, hd, hid, -, honward⟩ | ⟨hnew, -⟩
  · obtain rfl := horderly.enrolled.eq_of_id_eq hd hc hid
    generalize hstage' : Stage.finished .done = stage at honward
    cases honward with
    | stays =>
        have hreturned : d.stage = .finished .done := hstage'.symm
        rw [Call.isPending, hreturned] at hpending
        contradiction
    | finds hs hstage hrunning hsame => exact ⟨hs, hsame, Or.inr ⟨hstage, hrunning⟩⟩
    | returns r hs hstage hsame =>
        obtain rfl := Stage.finished.inj hstage'
        exact ⟨hs, hsame, Or.inl hstage⟩
    | _ => contradiction
  · exact absurd (horderly.enrolled.id_lt hc) (hnew ▸ Nat.lt_irrefl _)

/-- How a start has come to where it is: after `before` it has spawned tasks, and in `since` a state
was read for it if it has been told that all is well.  Nobody else has spawned tasks since, unless
it has met a stop. -/
structure Launched (t : Tracker) (steps : List Step) (c : Call) (before since : List Step) :
    Prop where
  steps_eq : steps = before ++ .advance c.id :: since
  spawned : (t.after before).happening? (.advance c.id) = some .spawned
  read : c.stage = .answered .done →
    ∃ state, .stateRead state ∈ (t.after (before ++ [.advance c.id])).trace since
  alone : MetStop t steps c.id ∨ .spawned ∉ (t.after (before ++ [.advance c.id])).trace since

/-- What happens since a start has spawned tasks is the end of all that happens. -/
theorem Launched.trace_eq {steps before since : List Step} (h : Launched t steps c before since) :
    t.trace steps =
      t.trace before ++ .spawned :: (t.after (before ++ [.advance c.id])).trace since := by
  rw [h.steps_eq, List.append_cons, trace_append, trace_concat, h.spawned, List.append_assoc]
  rfl

/-- A start that has been told that all is well vouches for what is on record. -/
theorem Launched.readSinceSpawn {steps before since : List Step}
    (h : Launched t steps c before since) (hstage : c.stage = .answered .done) :
    ReadSinceSpawn t steps c.id (lastState (t.trace steps)) := by
  obtain ⟨past, rest, hsince, hquiet⟩ :=
    exists_last_read (t.trace before ++ [.spawned]) (h.read hstage)
  refine ⟨before, since, h.steps_eq, h.spawned, past, rest, ?_, hquiet⟩
  rw [h.trace_eq, List.append_cons (t.trace before)]
  exact hsince

theorem Launched.readSinceStart {steps before since : List Step}
    (h : Launched t steps c before since) (hmet : ¬ MetStop t steps c.id)
    (hstage : c.stage = .answered .done) :
    ReadSinceStart (t.trace steps) (lastState (t.trace steps)) := by
  rw [h.trace_eq, List.append_cons]
  exact readSinceStart_of_append (h.alone.resolve_left hmet) (h.read hstage)

theorem Launched.concat {steps before since : List Step} (h : Launched t steps c before since)
    {c' : Call} (hid : c.id = c'.id) (s : Step)
    (hread : c'.stage = .answered .done →
      c.stage = .answered .done ∨ ∃ state, (t.after steps).happening? s = some (.stateRead state))
    (halone : (t.after steps).happening? s = some .spawned → MetStop t steps c.id) :
    Launched t (steps ++ [s]) c' before (since ++ [s]) := by
  have htrace : (t.after (before ++ [.advance c.id])).trace (since ++ [s]) =
      (t.after (before ++ [.advance c.id])).trace since ++
        ((t.after steps).happening? s).toList := by
    rw [trace_concat, ← after_append, ← List.append_cons, ← h.steps_eq]
  rw [hid] at htrace
  refine ⟨?_, hid ▸ h.spawned, fun hstage => ?_, ?_⟩
  · rw [h.steps_eq, hid, List.append_assoc, List.cons_append]
  · rw [htrace]
    rcases hread hstage with hbefore | ⟨state, hnow⟩
    · obtain ⟨state, hmem⟩ := h.read hbefore
      exact ⟨state, List.mem_append_left _ (hid ▸ hmem)⟩
    · exact ⟨state, List.mem_append_right _ (by simp [hnow])⟩
  · rw [htrace, List.mem_append, not_or, Option.mem_toList, ← hid]
    rcases h.alone with hmet | halone'
    · exact Or.inl (hmet.concat s)
    · by_cases hspawned : (t.after steps).happening? s = some .spawned
      · exact Or.inl ((halone hspawned).concat s)
      · exact Or.inr ⟨halone', hspawned⟩

end

section

variable (config : TrackerConfig) (radio : Radio) (clock : Int64)

/-- While the lifecycle holds tasks, the state on record was read in their run, or a start awaits
the first read of it. -/
theorem awaitsRead_after (steps : List Step)
    (hcalm : .crashed ∉ (new config radio clock).trace steps)
    (hrunning : ((new config radio clock).after steps).running.isSome = true)
    (hunread : unreadSinceStart ((new config radio clock).trace steps) = true) :
    ∃ c ∈ ((new config radio clock).after steps).calls, c.AwaitsRead := by
  induction steps using List.reverseRecOn with
  | nil => contradiction
  | append_singleton steps s ih =>
      rw [trace_concat, List.mem_append, not_or, Option.mem_toList] at hcalm
      rw [after_concat] at hrunning ⊢
      rw [trace_concat] at hunread
      exact awaitsRead_move (move_step _ s) (orderly_after config radio clock steps)
        (attended_after config radio clock steps) (reading_after config radio clock steps) hcalm.2
        (fun run => live_of_running (mirrors_of_calm config radio clock hcalm.1) rfl
          (dispatched_after config radio clock steps))
        (ih hcalm.1) hrunning hunread

/-- A start that has spawned tasks and is still to return has done so in some step. -/
theorem exists_launched (steps : List Step) :
    ∀ c ∈ ((new config radio clock).after steps).calls, c.kind = .start →
      c.stage.hasSpawned = true →
      ∃ before since, Launched (new config radio clock) steps c before since := by
  induction steps using List.reverseRecOn with
  | nil => exact nofun
  | append_singleton steps s ih =>
      have horderly := orderly_after config radio clock steps
      have hmove := move_step ((new config radio clock).after steps) s
      rw [after_concat]
      intro c' hc' hkind' hspawned'
      rcases onward_move hmove horderly (attended_after config radio clock steps)
        (reading_after config radio clock steps) hc' hkind' with
        ⟨c, hc, hid, hkind, honward⟩ | ⟨-, hnew | ⟨cause, -, hnew⟩⟩
      · have hlaunched (hspawned : c.stage.hasSpawned = true)
            (hread : c'.stage = .answered .done → c.stage = .answered .done ∨
              ∃ state, ((new config radio clock).after steps).happening? s =
                some (.stateRead state)) :
            ∃ before since, Launched (new config radio clock) (steps ++ [s]) c' before since := by
          obtain ⟨before, since, h⟩ := ih c hc hkind hspawned
          refine ⟨before, since ++ [s], h.concat hid s hread fun hspawns => ?_⟩
          -- tasks are spawned only where the lifecycle holds none
          refine (upheld_after config radio clock steps c hc hkind hspawned).resolve_left ?_
          rcases running_move hmove horderly with ⟨-, hnone, -⟩ | ⟨-, hother, -⟩ | ⟨hother, -⟩
          · simp [hnone]
          · rw [hother] at hspawns
            contradiction
          · exact absurd hspawns hother
        -- a start that has been told that all is well was told so by the read of this very step, or
        -- it had been told before
        generalize hstage' : c'.stage = stage at honward
        rw [hstage'] at hspawned'
        cases honward with
        | stays => exact hlaunched hspawned' fun hdone => Or.inl (hstage'.symm.trans hdone)
        | handsIn hstage =>
            exact hlaunched (by rw [hstage]; rfl) fun hdone => nomatch hstage'.symm.trans hdone
        | dropped hstage =>
            exact hlaunched (by rw [hstage]; rfl) fun hdone => nomatch hstage'.symm.trans hdone
        | served hstage hread =>
            exact hlaunched (by rw [hstage]; rfl) fun _ => Or.inr ⟨_, hread⟩
        | spawns hs hstage hhappens =>
            subst hs
            rw [hid] at hhappens ⊢
            exact ⟨steps, [], rfl, hhappens, fun hdone => (nomatch hstage'.symm.trans hdone),
              Or.inr nofun⟩
        | finds | refused | returns => contradiction
      · rw [hnew] at hspawned'
        contradiction
      · rw [hnew] at hspawned'
        contradiction

/-- However starts and all else are mixed, a start that returns well changes nothing else in that
step, and has come to it in one of two ways.  It has been told so by the worker: then a radio state
was read since it has spawned its tasks, and the one on record is the one read last; and where it
has met no stop, its run is still held by the lifecycle, and has read.  Or it has found the tasks of
another start: then the state on record was read in their run, unless there still is a start that
awaits the first read of it.  Before that read a start that finds tasks does return, and what is on
record is older than they are.  The source does not crash here. -/
theorem start_vouches_for_state (steps : List Step)
    (hcalm : .crashed ∉ (new config radio clock).trace steps) :
    let happenings := (new config radio clock).trace steps
    let t := (new config radio clock).after steps
    (∀ s, ∀ c ∈ t.calls, c.kind = .start → c.isPending = true →
      { c with stage := .finished .done } ∈ (t.step s).calls →
      s = .advance c.id ∧ t.step s = t.setStage c.id (.finished .done) ∧
      ((c.stage = .answered .done ∧
          ReadSinceSpawn (new config radio clock) steps c.id t.recorded ∧
          (¬ MetStop (new config radio clock) steps c.id → ReadSinceStart happenings t.recorded ∧
            ∃ run, t.running = some run ∧ run.worker.firstRead? = some false)) ∨
        (c.stage = .lifecycle ∧ t.running.isSome = true ∧
          (ReadSinceStart happenings t.recorded ∨
            ∃ d ∈ t.calls, d.id ≠ c.id ∧ d.AwaitsRead)))) ∧
    (∀ run, t.running = some run → run.worker.isLive = true ∧
      (ReadSinceStart happenings t.recorded ∨ ∃ d ∈ t.calls, d.AwaitsRead)) := by
  intro happenings t
  have horderly : Orderly t := orderly_after config radio clock steps
  have hrecalls : Recalls t happenings := recalls_after config radio clock steps
  have hlive : ∀ run, t.running = some run → run.worker.isLive = true := fun run hrunning =>
    live_of_running (mirrors_of_calm config radio clock hcalm) rfl
      (dispatched_after config radio clock steps) hrunning
  have hread : t.running.isSome = true →
      ReadSinceStart happenings t.recorded ∨ ∃ d ∈ t.calls, d.AwaitsRead := by
    intro hrunning
    cases hunread : unreadSinceStart happenings with
    | true => exact Or.inr (awaitsRead_after config radio clock steps hcalm hrunning hunread)
    | false =>
        rw [hrecalls.recorded]
        exact Or.inl (readSinceStart_lastState hunread)
  refine ⟨fun s c hc hkind hpending hdone => ?_,
    fun run hrunning => ⟨hlive run hrunning, hread (by rw [hrunning]; rfl)⟩⟩
  obtain ⟨hs, hsame, hstage | ⟨hstage, hrunning⟩⟩ := start_returned (move_step t s) horderly
    (attended_after config radio clock steps) (reading_after config radio clock steps) hc hkind
    hpending hdone
  · have hspawned : c.stage.hasSpawned = true := by rw [hstage]; rfl
    obtain ⟨before, since, h⟩ := exists_launched config radio clock steps c hc hkind hspawned
    rw [hrecalls.recorded]
    refine ⟨hs, hsame, Or.inl ⟨hstage, h.readSinceSpawn hstage, fun hmet => ?_⟩⟩
    have hrecent := h.readSinceStart hmet hstage
    obtain ⟨run, hrunning⟩ := Option.isSome_iff_exists.mp
      ((upheld_after config radio clock steps c hc hkind hspawned).resolve_right hmet)
    exact ⟨hrecent, run, hrunning, hrecalls.hasRead hrecent.unread_eq_false
      (running_eq_some_iff.mp hrunning).1 (hlive run hrunning)⟩
  · refine ⟨hs, hsame, Or.inr ⟨hstage, hrunning, (hread hrunning).imp_right ?_⟩⟩
    rintro ⟨d, hd, hawaits⟩
    refine ⟨d, hd, fun hid => ?_, hawaits⟩
    -- the start that returns has not spawned anything
    rw [horderly.enrolled.eq_of_id_eq hd hc hid] at hawaits
    rcases hawaits.2 with hasks | hasks
    · rw [hstage] at hasks
      contradiction
    · rw [hstage] at hasks
      contradiction

end

/-- Two starts at once: after the read the one that has spawned the tasks returns, and so does the
other one.  Where a stop comes in between, the first one still returns well, with nothing running.
-/
theorem start_vouches_for_state_twice :
    let config : TrackerConfig := ⟨.ofSeconds 15, .ofSeconds 10, false⟩
    let steps : List Step := [.beginStart, .beginStart, .advance 0, .advance 0, .work]
    let stopped := steps ++ [.beginStop, .advance 2, .work, .advance 2, .notify, .notify, .notify,
      .advance 2]
    let t := (new config (.new .enabled) 0).after steps
    let t' := (new config (.new .enabled) 0).after stopped
    .crashed ∉ (new config (.new .enabled) 0).trace steps ∧
    .crashed ∉ (new config (.new .enabled) 0).trace stopped ∧
    ⟨0, .start, .finished .done⟩ ∈ (t.step (.advance 0)).calls ∧
    ¬ MetStop (new config (.new .enabled) 0) steps 0 ∧
    (∃ run, t.running = some run ∧ run.worker.firstRead? = some false) ∧
    ⟨1, .start, .finished .done⟩ ∈ (t.step (.advance 1)).calls ∧
    ReadSinceStart ((new config (.new .enabled) 0).trace steps) t.recorded ∧
    ⟨0, .start, .finished .done⟩ ∈ (t'.step (.advance 0)).calls ∧ t'.run = none ∧
    ReadSinceSpawn (new config (.new .enabled) 0) stopped 0 t'.recorded := by
  intro config steps stopped t t'
  have hcalm : .crashed ∉ (new config (.new .enabled) 0).trace steps := by decide +kernel
  have hcalm' : .crashed ∉ (new config (.new .enabled) 0).trace stopped := by decide +kernel
  have hfirst : ⟨0, .start, .finished .done⟩ ∈ (t.step (.advance 0)).calls := by decide +kernel
  have hsecond : ⟨1, .start, .finished .done⟩ ∈ (t.step (.advance 1)).calls := by decide +kernel
  have hlate : ⟨0, .start, .finished .done⟩ ∈ (t'.step (.advance 0)).calls := by decide +kernel
  have hmet : ¬ MetStop (new config (.new .enabled) 0) steps 0 := by
    rintro ⟨before, hprefix, -, d, hd, hstop, -⟩
    have hstarts : ∀ before ∈ steps.inits,
        ∀ d ∈ ((new config (.new .enabled) 0).after before).calls, d.kind ≠ .stop := by
      decide +kernel
    exact hstarts before ((List.mem_inits ..).mpr hprefix) d hd hstop
  obtain ⟨hreturns, -⟩ := start_vouches_for_state config (.new .enabled) 0 steps hcalm
  obtain ⟨hreturns', -⟩ := start_vouches_for_state config (.new .enabled) 0 stopped hcalm'
  have htold := (hreturns (.advance 0) ⟨0, .start, .answered .done⟩ (by decide +kernel) rfl rfl
    hfirst).2.2.resolve_right nofun
  have hfound := (hreturns (.advance 1) ⟨1, .start, .lifecycle⟩ (by decide +kernel) rfl rfl
    hsecond).2.2.resolve_left nofun
  have htold' := (hreturns' (.advance 0) ⟨0, .start, .answered .done⟩ (by decide +kernel) rfl rfl
    hlate).2.2.resolve_right nofun
  -- no start awaits a read any more
  have hnone : ∀ d ∈ t.calls, d.stage ≠ .intake .radioState ∧ d.stage ≠ .answer := by
    decide +kernel
  have hread := hfound.2.2.resolve_right fun ⟨d, hd, _, _, hawaits⟩ =>
    hawaits.elim (hnone d hd).1 (hnone d hd).2
  exact ⟨hcalm, hcalm', hfirst, hmet, (htold.2.2 hmet).2, hsecond, hread, hlate, by decide +kernel,
    htold'.2.1⟩

/-- Between the tasks and their first read, a start returns well with nothing read at all. -/
theorem start_returns_unread :
    let config : TrackerConfig := ⟨.ofSeconds 15, .ofSeconds 10, false⟩
    let steps : List Step := [.beginStart, .beginStart, .advance 0, .advance 1]
    let t := (new config (.new .enabled) 0).after steps
    config.validate = .ok () ∧ (new config (.new .enabled) 0).trace steps = [.spawned] ∧
    (∀ c ∈ t.calls, c.kind = .start) ∧ ⟨1, .start, .finished .done⟩ ∈ t.calls ∧
    t.isRunning = true ∧ t.radio.state = .enabled ∧ t.recorded = .unknown := by
  decide +kernel

end Tracker

end ScanRoster
