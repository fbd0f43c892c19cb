import Mathlib.Data.List.Induction
import ScanRoster.Proofs.Tracker.Course
import ScanRoster.Proofs.Tracker.Progress
import ScanRoster.Proofs.Tracker.Refinement

/-!
# One roster under many starts and stops

Starts and stops may come from many callers and overlap at every point where they wait.  The roster
goes from the lifecycle to the worker of a run and back, and at each moment it is in one of these
places and never in both, so that no run ever begins with another roster while one is in use.  A
start lets go of the lifecycle before it reads the radio state, and so a stop can come in between:
then, and only then, the start is told that the tracker was stopped.
-/

namespace ScanRoster.Tracker

/-! ## Where the roster is -/

/-- The rosters that there are: one that is parked, and one that a worker has.  What a worker leaves
behind at its end is still its own until the stop that waits for it has parked it. -/
def rosters (t : Tracker) : List Roster :=
  t.parked.toList ++
    match t.run with
    | none => []
    | some run =>
      match run.worker with
      | .live roster _ => [roster]
      | .ended roster => if .helpers ∈ t.held then [] else [roster]
      | .crashed => []

section

variable {policy : AgePolicy} {t t' : Tracker} {r : Reference} {run : Run} {log : List Delivery}

theorem rosters_of_run (hrun : t.run = some run) (hparked : t.parked = none)
    (hheld : Stage.helpers ∉ t.held) : t.rosters = run.worker.roster?.toList := by
  simp only [rosters, hrun, hparked]
  cases run.worker <;> simp [Worker.roster?, hheld]

/-- Unless a crash has lost it, there is one roster, and it is that of the reference store. -/
theorem rosters_eq (horderly : Orderly t) (hmirrors : Mirrors policy t r) (hlost : r.lost = false) :
    t.rosters = [r.store.roster] := by
  have hroster : r.roster? = some r.store.roster := Reference.roster?_eq_some_iff.mpr ⟨hlost, rfl⟩
  have hworking : ∀ {live : Bool} {cancelled : Bool} {stage : List Stage}, t.held = stage →
      .helpers ∉ stage → t.run.map Run.outline = some (cancelled, live) →
      t.parked.isSome = false → t.rosters = [r.store.roster] := by
    intro live cancelled stage hheld hhelpers houtline hparked
    obtain ⟨run, hrun, -⟩ := Option.map_eq_some_iff.mp houtline
    rw [rosters_of_run hrun (by simpa using hparked) (hheld ▸ hhelpers), hmirrors.worker run hrun,
      hroster]
    rfl
  cases horderly.phase with
  | stopped hheld hrun hparked =>
      obtain ⟨roster, hsome⟩ := Option.isSome_iff_exists.mp hparked
      have heq := hmirrors.parked roster hsome
      rw [hroster, Option.getD_some] at heq
      rw [rosters, hsome, Option.map_eq_none_iff.mp hrun, heq]
      rfl
  | running live hheld hrun hparked => exact hworking hheld (by simp) hrun hparked
  | stopping live hheld hrun hparked => exact hworking hheld (by simp) hrun hparked
  | closing hheld houtline hparked =>
      obtain ⟨run, hrun, hstate⟩ := Option.map_eq_some_iff.mp houtline
      obtain ⟨roster, hsome⟩ := Option.isSome_iff_exists.mp hparked
      have heq := hmirrors.parked roster hsome
      rw [hroster, Option.getD_some] at heq
      have hended : run.worker.isLive = false := congrArg Prod.snd hstate
      -- the worker of the run has handed its roster over
      have hhanded : t.rosters = [roster] := by
        unfold rosters
        rw [hsome, hrun]
        cases hworker : run.worker with
        | live roster firstRead =>
            rw [hworker] at hended
            contradiction
        | ended roster => simp [hworker, hheld]
        | crashed => simp [hworker]
      rw [hhanded, heq]

/-- While the lifecycle holds the tasks, their worker is live, unless the source has crashed. -/
theorem live_of_running (hmirrors : Mirrors policy t r) (hlost : r.lost = false)
    (hdispatched : Dispatched t log) (hrunning : t.running = some run) :
    run.worker.isLive = true := by
  obtain ⟨hrun, hcancelled⟩ := running_eq_some_iff.mp hrunning
  cases hworker : run.worker with
  | live roster firstRead => rfl
  | ended roster =>
      have hended := (hdispatched.queued run hrun).cancelled roster hworker
      rw [hcancelled] at hended
      contradiction
  | crashed =>
      have hroster := hmirrors.worker run hrun
      rw [hworker] at hroster
      exact nomatch hroster.trans (Reference.roster?_eq_some_iff.mpr ⟨hlost, rfl⟩)

/-- Where no roster is parked, there is a run, and its worker is live, unless a stop waits for it
and is to park what it has left behind. -/
theorem live_of_parked_eq_none (hphase : Phase t) (hmirrors : Mirrors policy t r)
    (hlost : r.lost = false) (hdispatched : Dispatched t log) (hparked : t.parked = none) :
    ∃ run, t.run = some run ∧ (run.worker.isLive = true ∨ Stage.worker ∈ t.held) := by
  cases hphase with
  | stopped _ _ hsome =>
      rw [hparked] at hsome
      contradiction
  | running live _ houtline =>
      obtain ⟨run, hrun, hstate⟩ := Option.map_eq_some_iff.mp houtline
      have hrunning := running_eq_some_iff.mpr ⟨hrun, congrArg Prod.fst hstate⟩
      exact ⟨run, hrun, Or.inl (live_of_running hmirrors hlost hdispatched hrunning)⟩
  | stopping live hheld houtline =>
      obtain ⟨run, hrun, -⟩ := Option.map_eq_some_iff.mp houtline
      exact ⟨run, hrun, Or.inr (hheld ▸ List.mem_singleton_self _)⟩
  | closing _ _ hsome =>
      rw [hparked] at hsome
      contradiction

/-- Where no call holds the lifecycle, signals are taken exactly while it holds the tasks, and then
nothing is parked. -/
theorem isRunning_of_free (hphase : Phase t) (hfree : t.held = []) :
    t.isRunning = t.running.isSome ∧ t.running.isSome = t.parked.isNone := by
  cases hphase with
  | stopped _ hrun hparked hintake =>
      have hnone : t.running = none := by
        rw [running, Option.map_eq_none_iff.mp hrun]
        rfl
      rw [isRunning, hintake, hnone, ← Option.not_isSome, hparked]
      exact ⟨rfl, rfl⟩
  | running live _ houtline hparked hintake =>
      obtain ⟨run, hrun, hstate⟩ := Option.map_eq_some_iff.mp houtline
      have hsome : t.running = some run :=
        running_eq_some_iff.mpr ⟨hrun, congrArg Prod.fst hstate⟩
      rw [isRunning, hintake, hsome, ← Option.not_isSome, hparked]
      exact ⟨rfl, rfl⟩
  | stopping _ hheld =>
      rw [hfree] at hheld
      contradiction
  | closing hheld =>
      rw [hfree] at hheld
      contradiction

theorem held_eq_nil_of_finished (h : ∀ c ∈ t.calls, ∃ r, c.stage = .finished r) : t.held = [] := by
  refine List.filter_eq_nil_iff.mpr fun stage hstage => ?_
  obtain ⟨c, hc, rfl⟩ := List.mem_map.mp hstage
  obtain ⟨r, hfinished⟩ := h c hc
  rw [hfinished]
  exact Bool.false_ne_true

end

/-! ## How a start returns -/

/-- Whether a stop was under way at a time when a call was. -/
def MetStop (t : Tracker) (steps : List Step) (id : Nat) : Prop :=
  ∃ before, before <+: steps ∧
    (∃ c ∈ (t.after before).calls, c.id = id ∧ c.isPending = true) ∧
    ∃ d ∈ (t.after before).calls, d.kind = .stop ∧ d.isPending = true

/-- A start that has spawned tasks and is still to return has them held by the lifecycle, or it has
met a stop. -/
def Upheld (t : Tracker) (met : Nat → Prop) (c : Call) : Prop :=
  c.stage.hasSpawned = true → t.running.isSome = true ∨ met c.id

/-- A start that has been told anything was told that all is well, or it has met a stop. -/
def Excused (met : Nat → Prop) (c : Call) : Prop :=
  ∀ r, c.stage.result? = some r → r = .done ∨ (r = .failed .stopped ∧ met c.id)

section

variable {t t' : Tracker} {met met' : Nat → Prop} {s : Step} {happening : Option Happening}
  {log : List Delivery}

theorem upheld_move (hmove : Move t s happening t') (horderly : Orderly t)
    (hattended : Attended t log) (hreading : Reading t) (hmet : ∀ id, met id → met' id)
    (hmeets : ∀ c ∈ t.calls, c.isPending = true → ∀ d ∈ t.calls, d.kind = .stop →
      d.isPending = true → met' c.id)
    (h : ∀ c ∈ t.calls, c.kind = .start → Upheld t met c) :
    ∀ c ∈ t'.calls, c.kind = .start → Upheld t' met' c := by
  intro c' hc' hkind' hspawned'
  rcases onward_move hmove horderly hattended hreading hc' hkind' with
    ⟨c, hc, hid, hkind, honward⟩ | ⟨-, hnew | ⟨cause, -, hnew⟩⟩
  · rw [← hid]
    rcases running_move hmove horderly with
      ⟨-, -, hrunning⟩ | ⟨⟨d, hd, hstop, hpending⟩, hnone, -⟩ | ⟨hother, hsame⟩
    · exact Or.inl hrunning
    · -- a stop is under way, and so a start that has spawned its tasks before has met it
      have hspawned := (honward.hasSpawned hspawned').resolve_right fun hs => by
        rw [hnone] at hs
        exact nomatch hs.2
      exact Or.inr (hmeets c hc (Call.isPending_of_hasSpawned hspawned) d hd hstop hpending)
    · have hspawned := (honward.hasSpawned hspawned').resolve_right fun hs => hother hs.2
      rw [hsame]
      exact (h c hc hkind hspawned).imp_right (hmet _)
  · rw [hnew] at hspawned'
    contradiction
  · rw [hnew] at hspawned'
    contradiction

theorem excused_move (hmove : Move t s happening t') (horderly : Orderly t)
    (hattended : Attended t log) (hreading : Reading t) (hcalm : happening ≠ some .crashed)
    (hlive : ∀ run, t.running = some run → run.worker.isLive = true)
    (hvalid : t.config.validate = .ok ()) (hmet : ∀ id, met id → met' id)
    (hupheld : ∀ c ∈ t.calls, c.kind = .start → Upheld t met c)
    (h : ∀ c ∈ t.calls, c.kind = .start → Excused met c) :
    ∀ c ∈ t'.calls, c.kind = .start → Excused met' c := by
  intro c' hc' hkind' r hresult
  rcases onward_move hmove horderly hattended hreading hc' hkind' with
    ⟨c, hc, hid, hkind, honward⟩ | ⟨-, hnew | ⟨cause, hinvalid, -⟩⟩
  · rw [← hid]
    have htold : c.stage.result? = some r → r = .done ∨ (r = .failed .stopped ∧ met' c.id) :=
      fun hbefore => (h c hc hkind r hbefore).imp_right fun hfailed => ⟨hfailed.1, hmet _ hfailed.2⟩
    generalize c'.stage = stage at honward hresult
    cases honward with
    | stays => exact htold hresult
    | finds => exact Or.inl (Option.some.inj hresult).symm
    | served => exact Or.inl (Option.some.inj hresult).symm
    | returns r' hs hstage =>
        refine htold ?_
        rw [hstage]
        exact hresult
    | refused hstage hclosed =>
        refine Or.inr ⟨(Option.some.inj hresult).symm, hmet _ ?_⟩
        refine (hupheld c hc hkind (by rw [hstage]; rfl)).resolve_left fun hrunning => ?_
        -- while the lifecycle holds tasks, no signal of a call is refused
        obtain ⟨run, hsome⟩ := Option.isSome_iff_exists.mp hrunning
        have hended := hclosed run hsome
        rw [hlive run hsome] at hended
        contradiction
    | dropped hstage hended =>
        refine Or.inr ⟨(Option.some.inj hresult).symm, hmet _ ?_⟩
        refine (hupheld c hc hkind (by rw [hstage]; rfl)).resolve_left fun hrunning => ?_
        -- nor is one dropped
        rw [hended.resolve_right hcalm] at hrunning
        contradiction
    | spawns | handsIn => contradiction
  · rw [hnew] at hresult
    contradiction
  · exact absurd hvalid hinvalid

theorem config_step (t : Tracker) (s : Step) : (t.step s).config = t.config := by
  have hmove := move_step t s
  generalize t.happening? s = happening at hmove
  generalize t.step s = t' at hmove ⊢
  cases hmove <;> rfl

theorem config_after (t : Tracker) (steps : List Step) : (t.after steps).config = t.config := by
  induction steps using List.reverseRecOn with
  | nil => rfl
  | append_singleton steps s ih => rw [after_concat, config_step, ih]

theorem MetStop.concat {steps : List Step} {id : Nat} (h : MetStop t steps id) (s : Step) :
    MetStop t (steps ++ [s]) id := by
  obtain ⟨before, hprefix, hmeet⟩ := h
  exact ⟨before, hprefix.trans (List.prefix_append ..), hmeet⟩

end

section

variable (config : TrackerConfig) (radio : Radio) (clock : Int64)

/-- Without a crash of the source the reference store never loses its roster. -/
theorem mirrors_of_calm {steps : List Step}
    (hcalm : .crashed ∉ (new config radio clock).trace steps) :
    Mirrors config.policy ((new config radio clock).after steps)
      ⟨(Store.empty config.policy).ingestAll
        (Reference.cyclesOf ((new config radio clock).trace steps)), false⟩ := by
  rw [← Reference.of_eq_ingestAll hcalm]
  exact mirrors_after config radio clock steps

theorem upheld_after (steps : List Step) :
    ∀ c ∈ ((new config radio clock).after steps).calls, c.kind = .start →
      Upheld ((new config radio clock).after steps)
        (MetStop (new config radio clock) steps) c := by
  induction steps using List.reverseRecOn with
  | nil => exact nofun
  | append_singleton steps s ih =>
      rw [after_concat]
      exact upheld_move (move_step _ s) (orderly_after config radio clock steps)
        (attended_after config radio clock steps) (reading_after config radio clock steps)
        (fun id hmet => hmet.concat s)
        (fun c hc hpending d hd hkind hstop =>
          ⟨steps, List.prefix_append .., ⟨c, hc, rfl, hpending⟩, d, hd, hkind, hstop⟩)
        ih

/-- Every start returns well, or it has met a stop. -/
theorem excused_after (hvalid : config.validate = .ok ()) (steps : List Step)
    (hcalm : .crashed ∉ (new config radio clock).trace steps) :
    ∀ c ∈ ((new config radio clock).after steps).calls, c.kind = .start →
      Excused (MetStop (new config radio clock) steps) c := by
  induction steps using List.reverseRecOn with
  | nil => exact nofun
  | append_singleton steps s ih =>
      rw [trace_concat, List.mem_append, not_or, Option.mem_toList] at hcalm
      rw [after_concat]
      have hdispatched := dispatched_after config radio clock steps
      refine excused_move (move_step _ s) (orderly_after config radio clock steps)
        (attended_after config radio clock steps) (reading_after config radio clock steps) hcalm.2
        ?_ ?_ (fun id hmet => hmet.concat s) (upheld_after config radio clock steps) (ih hcalm.1)
      · exact fun run hrunning =>
          live_of_running (mirrors_of_calm config radio clock hcalm.1) rfl hdispatched hrunning
      · rw [config_after]
        exact hvalid

/-- However many starts and stops there are, and however they and the tasks are mixed, there is one
roster at every moment, parked or with a worker, which is live or has just ended for a stop that is
to park the roster.  There is one worker at most: a start spawns tasks only where none are left, and
gives them the roster that is parked.  It is the roster of a store that has taken in every scan
since the beginning, so no empty one ever takes its place, and entries, their order and the version
of the feed stay as they are through any restarts.  All starts and stops return once every call and
every task has had enough turns; a start returns well, or it tells that the tracker was stopped, and
then a stop was under way at a time when the start was.  Where no call is under way, the tracker
says that it is running exactly if the lifecycle holds tasks, and exactly if nothing is parked.  The
configuration is valid here, and the source does not crash. -/
theorem one_roster_survives_restarts (hvalid : config.validate = .ok ()) (steps : List Step)
    (hcalm : .crashed ∉ (new config radio clock).trace steps) :
    let t := (new config radio clock).after steps
    let s := (Store.empty config.policy).ingestAll
      (Reference.cyclesOf ((new config radio clock).trace steps))
    (t.rosters = [s.roster] ∧ t.feed = s.feed) ∧
    (t.parked = none →
      ∃ run, t.run = some run ∧ (run.worker.isLive = true ∨ Stage.worker ∈ t.held)) ∧
    (∀ run, t.running = some run → run.worker.isLive = true ∧ t.parked = none) ∧
    (∀ step, t.happening? step = some .spawned → t.run = none ∧ t.parked = some s.roster) ∧
    (∀ later, .crashed ∉ t.trace later → Reference.cyclesOf (t.trace later) = [] →
      (t.after later).rosters = t.rosters ∧ (t.after later).feed = t.feed) ∧
    (∀ rounds : List (List Step), (∀ r ∈ rounds, Round t r) → t.potential ≤ rounds.length →
      ∀ c ∈ (t.after rounds.flatten).calls, c.kind ≠ .signal → ∃ r, c.stage = .finished r) ∧
    (∀ c ∈ t.calls, c.kind = .start → ∀ r, c.stage = .finished r →
      r = .done ∨ (r = .failed .stopped ∧ MetStop (new config radio clock) steps c.id)) ∧
    ((∀ c ∈ t.calls, ∃ r, c.stage = .finished r) →
      t.isRunning = t.running.isSome ∧ t.running.isSome = t.parked.isNone) := by
  intro t s
  have horderly : Orderly t := orderly_after config radio clock steps
  have hmirrors : Mirrors config.policy t ⟨s, false⟩ := mirrors_of_calm config radio clock hcalm
  have hrosters : t.rosters = [s.roster] := rosters_eq horderly hmirrors rfl
  have hdispatched := dispatched_after config radio clock steps
  refine ⟨⟨hrosters, hmirrors.feed⟩, fun hparked => ?_, fun run hrunning => ?_,
    fun step hspawned => ?_, fun later hlater hnone => ?_, fun rounds hrounds henough => ?_,
    fun c hc hkind r hfinished => ?_, fun hreturned => ?_⟩
  · exact live_of_parked_eq_none horderly.phase hmirrors rfl hdispatched hparked
  · have hlive := live_of_running hmirrors rfl hdispatched hrunning
    exact ⟨hlive, horderly.phase.of_live (running_eq_some_iff.mp hrunning).1 hlive⟩
  · have hmove := move_step t step
    rw [hspawned] at hmove
    generalize t.step step = t' at hmove
    cases hmove with
    | spawned c hc hkind hstage hfree hrunning =>
        obtain ⟨hrun, hparked⟩ :=
          horderly.phase.of_not_running (lifecycleHeld_eq_false_iff.mp hfree) hrunning
        obtain ⟨roster, hsome⟩ := Option.isSome_iff_exists.mp hparked
        rw [rosters, hrun, hsome] at hrosters
        exact ⟨hrun, hsome.trans (congrArg some (List.cons.inj hrosters).1)⟩
  · have hall : .crashed ∉ (new config radio clock).trace (steps ++ later) := by
      rw [trace_append, List.mem_append, not_or]
      exact ⟨hcalm, hlater⟩
    have hmirrors' := mirrors_of_calm config radio clock hall
    have horderly' := orderly_after config radio clock (steps ++ later)
    -- nothing was taken in since
    rw [trace_append, Reference.cyclesOf_append, hnone, List.append_nil] at hmirrors'
    rw [after_append] at hmirrors' horderly'
    exact ⟨(rosters_eq horderly' hmirrors' rfl).trans hrosters.symm,
      hmirrors'.feed.trans hmirrors.feed.symm⟩
  · exact finished_after_rounds config radio clock steps hrounds henough
  · exact excused_after config radio clock hvalid steps hcalm c hc hkind r (by rw [hfinished]; rfl)
  · exact isRunning_of_free horderly.phase (held_eq_nil_of_finished hreturned)

end

/-- After a scan and a stop, another stop comes between a start and its radio signal. -/
theorem one_roster_survives_restarts_overlapped :
    let config : TrackerConfig := ⟨.ofSeconds 15, .ofSeconds 10, false⟩
    let radio := (Radio.new .enabled).setScan [⟨some "Cafe", "a", "[WPA2-PSK]", 0, none, none⟩]
    let steps : List Step := [.beginStart, .advance 0, .advance 0, .work, .advance 0,
      .send (.scanResults true), .work, .beginStop, .advance 1, .work, .advance 1, .notify, .notify,
      .notify, .notify, .notify, .advance 1, .beginStart, .beginStop, .advance 2, .advance 3,
      .advance 2]
    let t := (new config radio 0).after steps
    config.validate = .ok () ∧ .crashed ∉ (new config radio 0).trace steps ∧
    t.rosters.map (·.entries.length) = [1] ∧ t.entries.length = 1 ∧ t.feed.version = 1 ∧
    ⟨2, .start, .finished (.failed .stopped)⟩ ∈ t.calls ∧
    MetStop (new config radio 0) steps 2 := by
  intro config radio steps t
  have hvalid : config.validate = .ok () := by rfl
  have hcalm : .crashed ∉ (new config radio 0).trace steps := by decide +kernel
  have hstart : ⟨2, .start, .finished (.failed .stopped)⟩ ∈ t.calls := by decide +kernel
  obtain ⟨-, -, -, -, -, -, hreturns, -⟩ :=
    one_roster_survives_restarts config radio 0 hvalid steps hcalm
  have hmet := (hreturns _ hstart rfl _ rfl).resolve_left nofun
  exact ⟨hvalid, hcalm, by decide +kernel, by decide +kernel, by decide +kernel, hstart, hmet.2⟩

end ScanRoster.Tracker
