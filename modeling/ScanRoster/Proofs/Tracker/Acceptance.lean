import ScanRoster.Proofs.Tracker.FirstRead

/-!
# Which trackers accept signals

A tracker says that it is running while its lifecycle holds tasks.  That its worker has crashed is
noticed only by the stop that waits for it: until then the tracker is still running, but nobody
takes its signals.  So a signal is accepted exactly where the tracker is running and the source has
not crashed since the tasks were spawned.
-/

namespace ScanRoster

open Delivery

/-- Whether the source has crashed since the last start. -/
def crashedSinceStart (happenings : List Happening) : Bool :=
  (happenings.reverse.takeWhile (· ≠ .spawned)).any (· = .crashed)

theorem crashedSinceStart_concat (happenings : List Happening) (x : Happening) :
    crashedSinceStart (happenings ++ [x]) =
      (decide (x = .crashed) || (decide (x ≠ .spawned) && crashedSinceStart happenings)) := by
  unfold crashedSinceStart
  rw [List.reverse_concat, List.takeWhile_cons]
  by_cases hspawned : x = .spawned
  · simp [hspawned]
  · simp [hspawned]

/-- Where a call with a signal can be, if its signal is accepted, and if it is not. -/
def Call.Fated (accepted : Prop) (c : Call) : Prop :=
  match c.stage with
  | .intake _ => True
  | .answer | .answered (.outcome _) | .finished (.outcome _) => accepted
  | .answered (.failed e) | .finished (.failed e) => e = .stopped ∧ ¬ accepted
  | _ => False

theorem Call.finished_of_not_pending {c : Call} (h : c.isPending = false) :
    ∃ r, c.stage = .finished r := by
  unfold Call.isPending at h
  split at h
  · rename_i r hfinished
    exact ⟨r, hfinished⟩
  · contradiction

theorem Call.Fated.result {accepted : Prop} {c : Call} (h : c.Fated accepted) {r : CallResult}
    (hfinished : c.stage = .finished r) :
    (accepted ∧ ∃ o, r = .outcome o) ∨ (¬ accepted ∧ r = .failed .stopped) := by
  rw [Call.Fated, hfinished] at h
  cases r with
  | done => contradiction
  | outcome o => exact Or.inl ⟨h, o, rfl⟩
  | failed e =>
      obtain ⟨rfl, hrefused⟩ := h
      exact Or.inr ⟨hrefused, rfl⟩

namespace Tracker

/-- No start and no stop is under way. -/
def Idle (t : Tracker) : Prop :=
  ∀ c ∈ t.calls, c.kind ≠ .signal → ∃ r, c.stage = .finished r

/-- Whether there is a run that takes signals: no stop has come to it, and its worker is live. -/
def Accepting (t : Tracker) : Prop :=
  t.run.map Run.outline = some (false, true)

section

variable {t t' : Tracker} {s : Step} {happening : Option Happening} {run : Run}

theorem accepting_iff :
    t.Accepting ↔ ∃ run, t.running = some run ∧ run.worker.isLive = true := by
  simp [Accepting, Option.map_eq_some_iff, running_eq_some_iff, Run.outline, and_assoc]

theorem accepting_congr (houtline : t'.run.map Run.outline = t.run.map Run.outline) :
    t'.Accepting ↔ t.Accepting := by
  rw [Accepting, Accepting, houtline]

/-- Where no start and no stop is under way, nobody holds the lifecycle. -/
theorem Idle.held_eq_nil (h : Idle t) (henrolled : Enrolled t) : t.held = [] := by
  refine List.filter_eq_nil_iff.mpr fun stage hstage hholds => ?_
  obtain ⟨c, hc, rfl⟩ := List.mem_map.mp hstage
  obtain ⟨r, hfinished⟩ := h c hc (by rw [henrolled.kind_of_holds hc hholds]; exact nofun)
  rw [hfinished] at hholds
  contradiction

/-- Nor is there a run that a stop has come to. -/
theorem Idle.not_cancelled (h : Idle t) (horderly : Orderly t) (hrun : t.run = some run) :
    run.cancelled = false := by
  by_contra hcancelled
  rw [Bool.not_eq_false] at hcancelled
  have hnone : t.running = none := running_eq_none_iff.mpr fun run' hrun' => by
    rw [← Option.some.inj (hrun.symm.trans hrun')]
    exact hcancelled
  rw [(horderly.phase.of_not_running (h.held_eq_nil horderly.enrolled) hnone).1] at hrun
  contradiction

/-- A call that has still to return is one with a signal. -/
theorem Idle.kind_eq {c : Call} (h : Idle t) (hc : c ∈ t.calls)
    (hstage : ∀ r, c.stage ≠ .finished r) : c.kind = .signal := by
  by_contra hkind
  obtain ⟨r, hfinished⟩ := h c hc hkind
  exact hstage r hfinished

/-- As long as no start and no stop comes, none is under way. -/
theorem idle_step {log : List Delivery} (h : Idle t) (horderly : Orderly t)
    (hattended : Attended t log) (hinside : s.entersLifecycle = false) : Idle (t.step s) := by
  have hturn := turn_move (move_step t s)
  intro c hc hkind
  generalize (t.step s).calls = calls at hturn hc
  cases hturn with
  | rests => exact h c hc hkind
  | comes kind stage hsignal =>
      rcases List.mem_append.mp hc with hold | hlast
      · exact h c hold hkind
      · obtain rfl := List.mem_singleton.mp hlast
        exact absurd (hsignal hinside) hkind
  | goesOn d stage hd hgoes =>
      rcases horderly.enrolled.mem_setStage rfl hd hc with hold | rfl
      · exact h c hold hkind
      · refine absurd (h.kind_eq hd fun r hfinished => ?_) hkind
        rw [hfinished] at hgoes
        exact nomatch (hgoes r rfl).1
  | answers es r hes =>
      obtain ⟨d, hd, rfl⟩ := List.mem_map.mp hc
      split at hkind
      · -- who waits for an answer is no start and no stop
        rename_i hasked
        have hstage := hattended.stage_of_mem_callers hd hes (any_caller_iff.mp hasked)
        exact absurd (h.kind_eq hd (by rw [hstage]; exact nofun)) hkind
      · rename_i hasked
        rw [if_neg hasked]
        exact h d hd hkind

/-- Whether signals are accepted stays as it is while no start and no stop is under way and the
source does not crash. -/
theorem accepting_move (hmove : Move t s happening t') (h : Idle t) (horderly : Orderly t)
    (hcalm : happening ≠ some .crashed) : t'.Accepting ↔ t.Accepting := by
  -- all that goes on inside the run keeps its outline; the moves that do not are those of starts
  -- and stops, and no such call has a turn
  have hpast : ∀ {c : Call}, c ∈ t.calls → c.stage = .lifecycle → c.kind = .signal :=
    fun hc hstage => h.kind_eq hc (by rw [hstage]; exact nofun)
  cases hmove with
  | spawned c hc hkind hstage =>
      rw [hpast hc hstage] at hkind
      contradiction
  | cancelled c run hc hkind hstage =>
      rw [hpast hc hstage] at hkind
      contradiction
  | parked => exact accepting_congr rfl
  | stopped c run hc hstage =>
      have hmem : Stage.helpers ∈ t.held := hstage ▸ stage_mem_held hc (by rw [hstage]; rfl)
      rw [h.held_eq_nil horderly.enrolled] at hmem
      contradiction
  | queued c run signal hc hstage hintake hrun => exact accepting_congr (by rw [hrun]; rfl)
  | lined c run signal hc hstage hintake hrun => exact accepting_congr (by rw [hrun]; rfl)
  | sent signal run hintake hrun => exact accepting_congr (by rw [hrun]; rfl)
  | ended run roster firstRead hrun hworker hcancelled =>
      rw [h.not_cancelled horderly hrun] at hcancelled
      contradiction
  | crashed => exact absurd rfl hcalm
  | stateRead run e rest roster firstRead hrun hworker =>
      exact accepting_congr (by rw [hrun, Option.map_some, Run.outline, hworker]; rfl)
  | scanMissed run e rest roster firstRead updated hrun hworker =>
      exact accepting_congr (by rw [hrun, Option.map_some, Run.outline, hworker]; rfl)
  | scanTaken run e rest roster firstRead updated sightings c hrun hworker =>
      exact accepting_congr (by rw [hrun, Option.map_some, Run.outline, hworker]; rfl)
  | callbackCrashed run n rest hrun => exact accepting_congr (by rw [hrun]; rfl)
  | called run n rest hrun => exact accepting_congr (by rw [hrun]; rfl)
  | broadcast run n hrun => exact accepting_congr (by rw [hrun]; rfl)
  | notifierEnded run hrun => exact accepting_congr (by rw [hrun]; rfl)
  | world => exact accepting_congr (by rw [Option.map_map]; rfl)
  | _ => exact Iff.rfl

/-- A call with a signal goes the way that it is to go. -/
theorem fated_move {id : Nat} (hmove : Move t s happening t') (h : Idle t) (horderly : Orderly t)
    (hcalm : happening ≠ some .crashed)
    (hfated : ∃ c ∈ t.calls, c.id = id ∧ c.kind = .signal ∧ c.Fated t.Accepting) :
    ∃ c ∈ t'.calls, c.id = id ∧ c.kind = .signal ∧ c.Fated t.Accepting := by
  obtain ⟨c, hc, rfl, hkind, hfate⟩ := hfated
  have hmoved : ∀ {u : Tracker} {d : Call} {stage : Stage}, u.calls = t.calls → d ∈ t.calls →
      (d.kind = .signal → d.Fated t.Accepting → Call.Fated t.Accepting { d with stage }) →
      ∃ c' ∈ (u.setStage d.id stage).calls, c'.id = c.id ∧ c'.kind = .signal ∧
        c'.Fated t.Accepting := by
    intro u d stage hcalls hd hgoes
    by_cases hid : c.id = d.id
    · obtain rfl := horderly.enrolled.eq_of_id_eq hc hd hid
      refine ⟨_, List.mem_map_of_mem (hcalls ▸ hc), ?_⟩
      rw [if_pos rfl]
      exact ⟨rfl, hkind, hgoes hkind hfate⟩
    · exact ⟨c, mem_setStage_of_ne (hcalls ▸ hc) hid stage, rfl, hkind, hfate⟩
  have hanswered : ∀ {u : Tracker} {es : List Envelope} {o : SignalOutcome}, u.calls = t.calls →
      t.Accepting → ∃ c' ∈ (u.answer es (.ok o)).calls, c'.id = c.id ∧ c'.kind = .signal ∧
        c'.Fated t.Accepting := by
    intro u es o hcalls haccepting
    refine ⟨_, List.mem_map_of_mem (hcalls ▸ hc), ?_⟩
    split
    · have hstage : (c.answered (.ok o)).stage = .answered (.outcome o) := by
        simp [Call.answered, hkind]
      refine ⟨rfl, hkind, ?_⟩
      rw [Call.Fated, hstage]
      exact haccepting
    · exact ⟨rfl, hkind, hfate⟩
  -- whoever takes a signal, or answers one with an outcome, is the worker of a run that accepts
  have hlet : ∀ {run : Run}, t.run = some run → run.worker.isLive = true → t.Accepting :=
    fun hrun hlive => accepting_iff.mpr
      ⟨_, running_eq_some_iff.mpr ⟨hrun, h.not_cancelled horderly hrun⟩, hlive⟩
  cases hmove with
  | begun => exact ⟨c, List.mem_append_left _ hc, rfl, hkind, hfate⟩
  | left d r hd hstage hidle hrefused hdelivered hdone hclosed =>
      rcases hstage with hstage | ⟨signal, hstage⟩
      · refine hmoved rfl hd fun _ hfated => ?_
        rw [Call.Fated, hstage] at hfated
        contradiction
      · refine hmoved rfl hd fun _ _ => ?_
        rw [hrefused signal hstage]
        refine ⟨rfl, fun haccepting => ?_⟩
        obtain ⟨run, hrunning, hlive⟩ := accepting_iff.mp haccepting
        obtain ⟨hrun, hcancelled⟩ := running_eq_some_iff.mp hrunning
        have hintake := (horderly.phase.of_not_cancelled hrun hcancelled).2.2
        rw [hclosed signal hstage hintake run hrun] at hlive
        contradiction
  | spawned d hd _ hstage =>
      refine hmoved (u := t.spawn) rfl hd fun _ hfated => ?_
      rw [Call.Fated, hstage] at hfated
      contradiction
  | cancelled d run hd _ hstage =>
      refine hmoved (u := { t with intake := _, run := _ }) rfl hd fun _ hfated => ?_
      rw [Call.Fated, hstage] at hfated
      contradiction
  | parked d run hd hstage =>
      refine hmoved (u := { t with parked := _ }) rfl hd fun _ hfated => ?_
      rw [Call.Fated, hstage] at hfated
      contradiction
  | stopped d run hd hstage =>
      refine hmoved (u := { t with run := none }) rfl hd fun _ hfated => ?_
      rw [Call.Fated, hstage] at hfated
      contradiction
  | queued d run signal hd hstage hintake hrun hlive =>
      exact hmoved (u := { t with run := _ }) rfl hd fun _ _ => hlet hrun hlive
  | lined d run signal hd hstage hintake hrun hlive =>
      exact hmoved (u := { t with run := _ }) rfl hd fun _ _ => hlet hrun hlive
  | returned d r hd hstage =>
      refine hmoved rfl hd fun _ hfated => ?_
      rw [Call.Fated, hstage] at hfated
      cases r <;> exact hfated
  | ended run roster firstRead hrun hworker hcancelled =>
      rw [h.not_cancelled horderly hrun] at hcancelled
      contradiction
  | crashed => exact absurd rfl hcalm
  | stateRead run e rest roster firstRead hrun hworker =>
      exact hanswered (u := { t with run := _, recorded := _, recordings := _ }) rfl
        (hlet hrun (by rw [hworker]; rfl))
  | scanMissed run e rest roster firstRead updated hrun hworker =>
      exact hanswered (u := { t with run := _ }) rfl (hlet hrun (by rw [hworker]; rfl))
  | scanTaken run e rest roster firstRead updated sightings cycle hrun hworker =>
      exact hanswered (u := { t with feed := _, run := _ }) rfl (hlet hrun (by rw [hworker]; rfl))
  | _ => exact ⟨c, hc, rfl, hkind, hfate⟩

/-! ## Stops -/

/-- No stop is under way. -/
def Unstopped (t : Tracker) : Prop :=
  ∀ c ∈ t.calls, c.kind = .stop → c.isPending = false

/-- As long as no stop comes, none is under way. -/
theorem unstopped_move (hmove : Move t s happening t') (h : Unstopped t) (horderly : Orderly t)
    (hinside : s ≠ .beginStop) : Unstopped t' := by
  have hturn := turn_move hmove
  intro c hc hkind
  generalize t'.calls = calls at hturn hc
  cases hturn with
  | rests => exact h c hc hkind
  | comes kind stage hsignal hstops =>
      rcases List.mem_append.mp hc with hold | hlast
      · exact h c hold hkind
      · obtain rfl := List.mem_singleton.mp hlast
        exact absurd (hstops hkind) hinside
  | goesOn d stage hd hgoes =>
      rcases horderly.enrolled.mem_setStage rfl hd hc with hold | rfl
      · exact h c hold hkind
      · obtain ⟨r, hfinished⟩ := Call.finished_of_not_pending (h d hd hkind)
        rw [hfinished] at hgoes
        exact nomatch (hgoes r rfl).1
  | answers es r hes => exact h c (horderly.enrolled.mem_answer rfl hes hkind hc) hkind

/-- While no stop is under way, the lifecycle keeps the tasks that it holds. -/
theorem running_kept (hmove : Move t s happening t') (h : Unstopped t) (horderly : Orderly t)
    (hrunning : t.running.isSome = true) : t'.running.isSome = true := by
  rcases running_move hmove horderly with
    ⟨-, -, hspawned⟩ | ⟨⟨d, hd, hstop, hpending⟩, -, -⟩ | ⟨-, hsame⟩
  · exact hspawned
  · exact nomatch hpending.symm.trans (h d hd hstop)
  · rw [hsame]
    exact hrunning

/-! ## Crashes -/

/-- The worker of a run that no stop has come to is live unless the source has crashed since the run
was spawned. -/
def Survives (t : Tracker) (happenings : List Happening) : Prop :=
  ∀ live, t.run.map Run.outline = some (false, live) → live = !crashedSinceStart happenings

theorem survives_move {happenings : List Happening} (hmove : Move t s happening t')
    (h : Survives t happenings) : Survives t' (happenings ++ happening.toList) := by
  have hkept (hquiet : ∀ x ∈ happening, x ≠ .spawned ∧ x ≠ .crashed)
      (houtline : t'.run.map Run.outline = t.run.map Run.outline) :
      Survives t' (happenings ++ happening.toList) := by
    intro live hlive
    rw [h live (houtline ▸ hlive)]
    cases happening with
    | none => simp
    | some x =>
        obtain ⟨hspawned, hcrashed⟩ := hquiet x rfl
        rw [Option.toList_some, crashedSinceStart_concat]
        simp [hspawned, hcrashed]
  cases hmove with
  | spawned =>
      -- a new run begins with a live worker, and what has crashed before does not count for it
      intro live hlive
      rw [Option.toList_some, crashedSinceStart_concat]
      exact (congrArg Prod.snd (Option.some.inj hlive)).symm
  | cancelled => exact fun live hlive => nomatch congrArg Prod.fst (Option.some.inj hlive)
  | stopped => exact fun live hlive => nomatch hlive
  | queued c run signal hc hstage hintake hrun => exact hkept nofun (by rw [hrun]; rfl)
  | lined c run signal hc hstage hintake hrun => exact hkept nofun (by rw [hrun]; rfl)
  | sent signal run hintake hrun => exact hkept nofun (by rw [hrun]; rfl)
  | ended run roster firstRead hrun hworker hcancelled =>
      intro live hlive
      have hlive' := congrArg Prod.fst (Option.some.inj hlive)
      rw [show _ = run.cancelled from rfl, hcancelled] at hlive'
      contradiction
  | crashed =>
      intro live hlive
      rw [Option.toList_some, crashedSinceStart_concat]
      exact (congrArg Prod.snd (Option.some.inj hlive)).symm
  | stateRead run e rest roster firstRead hrun hworker =>
      exact hkept (by simp) (by rw [hrun, Option.map_some, Run.outline, hworker]; rfl)
  | scanMissed run e rest roster firstRead updated hrun hworker =>
      exact hkept (by simp) (by rw [hrun, Option.map_some, Run.outline, hworker]; rfl)
  | scanTaken run e rest roster firstRead updated sightings c hrun hworker =>
      exact hkept (by simp) (by rw [hrun, Option.map_some, Run.outline, hworker]; rfl)
  | callbackCrashed run n rest hrun => exact hkept (by simp) (by rw [hrun]; rfl)
  | called run n rest hrun => exact hkept (by simp) (by rw [hrun]; rfl)
  | broadcast run n hrun => exact hkept (by simp) (by rw [hrun]; rfl)
  | notifierEnded run hrun => exact hkept nofun (by rw [hrun]; rfl)
  | world => exact hkept nofun (by rw [Option.map_map]; rfl)
  | _ => exact hkept nofun rfl

theorem survives_after (config : TrackerConfig) (radio : Radio) (clock : Int64)
    (steps : List Step) :
    Survives ((new config radio clock).after steps) ((new config radio clock).trace steps) := by
  induction steps using List.reverseRecOn with
  | nil => exact nofun
  | append_singleton steps s ih =>
      rw [after_concat, trace_concat]
      exact survives_move (move_step _ s) ih

/-- Where no start and no stop is under way, signals are accepted if the tracker is running and the
source has not crashed. -/
theorem accepting_iff_running {happenings : List Happening} (h : Idle t) (horderly : Orderly t)
    (hsurvives : Survives t happenings) :
    t.Accepting ↔ t.isRunning = true ∧ crashedSinceStart happenings = false := by
  obtain ⟨hrunning, -⟩ := isRunning_of_free horderly.phase (h.held_eq_nil horderly.enrolled)
  rw [hrunning]
  constructor
  · intro haccepting
    obtain ⟨run, hsome, -⟩ := accepting_iff.mp haccepting
    rw [hsome]
    exact ⟨rfl, by simpa using (hsurvives true haccepting).symm⟩
  · rintro ⟨hsome, hcalm⟩
    obtain ⟨run, hrun⟩ := Option.isSome_iff_exists.mp hsome
    obtain ⟨hrun', hcancelled⟩ := running_eq_some_iff.mp hrun
    have houtline : t.run.map Run.outline = some (false, run.worker.isLive) := by
      rw [hrun', Option.map_some, Run.outline, hcancelled]
    rw [Accepting, houtline, hsurvives _ houtline, hcalm]
    rfl

end

section

variable (config : TrackerConfig) (radio : Radio) (clock : Int64)

/-- As long as no start and no stop comes and the source does not crash, a call with a signal goes
the way that is set when it comes. -/
theorem fated_after {steps : List Step} (hidle : Idle ((new config radio clock).after steps))
    (s : Signal) (later : List Step) (hinside : ∀ x ∈ later, x.entersLifecycle = false)
    (hcalm :
      .crashed ∉ (((new config radio clock).after steps).step (.beginSignal s)).trace later) :
    let t := (new config radio clock).after steps
    let u := (t.step (.beginSignal s)).after later
    Idle u ∧ (u.Accepting ↔ t.Accepting) ∧
      ∃ c ∈ u.calls, c.id = t.nextCall ∧ c.kind = .signal ∧ c.Fated t.Accepting := by
  intro t u
  induction later using List.reverseRecOn with
  | nil =>
      refine ⟨idle_step (s := .beginSignal s) hidle (orderly_after config radio clock steps)
        (attended_after config radio clock steps) rfl, Iff.rfl, ?_⟩
      exact ⟨_, List.mem_append_right _ (List.mem_singleton_self _), rfl, rfl, trivial⟩
  | append_singleton later x ih =>
      rw [trace_concat, List.mem_append, not_or, Option.mem_toList] at hcalm
      obtain ⟨hidle', haccepting, hfated⟩ :=
        ih (fun y hy => hinside y (List.mem_append_left _ hy)) hcalm.1
      have horderly := orderly_after config radio clock (steps ++ [.beginSignal s] ++ later)
      have hattended := attended_after config radio clock (steps ++ [.beginSignal s] ++ later)
      rw [after_append, after_concat] at horderly hattended
      have hmove := move_step ((t.step (.beginSignal s)).after later) x
      have hlast := hinside x (List.mem_append_right _ (List.mem_singleton_self x))
      rw [show u = ((t.step (.beginSignal s)).after later).step x from after_concat ..]
      refine ⟨idle_step hidle' horderly hattended hlast,
        (accepting_move hmove hidle' horderly hcalm.2).trans haccepting, ?_⟩
      -- the fate is set by whether the tracker accepted when the call came
      rw [← propext haccepting] at hfated ⊢
      exact fated_move hmove hidle' horderly hcalm.2 hfated

/-- While no stop is under way, and as long as none comes, the lifecycle keeps the tasks that it
holds. -/
theorem running_after {steps : List Step}
    (hunstopped : Unstopped ((new config radio clock).after steps))
    (hrunning : ((new config radio clock).after steps).running.isSome = true) (later : List Step)
    (hinside : ∀ x ∈ later, x ≠ .beginStop) :
    Unstopped ((new config radio clock).after (steps ++ later)) ∧
      ((new config radio clock).after (steps ++ later)).running.isSome = true := by
  induction later using List.reverseRecOn with
  | nil => exact (List.append_nil steps).symm ▸ ⟨hunstopped, hrunning⟩
  | append_singleton later x ih =>
      obtain ⟨hunstopped', hrunning'⟩ := ih fun y hy => hinside y (List.mem_append_left _ hy)
      have horderly := orderly_after config radio clock (steps ++ later)
      have hmove := move_step ((new config radio clock).after (steps ++ later)) x
      rw [← List.append_assoc, after_concat]
      exact ⟨unstopped_move hmove hunstopped' horderly
          (hinside x (List.mem_append_right _ (List.mem_singleton_self x))),
        running_kept hmove hunstopped' horderly hrunning'⟩

/-- Where no start and no stop is under way, the tracker is running exactly if its lifecycle holds
tasks, and a call that hands in a signal returns with an outcome exactly if the tracker is running
and the source has not crashed since the tasks were spawned; otherwise it returns that the tracker
was stopped.  It does return, once it has had its turns and the worker as many as signals waited.
Whatever else comes is left open here, but for starts, stops and crashes of the source.  A start
that returns well and has met no stop leaves the tracker running, and it stays so until a stop
comes, whatever has become of the worker. -/
theorem running_accepts_until_crash (steps : List Step) :
    let happenings := (new config radio clock).trace steps
    let t := (new config radio clock).after steps
    (t.Idle → t.isRunning = t.running.isSome ∧
      ∀ s later, (∀ x ∈ later, x.entersLifecycle = false) →
        .crashed ∉ (t.step (.beginSignal s)).trace later →
        let u := (t.step (.beginSignal s)).after later
        let accepted := t.isRunning = true ∧ crashedSinceStart happenings = false
        (∃ c ∈ u.calls, c.id = t.nextCall ∧ ∀ r, c.stage = .finished r →
          (accepted ∧ ∃ o, r = .outcome o) ∨ (¬ accepted ∧ r = .failed .stopped)) ∧
        ∀ turns rest, (u.step (.advance t.nextCall)).waiting.length ≤ turns.countP Step.isWork →
          ((u.step (.advance t.nextCall)).after
            (turns ++ .advance t.nextCall :: rest)).Returned t.nextCall) ∧
    (∀ s, ∀ c ∈ t.calls, c.kind = .start → c.isPending = true →
      { c with stage := .finished .done } ∈ (t.step s).calls →
      ¬ MetStop (new config radio clock) steps c.id →
      ∀ later, (∀ x ∈ later, x ≠ .beginStop) → ((t.step s).after later).isRunning = true) := by
  intro happenings t
  have horderly : Orderly t := orderly_after config radio clock steps
  have hsurvives : Survives t happenings := survives_after config radio clock steps
  refine ⟨fun hidle => ⟨?_, fun s later hinside hcalm => ⟨?_, fun turns rest hturns => ?_⟩⟩,
    fun s c hc hkind hpending hdone hmet later hinside => ?_⟩
  · exact (isRunning_of_free horderly.phase (hidle.held_eq_nil horderly.enrolled)).1
  · obtain ⟨-, -, c, hc, hid, -, hfated⟩ :=
      fated_after config radio clock hidle s later hinside hcalm
    refine ⟨c, hc, hid, fun r hfinished => ?_⟩
    rw [← propext (accepting_iff_running hidle horderly hsurvives)]
    exact hfated.result hfinished
  · have hafter : (t.step (.beginSignal s)).after later =
        (new config radio clock).after (steps ++ [.beginSignal s] ++ later) := by
      rw [after_append, after_concat]
    rw [hafter] at hturns ⊢
    refine returned_of_turns config radio clock _ (s := s) ?_ turns rest hturns
    rw [deliveryLog_append, deliveryLog_concat]
    exact List.mem_append_left _ (List.mem_append_right _ (List.mem_singleton_self _))
  · -- a stop that were under way would have met the start
    have hunstopped : Unstopped t := fun d hd hstop => by
      rw [← Bool.not_eq_true]
      exact fun hd' => hmet ⟨steps, List.prefix_refl _, ⟨c, hc, rfl, hpending⟩, d, hd, hstop, hd'⟩
    obtain ⟨rfl, -, hstage⟩ := start_returned (move_step t s) horderly
      (attended_after config radio clock steps) (reading_after config radio clock steps) hc hkind
      hpending hdone
    have hrunning : t.running.isSome = true := by
      rcases hstage with hstage | ⟨-, hrunning⟩
      · exact (upheld_after config radio clock steps c hc hkind
          (by rw [hstage]; rfl)).resolve_right hmet
      · exact hrunning
    obtain ⟨-, hlater⟩ := running_after config radio clock hunstopped hrunning
      (.advance c.id :: later) (by simpa using hinside)
    have hphase := (orderly_after config radio clock (steps ++ .advance c.id :: later)).phase
    rw [after_append] at hlater hphase
    obtain ⟨run, hsome⟩ := Option.isSome_iff_exists.mp hlater
    obtain ⟨hrun, hcancelled⟩ := running_eq_some_iff.mp hsome
    exact (hphase.of_not_cancelled hrun hcancelled).2.2

end

/-- The source crashes under a scan signal.  The tracker goes on running and refuses signals, also
after another start; it takes them again after a stop and a start. -/
theorem running_accepts_until_crash_restarted :
    let config : TrackerConfig := ⟨.ofSeconds 15, .ofSeconds 10, false⟩
    let radio : Radio := { Radio.new .enabled with health := .crashing }
    let started : List Step := [.beginStart, .advance 0, .advance 0, .work]
    let crashing : List Step := [.send (.scanResults true), .work,
      .setRadio fun r => { r with health := .working }]
    let steps := started ++ .advance 0 :: crashing
    let restarted := steps ++ [.beginStart, .advance 1, .beginStop, .advance 2, .advance 2, .notify,
      .notify, .notify, .advance 2, .beginStart, .advance 3, .advance 3, .work, .advance 3]
    let t := (new config radio 0).after steps
    let t' := (new config radio 0).after restarted
    let u := (t.step (.beginSignal .radioState)).after [.advance 1]
    let u' := (t'.step (.beginSignal .radioState)).after [.advance 4, .work, .advance 4]
    ¬ MetStop (new config radio 0) started 0 ∧ t.Idle ∧ t.isRunning = true ∧ t'.Idle ∧
    t'.isRunning = true ∧
    (∃ c ∈ u.calls, c.id = t.nextCall ∧ c.stage = .finished (.failed .stopped)) ∧
    ∃ c ∈ u'.calls, c.id = t'.nextCall ∧ ∃ o, c.stage = .finished (.outcome o) := by
  intro config radio started crashing steps restarted t t' u u'
  have hmet : ¬ MetStop (new config radio 0) started 0 := by
    rintro ⟨before, hprefix, -, d, hd, hstop, -⟩
    have hstarts : ∀ before ∈ started.inits, ∀ d ∈ ((new config radio 0).after before).calls,
        d.kind ≠ .stop := by decide +kernel
    exact hstarts before ((List.mem_inits ..).mpr hprefix) d hd hstop
  have hpending : ∀ c ∈ t.calls, c.isPending = false := by decide +kernel
  have hpending' : ∀ c ∈ t'.calls, c.isPending = false := by decide +kernel
  have hidle : t.Idle := fun c hc _ => Call.finished_of_not_pending (hpending c hc)
  have hidle' : t'.Idle := fun c hc _ => Call.finished_of_not_pending (hpending' c hc)
  have hreturned : ∀ c ∈ u.calls, c.isPending = false := by decide +kernel
  have hreturned' : ∀ c ∈ u'.calls, c.isPending = false := by decide +kernel
  have hcrashed : crashedSinceStart ((new config radio 0).trace steps) = true := by decide +kernel
  have hcalm : t'.isRunning = true ∧
      crashedSinceStart ((new config radio 0).trace restarted) = false := by decide +kernel
  obtain ⟨-, hstarts⟩ := running_accepts_until_crash config radio 0 started
  obtain ⟨haccepts, -⟩ := running_accepts_until_crash config radio 0 steps
  obtain ⟨haccepts', -⟩ := running_accepts_until_crash config radio 0 restarted
  have hruns : t.isRunning = true := by
    have hcrashing : ∀ x ∈ crashing, x ≠ .beginStop := by simp [crashing]
    have hlater := hstarts (.advance 0) ⟨0, .start, .answered .done⟩ (by decide +kernel) rfl rfl
      (by decide +kernel) hmet crashing hcrashing
    rwa [← after_concat, ← after_append, List.append_assoc] at hlater
  obtain ⟨⟨c, hc, hid, hfate⟩, -⟩ :=
    (haccepts hidle).2 .radioState [.advance 1] (by decide +kernel) (by decide +kernel)
  obtain ⟨⟨c', hc', hid', hfate'⟩, -⟩ :=
    (haccepts' hidle').2 .radioState [.advance 4, .work, .advance 4] (by decide +kernel)
      (by decide +kernel)
  obtain ⟨r, hr⟩ := Call.finished_of_not_pending (hreturned c hc)
  obtain ⟨r', hr'⟩ := Call.finished_of_not_pending (hreturned' c' hc')
  refine ⟨hmet, hidle, hruns, hidle', hcalm.1, ⟨c, hc, hid, ?_⟩, ⟨c', hc', hid', ?_⟩⟩
  · rcases hfate r hr with ⟨haccepted, -⟩ | ⟨-, rfl⟩
    · rw [hcrashed] at haccepted
      exact nomatch haccepted.2
    · exact hr
  · rcases hfate' r' hr' with ⟨-, o, rfl⟩ | ⟨hrefused, -⟩
    · exact ⟨o, hr'⟩
    · exact absurd hcalm hrefused

/-- A tracker that says that it is running refuses a signal, though the source does not crash, and
so it does after a start that has returned well. -/
theorem running_refuses_after_crash :
    let config : TrackerConfig := ⟨.ofSeconds 15, .ofSeconds 10, false⟩
    let radio : Radio := { Radio.new .enabled with health := .crashing }
    let steps : List Step := [.beginStart, .advance 0, .advance 0, .work, .advance 0,
      .send (.scanResults true), .work, .setRadio fun r => { r with health := .working }]
    let t := (new config radio 0).after steps
    let asked : List Step := [.beginSignal .radioState, .advance 1]
    let again : List Step := [.beginStart, .advance 1, .beginSignal .radioState, .advance 2]
    config.validate = .ok () ∧ t.calls = [⟨0, .start, .finished .done⟩] ∧ t.isRunning = true ∧
    t.trace asked = [] ∧ ⟨1, .signal, .finished (.failed .stopped)⟩ ∈ (t.after asked).calls ∧
    (t.after again).isRunning = true ∧ ⟨1, .start, .finished .done⟩ ∈ (t.after again).calls ∧
    ⟨2, .signal, .finished (.failed .stopped)⟩ ∈ (t.after again).calls := by
  decide +kernel

end Tracker

end ScanRoster
