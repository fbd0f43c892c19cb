import ScanRoster.Proofs.Tracker.Production
import ScanRoster.Proofs.Tracker.Receiver

/-!
# Notices are told once and in order

A notice goes from the worker to the notifier, from there to its callback and then to the
broadcast, and waits in between.  What was told so far and what waits make up what the worker has
produced, at each of these points; so nothing is lost, doubled or overtaken, whatever the order of
steps, and nothing is left when a stop returns.  Observers may look at the broadcast at any time.
-/

namespace ScanRoster

/-- Whether a notice is about the entry list. -/
def Notice.isEntries : Notice → Bool
  | .entriesChanged _ => true
  | .stateChanged _ => false

namespace Happening

/-- The notice whose callback has been called. -/
def called? : Happening → Option Notice
  | .called n => some n
  | _ => none

/-- The notice that has been broadcast. -/
def heard? : Happening → Option Notice
  | .broadcast n => some n
  | _ => none

/-- Whether a callback has crashed. -/
def isCallbackCrash : Happening → Bool
  | .callbackCrashed _ => true
  | _ => false

end Happening

/-- The notices whose callbacks have been called, in order. -/
def calledIn (happenings : List Happening) : List Notice :=
  happenings.filterMap Happening.called?

/-- The notices that have been broadcast, in order. -/
def heardIn (happenings : List Happening) : List Notice :=
  happenings.filterMap Happening.heard?

theorem calledIn_append (happenings more : List Happening) :
    calledIn (happenings ++ more) = calledIn happenings ++ calledIn more :=
  List.filterMap_append

theorem heardIn_append (happenings more : List Happening) :
    heardIn (happenings ++ more) = heardIn happenings ++ heardIn more :=
  List.filterMap_append

namespace Tracker

/-! ## The audience -/

/-- What an audience has seen of the notices that were called and broadcast. -/
structure Audience.Told (a : Audience) (called heard : List Notice) : Prop where
  entriesCalls : a.entriesCalls = called.countP Notice.isEntries
  stateCalls : a.stateCalls = called.countP fun n => !n.isEntries
  broadcast : a.broadcast = .ofLog heard

theorem Audience.Told.call {a : Audience} {called heard : List Notice} (h : Told a called heard)
    (n : Notice) : Told (Audience.call a n) (called ++ [n]) heard := by
  cases n with
  | entriesChanged snapshot =>
      refine ⟨?_, ?_, h.broadcast⟩
      · simp [Audience.call, Notice.isEntries, List.countP_append, h.entriesCalls]
      · simp [Audience.call, Notice.isEntries, List.countP_append, h.stateCalls]
  | stateChanged state =>
      refine ⟨?_, ?_, h.broadcast⟩
      · simp [Audience.call, Notice.isEntries, List.countP_append, h.entriesCalls]
      · simp [Audience.call, Notice.isEntries, List.countP_append, h.stateCalls]

theorem Audience.Told.hear {a : Audience} {called heard : List Notice} (h : Told a called heard)
    (n : Notice) : Told (Audience.hear a n) called (heard ++ [n]) where
  entriesCalls := h.entriesCalls
  stateCalls := h.stateCalls
  broadcast := by rw [Audience.hear, h.broadcast, Broadcast.send_ofLog]

/-- Only the calls of callbacks and the broadcasts of a trace reach the audience. -/
theorem told_move {t t' : Tracker} {s : Step} {happening : Option Happening}
    (hmove : Move t s happening t') {called heard : List Notice}
    (h : Audience.Told t.audience called heard) :
    Audience.Told t'.audience (called ++ calledIn happening.toList)
      (heard ++ heardIn happening.toList) := by
  have hquiet : calledIn happening.toList = [] → heardIn happening.toList = [] →
      Audience.Told t.audience (called ++ calledIn happening.toList)
        (heard ++ heardIn happening.toList) := by
    intro hcalled hheard
    rwa [hcalled, hheard, List.append_nil, List.append_nil]
  cases hmove with
  | called run n =>
      have hheard : heardIn (some (.called n)).toList = [] := rfl
      rw [hheard, List.append_nil]
      exact h.call n
  | broadcast run n =>
      have hcalled : calledIn (some (.broadcast n)).toList = [] := rfl
      rw [hcalled, List.append_nil]
      exact h.hear n
  | callbacksSet crashing =>
      obtain ⟨hentries, hstate, hbroadcast⟩ := hquiet rfl rfl
      exact ⟨hentries, hstate, hbroadcast⟩
  | _ => exact hquiet rfl rfl

/-! ## What waits -/

/-- The notices that wait for the notifier. -/
def untold (t : Tracker) : List Notice :=
  match t.run with
  | none => []
  | some run => run.notices

/-- The notice whose callback has been called and that is still to be broadcast. -/
def inHand (t : Tracker) : List Notice :=
  match t.run with
  | none => []
  | some run =>
    match run.notifier with
    | .telling n => [n]
    | _ => []

/-- Nothing is lost between the worker, the callbacks and the broadcast; and the notifier ends
only after the worker, when nothing is left to tell. -/
structure Delivers (t : Tracker) (owed called heard : List Notice) : Prop where
  owed_eq : called ++ t.untold = owed
  called_eq : heard ++ t.inHand = called
  notifier : ∀ run ∈ t.run, run.notifier ≠ .crashed
  ended : ∀ run ∈ t.run, run.notifier = .ended → run.worker.isLive = false ∧ run.notices = []

namespace Delivers

variable {t t' : Tracker} {owed called heard : List Notice} {run run' : Run}

theorem owed_of_run (h : Delivers t owed called heard) (hrun : t.run = some run) :
    called ++ run.notices = owed := by
  have howed := h.owed_eq
  rwa [untold, hrun] at howed

/-- A notifier that has nothing in hand has broadcast whatever it has called. -/
theorem heard_eq (h : Delivers t owed called heard) (hinHand : t.inHand = []) :
    heard = called := by
  rw [← h.called_eq, hinHand, List.append_nil]

theorem of_some (hrun : t.run = some run) (howed : called ++ run.notices = owed)
    (hcalled : heard ++ t.inHand = called) (hnotifier : run.notifier ≠ .crashed)
    (hended : run.notifier = .ended → run.worker.isLive = false ∧ run.notices = []) :
    Delivers t owed called heard where
  owed_eq := by rw [untold, hrun]; exact howed
  called_eq := hcalled
  notifier := fun _ hmem => Option.some.inj (hrun.symm.trans hmem) ▸ hnotifier
  ended := fun _ hmem => Option.some.inj (hrun.symm.trans hmem) ▸ hended

/-- A step that leaves the notifier and its notices alone. -/
theorem congr (h : Delivers t owed called heard) (huntold : t'.untold = t.untold)
    (hinHand : t'.inHand = t.inHand)
    (hrun : ∀ run' ∈ t'.run, ∃ run ∈ t.run, run'.notifier = run.notifier ∧
      run'.notices = run.notices ∧ (run.worker.isLive = false → run'.worker.isLive = false)) :
    Delivers t' owed called heard where
  owed_eq := by rw [huntold, h.owed_eq]
  called_eq := by rw [hinHand, h.called_eq]
  notifier := by
    intro run' hrun'
    obtain ⟨run, hmem, hnotifier, -, -⟩ := hrun run' hrun'
    rw [hnotifier]
    exact h.notifier run hmem
  ended := by
    intro run' hrun' hended
    obtain ⟨run, hmem, hnotifier, hnotices, hlive⟩ := hrun run' hrun'
    obtain ⟨hworker, hnone⟩ := h.ended run hmem (hnotifier.symm.trans hended)
    exact ⟨hlive hworker, hnotices.trans hnone⟩

theorem same (h : Delivers t owed called heard) (hrun : t'.run = t.run) :
    Delivers t' owed called heard := by
  refine h.congr (by rw [untold, untold, hrun]) (by rw [inHand, inHand, hrun]) fun run hmem => ?_
  exact ⟨run, hrun ▸ hmem, rfl, rfl, id⟩

theorem of_run (h : Delivers t owed called heard) (hrun : t.run = some run)
    (hrun' : t'.run = some run') (hnotifier : run'.notifier = run.notifier)
    (hnotices : run'.notices = run.notices)
    (hlive : run.worker.isLive = false → run'.worker.isLive = false) :
    Delivers t' owed called heard := by
  refine h.congr ?_ ?_ fun run'' hmem => ⟨run, hrun, ?_⟩
  · simp only [untold, hrun, hrun', hnotices]
  · simp only [inHand, hrun, hrun', hnotifier]
  · rw [← Option.some.inj (hrun'.symm.trans hmem)]
    exact ⟨hnotifier, hnotices, hlive⟩

/-- A live worker has a notifier that is at work. -/
theorem notifier_isLive (h : Delivers t owed called heard) (hrun : t.run = some run)
    (hlive : run.worker.isLive = true) : run.notifier.isLive = true := by
  cases hnotifier : run.notifier with
  | live => rfl
  | telling n => rfl
  | ended =>
      have hworker := (h.ended run hrun hnotifier).1
      rw [hlive] at hworker
      contradiction
  | crashed => exact absurd hnotifier (h.notifier run hrun)

/-- A live worker produces some notices. -/
theorem tellAll (h : Delivers t owed called heard) (hrun : t.run = some run)
    (hlive : run.worker.isLive = true) (more : List Notice)
    (hrun' : t'.run = some (Run.tellAll run' more)) (hnotifier : run'.notifier = run.notifier)
    (hnotices : run'.notices = run.notices) : Delivers t' (owed ++ more) called heard := by
  have hworking := h.notifier_isLive hrun hlive
  have htold : (Run.tellAll run' more).notices = run.notices ++ more := by
    rw [Run.tellAll, hnotifier, hnotices, if_pos hworking]
  have hinHand : t'.inHand = t.inHand := by
    simp only [inHand, hrun, hrun', Run.tellAll, hnotifier]
  refine of_some hrun' ?_ (by rw [hinHand, h.called_eq]) ?_ fun hended => ?_
  · rw [htold, ← List.append_assoc, h.owed_of_run hrun]
  · exact fun hcrashed => h.notifier run hrun (hnotifier.symm.trans hcrashed)
  · rw [hnotifier.symm.trans hended] at hworking
    contradiction

/-- Nothing waits once the notifier has ended. -/
theorem settled (h : Delivers t owed called heard)
    (hended : ∀ run ∈ t.run, run.notifier.isLive = false) : t.untold = [] ∧ t.inHand = [] := by
  cases hrun : t.run with
  | none => simp [untold, inHand, hrun]
  | some run =>
      have hnotifier : run.notifier = .ended := by
        have hidle := hended run hrun
        cases heq : run.notifier with
        | live => rw [heq] at hidle; contradiction
        | telling n => rw [heq] at hidle; contradiction
        | ended => rfl
        | crashed => exact absurd heq (h.notifier run hrun)
      have hnotices := (h.ended run hrun hnotifier).2
      simp [untold, inHand, hrun, hnotifier, hnotices]

theorem move {policy : AgePolicy} {happenings : List Happening} {s : Step}
    {happening : Option Happening} (hmove : Move t s happening t')
    (hcalm : ∀ x ∈ happening, x.isCallbackCrash = false) (hord : Orderly t)
    (hmirrors : Mirrors policy t (.of policy happenings)) (hrecalls : Recalls t happenings)
    (h : Delivers t owed called heard) :
    Delivers t' (owed ++ producedAfter policy happenings happening.toList)
      (called ++ calledIn happening.toList) (heard ++ heardIn happening.toList) := by
  have hproduces : ∀ more, producedAfter policy happenings happening.toList = more →
      calledIn happening.toList = [] → heardIn happening.toList = [] →
      Delivers t' (owed ++ more) called heard →
      Delivers t' (owed ++ producedAfter policy happenings happening.toList)
        (called ++ calledIn happening.toList) (heard ++ heardIn happening.toList) := by
    intro more hproduced hcalled hheard hmore
    rwa [hproduced, hcalled, hheard, List.append_nil, List.append_nil]
  have hquiet : producedAfter policy happenings happening.toList = [] →
      calledIn happening.toList = [] → heardIn happening.toList = [] →
      Delivers t' owed called heard →
      Delivers t' (owed ++ producedAfter policy happenings happening.toList)
        (called ++ calledIn happening.toList) (heard ++ heardIn happening.toList) := by
    intro hproduced hcalled hheard hsame
    exact hproduces [] hproduced hcalled hheard (by rwa [List.append_nil])
  cases hmove with
  | still => exact hquiet rfl rfl rfl h
  | begun _ kind stage hstage hstop => exact hquiet rfl rfl rfl (h.same rfl)
  | left c result hc hstage hidle => exact hquiet rfl rfl rfl (h.same rfl)
  | spawned c hc hkind hstage hfree hrunning =>
      obtain ⟨hnone, -⟩ :=
        hord.phase.of_not_running (lifecycleHeld_eq_false_iff.mp hfree) hrunning
      -- nothing is left over from earlier runs
      obtain ⟨huntold, hinHand⟩ := h.settled fun run hrun => nomatch hnone.symm.trans hrun
      have howed := h.owed_eq
      rw [huntold] at howed
      refine hquiet rfl rfl rfl (of_some rfl howed ?_ nofun nofun)
      rw [h.heard_eq hinHand]
      exact List.append_nil _
  | cancelled c run hc hkind hstage hfree hrun hlive =>
      exact hquiet rfl rfl rfl (h.of_run hrun rfl rfl rfl id)
  | parked c run hc hstage hrun hended => exact hquiet rfl rfl rfl (h.same rfl)
  | stopped c run hc hstage hrun hnotifier htrigger =>
      have hended : ∀ run' ∈ t.run, run'.notifier.isLive = false := by
        intro run' hrun'
        rw [← Option.some.inj (hrun.symm.trans hrun')]
        exact hnotifier
      obtain ⟨huntold, hinHand⟩ := h.settled hended
      have howed := h.owed_eq
      have hcalled := h.called_eq
      rw [huntold] at howed
      rw [hinHand] at hcalled
      exact hquiet rfl rfl rfl ⟨howed, hcalled, nofun, nofun⟩
  | queued c run s hc hstage hintake hrun hlive hroom =>
      exact hquiet rfl rfl rfl (h.of_run hrun rfl rfl rfl id)
  | lined c run s hc hstage hintake hrun hlive hroom =>
      exact hquiet rfl rfl rfl (h.of_run hrun rfl rfl rfl id)
  | returned c result hc hstage => exact hquiet rfl rfl rfl (h.same rfl)
  | sent s run hintake hrun hlive hroom =>
      exact hquiet rfl rfl rfl (h.of_run hrun rfl rfl rfl id)
  | ended run roster firstRead hrun hworker hcancelled =>
      exact hquiet rfl rfl rfl (h.of_run hrun rfl rfl rfl fun _ => rfl)
  | crashed run e rest roster firstRead hrun hworker hcancelled hqueue =>
      exact hquiet rfl rfl rfl (h.of_run hrun rfl rfl rfl fun _ => rfl)
  | stateRead run e rest roster firstRead hrun hworker hcancelled hqueue hsignal =>
      have hlive : run.worker.isLive = true := by rw [hworker]; rfl
      refine hproduces (t.stateNotices firstRead) ?_ rfl rfl (h.tellAll hrun hlive _ rfl rfl rfl)
      rw [hrecalls.stateNotices_eq policy hrun hworker]
      exact List.append_nil _
  | scanMissed run e rest roster firstRead updated hrun hworker hcancelled hqueue hsignal =>
      refine hquiet rfl rfl rfl (h.of_run hrun rfl rfl rfl fun hended => ?_)
      rw [hworker] at hended
      exact hended
  | scanTaken run e rest roster firstRead updated sightings c hrun hworker hcancelled hqueue =>
      have hlive : run.worker.isLive = true := by rw [hworker]; rfl
      refine hproduces [.entriesChanged (roster.apply c).1.entries] ?_ rfl rfl
        (h.tellAll hrun hlive _ rfl rfl rfl)
      rw [← (hmirrors.of_live hrun hworker).2]
      rfl
  | callbackCrashed run n rest hrun hnotifier hnotices hcrashing =>
      exact nomatch hcalm _ rfl
  | called run n rest hrun hnotifier hnotices hcrashing =>
      -- the notice goes from those that wait into the hand of the notifier
      have howed : called ++ n :: rest = owed := hnotices ▸ h.owed_of_run hrun
      have hheard : heard = called := h.heard_eq (by simp only [inHand, hrun, hnotifier])
      refine of_some rfl ?_ ?_ nofun nofun
      · show called ++ [n] ++ rest = owed ++ []
        rw [List.append_assoc, List.append_nil]
        exact howed
      · show heard ++ [] ++ [n] = called ++ [n]
        rw [List.append_nil, hheard]
  | broadcast run n hrun hnotifier =>
      -- the notice goes from the hand of the notifier into the broadcast
      have hcalled := h.called_eq
      simp only [inHand, hrun, hnotifier] at hcalled
      refine of_some rfl ?_ ?_ nofun nofun
      · show called ++ [] ++ run.notices = owed ++ []
        rw [List.append_nil, List.append_nil]
        exact h.owed_of_run hrun
      · show heard ++ [n] ++ [] = called ++ []
        rw [List.append_nil, List.append_nil]
        exact hcalled
  | notifierEnded run hrun hnotifier hnotices hended =>
      have howed := h.owed_of_run hrun
      have hheard : heard = called := h.heard_eq (by simp only [inHand, hrun, hnotifier])
      refine hquiet rfl rfl rfl (of_some rfl howed ?_ nofun fun _ => ?_)
      · rw [hheard]
        exact List.append_nil _
      · exact ⟨hended, hnotices⟩
  | world s radio clock elapsed trigger =>
      refine hquiet rfl rfl rfl ?_
      cases hrun : t.run with
      | none => exact h.same hrun.symm
      | some run => exact h.of_run hrun rfl rfl rfl id
  | callbacksSet crashing => exact hquiet rfl rfl rfl (h.same rfl)

end Delivers

/-! ## Runs and their receivers -/

section

variable (config : TrackerConfig) (radio : Radio) (clock : Int64)

theorem recalls_after (steps : List Step) :
    Recalls ((new config radio clock).after steps) ((new config radio clock).trace steps) := by
  induction steps using List.reverseRecOn with
  | nil => exact .new config radio clock
  | append_singleton steps s ih =>
      rw [after_concat, trace_concat]
      exact ih.move (move_step _ s)

theorem told_after (steps : List Step) :
    Audience.Told ((new config radio clock).after steps).audience
      (calledIn ((new config radio clock).trace steps))
      (heardIn ((new config radio clock).trace steps)) := by
  induction steps using List.reverseRecOn with
  | nil => exact ⟨rfl, rfl, Broadcast.empty_eq_ofLog⟩
  | append_singleton steps s ih =>
      rw [after_concat, trace_concat, calledIn_append, heardIn_append]
      exact told_move (move_step _ s) ih

theorem delivers_after (steps : List Step)
    (hcalm : ∀ x ∈ (new config radio clock).trace steps, x.isCallbackCrash = false) :
    Delivers ((new config radio clock).after steps)
      (produced config.policy ((new config radio clock).trace steps))
      (calledIn ((new config radio clock).trace steps))
      (heardIn ((new config radio clock).trace steps)) := by
  induction steps using List.reverseRecOn with
  | nil => exact ⟨rfl, rfl, nofun, nofun⟩
  | append_singleton steps s ih =>
      rw [trace_concat] at hcalm
      have hbefore := ih fun x hx => hcalm x (List.mem_append_left _ hx)
      rw [after_concat, trace_concat, produced_append, calledIn_append, heardIn_append]
      refine hbefore.move (move_step _ s) (fun x hx => hcalm x ?_)
        (orderly_after config radio clock steps) (mirrors_after config radio clock steps)
        (recalls_after config radio clock steps)
      exact List.mem_append_right _ (Option.mem_toList.mpr hx)

end

/-- Something that the tracker or an observer of its broadcast does. -/
inductive Act
  | step (s : Step)
  | poll

/-- The steps of the tracker among some acts. -/
def stepsOf (acts : List Act) : List Step :=
  acts.filterMap fun
    | .step s => some s
    | .poll => none

theorem stepsOf_append (acts more : List Act) :
    stepsOf (acts ++ more) = stepsOf acts ++ stepsOf more :=
  List.filterMap_append

/-- A tracker, and a receiver with what it was given so far. -/
structure Watched where
  tracker : Tracker
  receiver : Receiver
  got : List Received

/-- A tracker with a new receiver. -/
def watch (t : Tracker) : Watched :=
  ⟨t, t.audience.broadcast.subscribe, []⟩

namespace Watched

/-- What an act leaves behind. -/
def act (w : Watched) : Act → Watched
  | .step s => { w with tracker := w.tracker.step s }
  | .poll =>
    let (received, receiver) := w.tracker.audience.broadcast.receive w.receiver
    ⟨w.tracker, receiver, w.got ++ received.toList⟩

/-- What some acts leave behind. -/
def after (w : Watched) (acts : List Act) : Watched :=
  acts.foldl act w

theorem after_concat (w : Watched) (acts : List Act) (a : Act) :
    w.after (acts ++ [a]) = (w.after acts).act a := by
  simp [after, List.foldl_append]

/-- Observers leave no trace in the tracker. -/
theorem tracker_after (t : Tracker) (acts : List Act) :
    (t.watch.after acts).tracker = t.after (stepsOf acts) := by
  induction acts using List.reverseRecOn with
  | nil => rfl
  | append_singleton acts a ih =>
      rw [after_concat, stepsOf_append]
      cases a with
      | step s =>
          show (t.watch.after acts).tracker.step s = t.after (stepsOf acts ++ [s])
          rw [ih, Tracker.after_concat]
      | poll =>
          show (t.watch.after acts).tracker = t.after (stepsOf acts ++ [])
          rw [ih, List.append_nil]

/-- What a receiver was given covers the broadcast up to its place. -/
theorem covers_after (config : TrackerConfig) (radio : Radio) (clock : Int64) (acts : List Act) :
    let w := (new config radio clock).watch.after acts
    let heard := heardIn ((new config radio clock).trace (stepsOf acts))
    w.receiver.next ≤ heard.length ∧ Covers (heard.take w.receiver.next) w.got := by
  induction acts using List.reverseRecOn with
  | nil => exact ⟨Nat.zero_le _, .nil⟩
  | append_singleton acts a ih =>
      obtain ⟨hplace, hcovers⟩ := ih
      rw [after_concat, stepsOf_append]
      cases a with
      | step s =>
          show _ ≤ (heardIn (trace _ (stepsOf acts ++ [s]))).length ∧
            Covers ((heardIn (trace _ (stepsOf acts ++ [s]))).take _) _
          rw [trace_concat, heardIn_append]
          refine ⟨?_, hcovers.send _ hplace⟩
          rw [List.length_append]
          exact Nat.le_add_right_of_le hplace
      | poll =>
          have hbroadcast := (told_after config radio clock (stepsOf acts)).broadcast
          rw [← tracker_after] at hbroadcast
          show _ ≤ (heardIn (trace _ (stepsOf acts ++ []))).length ∧
            Covers ((heardIn (trace _ (stepsOf acts ++ []))).take _) _
          rw [List.append_nil]
          simp only [act, hbroadcast]
          exact ⟨(Broadcast.receive_ofLog _ _ hplace).2.2, hcovers.receive hplace⟩

end Watched

/-- Every notice that the trace calls for is given to its callback once and then to the broadcast,
in the order of production, and none is left when a stop returns.  A receiver that was there from
the beginning is given the broadcast in this order, and is told how many of the oldest notices it
has lost where more than 256 are waiting for it. -/
theorem notices_told_once (config : TrackerConfig) (radio : Radio) (clock : Int64)
    (acts : List Act)
    (hcalm : ∀ x ∈ (new config radio clock).trace (stepsOf acts), x.isCallbackCrash = false) :
    let w := (new config radio clock).watch.after acts
    let happenings := (new config radio clock).trace (stepsOf acts)
    let owed := produced config.policy happenings
    calledIn happenings ++ w.tracker.untold = owed ∧
    heardIn happenings ++ w.tracker.inHand = calledIn happenings ∧
    w.tracker.audience.entriesCalls = (calledIn happenings).countP Notice.isEntries ∧
    w.tracker.audience.stateCalls = (calledIn happenings).countP (fun n => !n.isEntries) ∧
    (∀ s id r, ⟨id, .stop, .finished r⟩ ∈ (w.tracker.step s).calls →
      ⟨id, .stop, .finished r⟩ ∉ w.tracker.calls →
      w.tracker.happening? s = none ∧ calledIn happenings = owed ∧ heardIn happenings = owed) ∧
    Covers ((heardIn happenings).take w.receiver.next) w.got ∧
    (w.tracker.audience.broadcast.receive w.receiver).1 =
      (Broadcast.due ((heardIn happenings).drop w.receiver.next)).1 := by
  intro w happenings owed
  have htracker : w.tracker = (new config radio clock).after (stepsOf acts) :=
    Watched.tracker_after _ acts
  have hdelivers := delivers_after config radio clock (stepsOf acts) hcalm
  have htold := told_after config radio clock (stepsOf acts)
  rw [← htracker] at hdelivers htold
  obtain ⟨hplace, hcovers⟩ := Watched.covers_after config radio clock acts
  refine ⟨hdelivers.owed_eq, hdelivers.called_eq, htold.entriesCalls, htold.stateCalls, ?_,
    hcovers, ?_⟩
  · intro s id r hafter hbefore
    have horderly : Orderly w.tracker := htracker ▸ orderly_after config radio clock (stepsOf acts)
    obtain ⟨hquiet, hended⟩ :=
      stop_returned (move_step w.tracker s) horderly rfl rfl hafter hbefore
    obtain ⟨huntold, hinHand⟩ := hdelivers.settled fun run hrun => (hended run hrun).2.1
    have howed := hdelivers.owed_eq
    have hcalled := hdelivers.called_eq
    rw [huntold, List.append_nil] at howed
    rw [hinHand, List.append_nil] at hcalled
    exact ⟨hquiet, howed, hcalled.trans howed⟩
  · rw [htold.broadcast]
    exact (Broadcast.receive_ofLog _ _ hplace).1

/-- A run with a radio state, a scan and a stop: its receiver is given both notices. -/
theorem notices_told_once_until_stop :
    let config : TrackerConfig := ⟨.ofSeconds 15, .ofSeconds 10, false⟩
    let radio := (Radio.new .enabled).setScan [⟨some "Cafe", "a", "[WPA2-PSK]", 0, none, none⟩]
    let acts : List Act := [.step .beginStart, .step (.advance 0), .step (.advance 0), .step .work,
      .step (.send (.scanResults true)), .step .notify, .step .work, .step .notify, .poll,
      .step .beginStop, .step (.advance 1), .step .work, .step (.advance 1), .step .notify,
      .step .notify, .poll, .step .notify]
    let w := (new config radio 0).watch.after acts
    let happenings := (new config radio 0).trace (stepsOf acts)
    (∀ x ∈ happenings, x.isCallbackCrash = false) ∧
    ⟨1, .stop, .finished .done⟩ ∈ (w.tracker.step (.advance 1)).calls ∧
    ⟨1, .stop, .finished .done⟩ ∉ w.tracker.calls ∧
    w.got.length = 2 ∧ (produced config.policy happenings).length = 2 ∧
    heardIn happenings = produced config.policy happenings := by
  intro config radio acts w happenings
  have hcalm : ∀ x ∈ happenings, x.isCallbackCrash = false := by decide +kernel
  have hafter : ⟨1, .stop, .finished .done⟩ ∈ (w.tracker.step (.advance 1)).calls := by
    decide +kernel
  have hbefore : ⟨1, .stop, .finished .done⟩ ∉ w.tracker.calls := by decide +kernel
  have htold := notices_told_once config radio 0 acts hcalm
  exact ⟨hcalm, hafter, hbefore, by decide +kernel, by decide +kernel,
    (htold.2.2.2.2.1 _ _ _ hafter hbefore).2.2⟩

end Tracker

end ScanRoster
