import Mathlib.Data.List.TakeWhile
import ScanRoster.Proofs.Tracker.Handling
import ScanRoster.Proofs.Tracker.Lifecycle

/-!
# What is told is what was made

The worker makes a notice of every list that it shows and of every radio state that is news, and the
notifier tells them one by one, as far behind as it may be.  In every run of tasks, callbacks are
called for the first of the notices that were made, and the first of these are broadcast
(`told_in_order`), so each goes back to the list or state that it was made of (`exists_origin`).  All
this holds between any two accesses of the worker, and wherever the notifier crashes.
-/

namespace ScanRoster

namespace Handling

/-! ## What a log tells -/

namespace Event

/-- The notice that is made of an event. -/
def made? : Event → Option Notice
  | .shown _ _ entries => some (.entriesChanged entries)
  | .recorded _ state changed => if changed then some (.stateChanged state) else none
  | _ => none

/-- The notice whose callback is called. -/
def called? : Event → Option Notice
  | .called n => some n
  | _ => none

/-- The notice that is broadcast. -/
def heard? : Event → Option Notice
  | .broadcast n => some n
  | _ => none

theorem heard?_eq_some_iff {y : Event} {n : Notice} : y.heard? = some n ↔ y = .broadcast n := by
  cases y <;> simp [heard?]

end Event

/-- The notices that were made, in order. -/
def madeIn (log : List Event) : List Notice :=
  log.filterMap Event.made?

/-- The notices whose callbacks were called, in order. -/
def callbacksIn (log : List Event) : List Notice :=
  log.filterMap Event.called?

/-- The notices that were broadcast, in order. -/
def broadcastsIn (log : List Event) : List Notice :=
  log.filterMap Event.heard?

/-- The part of a log that is about the run that was started last. -/
def lastRun (log : List Event) : List Event :=
  (log.reverse.takeWhile (· ≠ .spawned)).reverse

section

variable (log : List Event)

theorem lastRun_spawned : lastRun (log ++ [.spawned]) = [] := by
  simp [lastRun]

theorem lastRun_append {more : List Event} (h : .spawned ∉ more) :
    lastRun (log ++ more) = lastRun log ++ more := by
  have hall : ∀ x ∈ more.reverse, decide (x ≠ .spawned) = true := by
    intro x hx
    rw [decide_eq_true_eq]
    rintro rfl
    exact h (List.mem_reverse.mp hx)
  rw [lastRun, List.reverse_append, List.takeWhile_append_of_pos hall, List.reverse_append,
    List.reverse_reverse, lastRun]

/-- What is picked out of a run grows by what one more event gives. -/
theorem filterMap_lastRun_concat (f : Event → Option Notice) {y : Event} (hy : y ≠ .spawned) :
    (lastRun (log ++ [y])).filterMap f = (lastRun log).filterMap f ++ (f y).toList := by
  rw [lastRun_append log (by simpa [eq_comm] using hy), List.filterMap_append]
  cases hfy : f y <;> simp [hfy]

theorem spawned_not_mem_lastRun : .spawned ∉ lastRun log := by
  intro hmem
  have hother := List.mem_takeWhile_imp (List.mem_reverse.mp hmem)
  simp at hother

/-- What comes before the last run is a log that ends where a run starts. -/
theorem exists_eq_append_lastRun : ∃ earlier, log = earlier ++ lastRun log ∧ lastRun earlier = [] := by
  induction log using List.reverseRecOn with
  | nil => exact ⟨[], rfl, rfl⟩
  | append_singleton log x ih =>
      by_cases hx : x = .spawned
      · subst hx
        exact ⟨log ++ [.spawned], by rw [lastRun_spawned, List.append_nil], lastRun_spawned log⟩
      · obtain ⟨earlier, hlog, hearlier⟩ := ih
        refine ⟨earlier, ?_, hearlier⟩
        rw [lastRun_append log (by simpa [eq_comm] using hx), ← List.append_assoc, ← hlog]

end

/-- An element of a list that is picked out of another goes back to one that has as many picked out
before it. -/
theorem exists_eq_append_of_filterMap {α β : Type} {f : α → Option β} {l : List α}
    {before rest : List β} {b : β} (h : l.filterMap f = before ++ b :: rest) :
    ∃ l₁ a l₂, l = l₁ ++ a :: l₂ ∧ f a = some b ∧ l₁.filterMap f = before := by
  obtain ⟨l₁, l₂, rfl, hbefore, hrest⟩ := List.filterMap_eq_append_iff.mp h
  obtain ⟨l₃, a, l₄, rfl, hnone, ha, -⟩ := List.filterMap_eq_cons_iff.mp hrest
  refine ⟨l₁ ++ l₃, a, l₄, (List.append_assoc ..).symm, ha, ?_⟩
  rw [List.filterMap_append, hbefore, List.filterMap_eq_nil_iff.mpr hnone, List.append_nil]

/-! ## Where a notice comes from -/

/-- The event that a notice of its run was made of, where these notices were told before it: as many
were made before, and no other run was started since. -/
structure Origin (n : Notice) (told : List Notice) (before : List Event) (own : Event)
    (since : List Event) : Prop where
  made_eq : own.made? = some n
  before_eq : madeIn (lastRun before) = told
  sameRun : .spawned ∉ since

theorem exists_origin {past : List Event} {told : List Notice} {n : Notice}
    (h : told ++ [n] <+: madeIn (lastRun past)) :
    ∃ before own since, past = before ++ own :: since ∧ Origin n told before own since := by
  obtain ⟨rest, hrest⟩ := h
  rw [List.append_assoc] at hrest
  obtain ⟨before, own, since, hrun, hmade, hbefore⟩ := exists_eq_append_of_filterMap hrest.symm
  obtain ⟨earlier, hpast, hearlier⟩ := exists_eq_append_lastRun past
  have hother : .spawned ∉ before ++ own :: since := hrun ▸ spawned_not_mem_lastRun past
  simp only [List.mem_append, List.mem_cons, not_or] at hother
  refine ⟨earlier ++ before, own, since, ?_, hmade, ?_, hother.2.2⟩
  · rw [hpast, hrun, List.append_assoc]
  · rw [lastRun_append earlier hother.1, hearlier]
    exact hbefore

end Handling

/-! ## Steps in which no signal is handled -/

namespace Tracker

section

variable {t t' : Tracker} {s : Step} {happening : Option Happening}

/-- A worker stays live while it is not its turn. -/
theorem live_move (hmove : Move t s happening t') (hwork : s ≠ .work) (h : Orderly t) {run : Run}
    (hrun : t.run = some run) (hlive : run.worker.isLive = true) :
    ∃ run', t'.run = some run' ∧ run'.worker.isLive = true := by
  have hsame : ∀ run', t.run = some run' → run'.worker.isLive = true := by
    intro run' hrun'
    rwa [← Option.some.inj (hrun.symm.trans hrun')]
  cases hmove with
  | spawned c hc hkind hstage hfree hrunning =>
      -- nothing is spawned while there is a run
      have hnone := (h.phase.of_not_running (lifecycleHeld_eq_false_iff.mp hfree) hrunning).1
      exact nomatch hrun.symm.trans hnone
  | stopped c run' hc hstage hrun' =>
      -- a run is only forgotten once its worker has ended
      have hmem : Stage.helpers ∈ t.held := hstage ▸ stage_mem_held hc (by rw [hstage]; rfl)
      have hended := (h.phase.of_helpers hmem hrun').2.1
      exact nomatch (hsame _ hrun').symm.trans hended
  | cancelled c run' hc hkind hstage hfree hrun' => exact ⟨_, rfl, hsame run' hrun'⟩
  | queued c run' s hc hstage hintake hrun' hlive' => exact ⟨_, rfl, hlive'⟩
  | lined c run' s hc hstage hintake hrun' hlive' => exact ⟨_, rfl, hlive'⟩
  | sent s run' hintake hrun' hlive' => exact ⟨_, rfl, hlive'⟩
  | callbackCrashed run' n rest hrun' => exact ⟨_, rfl, hsame run' hrun'⟩
  | called run' n rest hrun' => exact ⟨_, rfl, hsame run' hrun'⟩
  | broadcast run' n hrun' => exact ⟨_, rfl, hsame run' hrun'⟩
  | notifierEnded run' hrun' => exact ⟨_, rfl, hsame run' hrun'⟩
  | world s radio clock elapsed trigger =>
      refine ⟨{ run with trigger := trigger run.trigger }, ?_, hlive⟩
      rw [hrun]
      rfl
  | ended => exact absurd rfl hwork
  | crashed => exact absurd rfl hwork
  | stateRead => exact absurd rfl hwork
  | scanMissed => exact absurd rfl hwork
  | scanTaken => exact absurd rfl hwork
  | _ => exact ⟨run, hrun, hlive⟩

/-- A worker that stays live leaves the phase as it is. -/
theorem outline_live {run : Run} (hrun : t.run = some run) {roster : Roster} {firstRead : Bool}
    (hworker : run.worker = .live roster firstRead) (roster' : Roster) (firstRead' : Bool) :
    (some { run with worker := .live roster' firstRead' }).map Run.outline =
      t.run.map Run.outline := by
  rw [hrun, Option.map_some, Option.map_some, Run.outline, Run.outline, hworker]
  rfl

theorem outline_tellAll (run : Option Run) (notices : List Notice) :
    (run.map (Run.tellAll · notices)).map Run.outline = run.map Run.outline := by
  rw [Option.map_map]
  rfl

theorem waiting_tellAll (t : Tracker) (notices : List Notice) :
    waiting { t with run := t.run.map (Run.tellAll · notices) } = t.waiting := by
  unfold waiting
  cases t.run <;> rfl

/-- What readers find stays as it is while no signal is handled. -/
theorem cells_move (hmove : Move t s happening t') (hquiet : s = .work → happening = none) :
    t'.feed = t.feed ∧ t'.recorded = t.recorded := by
  cases hmove with
  | stateRead => exact nomatch hquiet rfl
  | scanTaken => exact nomatch hquiet rfl
  | _ => exact ⟨rfl, rfl⟩

end

end Tracker

namespace Handling

open Tracker (Run.shift Run.tellAll)

variable {w w' : Handling} {s : Step} {x : Option Event}

/-! ## Whose signal it is -/

/-- A worker that has a signal in hand is live, and no stop waits for the answer. -/
structure Manned (w : Handling) : Prop where
  orderly : Tracker.Orderly w.tracker
  live : w.hand ≠ .idle → ∃ run, w.tracker.run = some run ∧ run.worker.isLive = true
  answerable : ∀ e ∈ w.hand.envelope?, ∀ id ∈ e.caller,
    ∃ c ∈ w.tracker.calls, c.id = id ∧ c.kind ≠ .stop

namespace Manned

/-- The worker gets on with the signal that it has in hand. -/
theorem getOn (h : Manned w) {hand hand' : Hand} (hhand : w.hand = hand) {e : Envelope}
    (he : hand.envelope? = some e) (he' : hand'.envelope? = some e) {feed : Feed}
    {recorded : RadioState} {recordings : Nat} {run : Option Run}
    (hwaiting : Tracker.waiting { w.tracker with run } = w.tracker.waiting)
    (hrun : run.map Tracker.Run.outline = w.tracker.run.map Tracker.Run.outline) :
    Manned ⟨{ w.tracker with feed, recorded, recordings, run }, hand'⟩ where
  orderly := h.orderly.congr rfl rfl hwaiting hrun rfl rfl
  live := by
    intro _
    have hbusy : w.hand ≠ .idle := by
      rintro hidle
      rw [← hhand, hidle] at he
      contradiction
    obtain ⟨run', hsome, hlive⟩ := h.live hbusy
    rw [hsome, Option.map_some] at hrun
    obtain ⟨run'', hsome', houtline⟩ := Option.map_eq_some_iff.mp hrun
    exact ⟨run'', hsome', (congrArg Prod.snd houtline).trans hlive⟩
  answerable := by
    rw [he', ← he, ← hhand]
    exact h.answerable

/-- The worker is done with the signal that it had in hand. -/
theorem done {t' : Tracker} (horderly : t'.Orderly) : Manned ⟨t', .idle⟩ :=
  ⟨horderly, fun hbusy => absurd rfl hbusy, nofun⟩

end Manned

theorem manned_move (hmove : Move w s x w') (h : Manned w) : Manned w' := by
  cases hmove with
  | tracker s hquiet =>
      refine ⟨Tracker.orderly_step h.orderly s, fun hbusy => ?_, fun e he id hid => ?_⟩
      · obtain ⟨run, hrun, hlive⟩ := h.live hbusy
        have hwork : s ≠ .work := fun hs => hbusy (hquiet hs).1
        exact Tracker.live_move (Tracker.move_step _ s) hwork h.orderly hrun hlive
      · obtain ⟨c, hc, rfl, hkind⟩ := h.answerable e he id hid
        obtain ⟨c', hc', hid', hkind'⟩ := Tracker.exists_call_move (Tracker.move_step _ s) hc
        exact ⟨c', hc', hid', hkind' ▸ hkind⟩
  | stuck => exact h
  | taken run e rest hidle hrun hlive hqueue =>
      have hwaiting : w.tracker.waiting =
          e :: ((Run.shift run rest).queue ++ (Run.shift run rest).line) := by
        rw [Tracker.waiting_of_run hrun, Tracker.waiting_shift hqueue]
      refine ⟨h.orderly.extend rfl rfl ?_ (by rw [hrun]; rfl) rfl rfl, fun _ => ⟨_, rfl, hlive⟩, ?_⟩
      · rw [hwaiting]
        exact fun e' he' => Or.inl (List.mem_cons_of_mem _ he')
      · intro e' he'
        obtain rfl : e = e' := Option.some.inj he'
        exact h.orderly.enrolled.answerable e (hwaiting ▸ List.mem_cons_self ..)
  | crashed run e hhand hrun hlive =>
      -- as if the signal was still in front of the queue
      have hback : Tracker.Orderly { w.tracker with
          run := some { run with queue := e :: run.queue } } := by
        refine h.orderly.extend rfl rfl (fun e' he' => ?_) (by rw [hrun]; rfl) rfl rfl
        rw [Tracker.waiting_of_run hrun]
        rcases List.mem_cons.mp he' with rfl | hold
        · exact Or.inr (h.answerable e' (by rw [hhand]; rfl))
        · exact Or.inl hold
      exact .done (hback.endWorker rfl hlive run rfl rfl (List.Subset.refl _))
  | missed e hhand => exact h.getOn hhand rfl rfl rfl rfl
  | asked e hhand => exact h.getOn hhand rfl rfl rfl rfl
  | ingested run roster firstRead e c hhand hrun hworker =>
      exact h.getOn hhand rfl rfl (Tracker.waiting_of_run hrun).symm
        (Tracker.outline_live hrun hworker _ _)
  | recorded run roster firstRead e state changed hhand hrun hworker =>
      exact h.getOn hhand rfl rfl (Tracker.waiting_of_run hrun).symm
        (Tracker.outline_live hrun hworker _ _)
  | shown e report entries hhand => exact h.getOn hhand rfl rfl rfl rfl
  | counted e report hhand => exact h.getOn hhand rfl rfl rfl rfl
  | loaded e report hhand => exact h.getOn hhand rfl rfl rfl rfl
  | told e notices o hhand =>
      exact h.getOn hhand rfl rfl (Tracker.waiting_tellAll _ _) (Tracker.outline_tellAll _ _)
  | answered e o hhand =>
      refine .done (h.orderly.answer (fun e' he' => ?_) _)
      rw [List.mem_singleton.mp he']
      exact h.answerable e (by rw [hhand]; rfl)

end Handling

/-- The notice whose callback has been called and that is still to be broadcast. -/
def Notifier.inHand : Notifier → List Notice
  | .telling n => [n]
  | _ => []

/-- The notices that the worker has made and not yet given to the notifier. -/
def Hand.pending (feed : Feed) : Hand → List Notice
  | .shown _ _ | .counted _ _ => [.entriesChanged feed.snapshot]
  | .telling _ notices _ => notices
  | _ => []

namespace Handling

open Tracker (Run.tellAll)

/-! ## What was told and what is to be told -/

/-- In a run, callbacks are called for the first of the notices that were made, and the first of these
are broadcast.  While the notifier is there, nothing is lost in between: what was called and what
waits for it or is still with the worker make up what was made. -/
structure Telling (t : Tracker) (pending made called heard : List Notice) : Prop where
  heard_le : heard <+: called
  called_le : called <+: made
  called_eq : ∀ run ∈ t.run, run.notifier.isLive = true → heard ++ run.notifier.inHand = called
  made_eq : ∀ run ∈ t.run, run.notifier.isLive = true → called ++ (run.notices ++ pending) = made

namespace Telling

variable {t t' : Tracker} {pending made called heard : List Notice} {run run' : Run}

/-- The notifier and its notices stay as they are. -/
theorem congr (h : Telling t pending made called heard) (hrun : ∀ run' ∈ t'.run, ∃ run ∈ t.run,
    run'.notifier = run.notifier ∧ run'.notices = run.notices) :
    Telling t' pending made called heard where
  heard_le := h.heard_le
  called_le := h.called_le
  called_eq := by
    intro run' hmem hlive
    obtain ⟨run, hmem', hnotifier, -⟩ := hrun run' hmem
    rw [hnotifier] at hlive ⊢
    exact h.called_eq run hmem' hlive
  made_eq := by
    intro run' hmem hlive
    obtain ⟨run, hmem', hnotifier, hnotices⟩ := hrun run' hmem
    rw [hnotifier] at hlive
    rw [hnotices]
    exact h.made_eq run hmem' hlive

theorem of_run (h : Telling t pending made called heard) (hrun : t.run = some run)
    (hrun' : t'.run = some run') (hnotifier : run'.notifier = run.notifier)
    (hnotices : run'.notices = run.notices) : Telling t' pending made called heard := by
  refine h.congr fun run'' hmem => ⟨run, hrun, ?_⟩
  obtain rfl := Option.some.inj (hrun'.symm.trans hmem)
  exact ⟨hnotifier, hnotices⟩

theorem same (h : Telling t pending made called heard) (hrun : t'.run = t.run) :
    Telling t' pending made called heard :=
  h.congr fun run hmem => ⟨run, hrun ▸ hmem, rfl, rfl⟩

/-- A run starts with nothing told and nothing to tell. -/
theorem spawn (t : Tracker) : Telling t.spawn [] [] [] [] := by
  refine ⟨List.prefix_refl _, List.prefix_refl _, fun run hmem _ => ?_, fun run hmem _ => ?_⟩
  · obtain rfl := Option.some.inj hmem
    rfl
  · obtain rfl := Option.some.inj hmem
    rfl

/-- The callback of the first notice that waits is called, and returns or crashes. -/
theorem call (h : Telling t pending made called heard) (hrun : t.run = some run)
    (hnotifier : run.notifier = .live) {n : Notice} {rest : List Notice}
    (hnotices : run.notices = n :: rest) (hrun' : t'.run = some run')
    (hafter : run'.notifier = .telling n ∧ run'.notices = rest ∨ run'.notifier = .crashed) :
    Telling t' pending made (called ++ [n]) heard := by
  have hlive : run.notifier.isLive = true := by rw [hnotifier]; rfl
  have hmade := h.made_eq run hrun hlive
  rw [hnotices] at hmade
  have hheard : heard = called := by
    rw [← h.called_eq run hrun hlive, hnotifier]
    exact (List.append_nil _).symm
  -- only a callback that returns leaves a notifier that is at work
  have hreturned : ∀ run'' ∈ t'.run, run''.notifier.isLive = true →
      run''.notifier = .telling n ∧ run''.notices = rest := by
    intro run'' hmem hlive''
    obtain rfl := Option.some.inj (hrun'.symm.trans hmem)
    refine hafter.resolve_right fun hcrashed => ?_
    rw [hcrashed] at hlive''
    contradiction
  refine ⟨?_, ?_, fun run'' hmem hlive'' => ?_, fun run'' hmem hlive'' => ?_⟩
  · rw [hheard]
    exact List.prefix_append _ _
  · rw [← hmade]
    exact ⟨rest ++ pending, by simp⟩
  · rw [(hreturned run'' hmem hlive'').1, hheard]
    rfl
  · rw [(hreturned run'' hmem hlive'').2, ← hmade]
    simp

/-- The notice whose callback has been called is broadcast. -/
theorem hear (h : Telling t pending made called heard) (hrun : t.run = some run) {n : Notice}
    (hnotifier : run.notifier = .telling n) (hrun' : t'.run = some run')
    (hidle : run'.notifier = .live) (hnotices : run'.notices = run.notices) :
    Telling t' pending made called (heard ++ [n]) := by
  have hlive : run.notifier.isLive = true := by rw [hnotifier]; rfl
  have hcalled : heard ++ [n] = called := by
    rw [← h.called_eq run hrun hlive, hnotifier]
    rfl
  rw [hcalled]
  refine ⟨List.prefix_refl _, h.called_le, fun run'' hmem _ => ?_, fun run'' hmem _ => ?_⟩
  · obtain rfl := Option.some.inj (hrun'.symm.trans hmem)
    rw [hidle]
    exact List.append_nil _
  · obtain rfl := Option.some.inj (hrun'.symm.trans hmem)
    rw [hnotices]
    exact h.made_eq run hrun hlive

/-- A notifier that is no longer there has told what it has told. -/
theorem gone (h : Telling t pending made called heard)
    (hgone : ∀ run ∈ t'.run, run.notifier.isLive = false) : Telling t' pending made called heard := by
  refine ⟨h.heard_le, h.called_le, fun run hmem hlive => ?_, fun run hmem hlive => ?_⟩
  · exact nomatch (hgone run hmem).symm.trans hlive
  · exact nomatch (hgone run hmem).symm.trans hlive

/-- The worker makes notices of what it shows or takes down. -/
theorem make (h : Telling t [] made called heard) (more : List Notice) :
    Telling t more (made ++ more) called heard := by
  refine ⟨h.heard_le, h.called_le.trans (List.prefix_append _ _), h.called_eq,
    fun run hmem hlive => ?_⟩
  rw [← h.made_eq run hmem hlive]
  simp

/-- The worker gives its notices to the notifier. -/
theorem give (h : Telling t pending made called heard) :
    Telling { t with run := t.run.map (Run.tellAll · pending) } [] made called heard := by
  refine ⟨h.heard_le, h.called_le, fun run' hmem hlive => ?_, fun run' hmem hlive => ?_⟩
  · obtain ⟨run, hrun, rfl⟩ := Option.map_eq_some_iff.mp hmem
    exact h.called_eq run hrun hlive
  · obtain ⟨run, hrun, rfl⟩ := Option.map_eq_some_iff.mp hmem
    have hlive' : run.notifier.isLive = true := hlive
    rw [Run.tellAll, if_pos hlive', List.append_nil]
    exact h.made_eq run hrun hlive'

end Telling

/-- What was told and is to be told of the notices that were made in the last run of a log. -/
def TellsIn (log : List Event) (t : Tracker) (pending : List Notice) : Prop :=
  Telling t pending (madeIn (lastRun log)) (callbacksIn (lastRun log)) (broadcastsIn (lastRun log))

theorem tellsIn_concat {log : List Event} {y : Event} (hy : y ≠ .spawned) {t : Tracker}
    {pending : List Notice} :
    TellsIn (log ++ [y]) t pending ↔
      Telling t pending (madeIn (lastRun log) ++ y.made?.toList)
        (callbacksIn (lastRun log) ++ y.called?.toList)
        (broadcastsIn (lastRun log) ++ y.heard?.toList) := by
  unfold TellsIn madeIn callbacksIn broadcastsIn
  rw [filterMap_lastRun_concat log _ hy, filterMap_lastRun_concat log _ hy,
    filterMap_lastRun_concat log _ hy]

section

variable {t : Tracker} {pending : List Notice} {log : List Event} {n : Notice}

theorem tellsIn_called (h : Telling t pending (madeIn (lastRun log))
    (callbacksIn (lastRun log) ++ [n]) (broadcastsIn (lastRun log))) :
    TellsIn (log ++ [.called n]) t pending := by
  refine (tellsIn_concat (by simp)).mpr ?_
  simpa [Event.made?, Event.called?, Event.heard?] using h

theorem tellsIn_broadcast (h : Telling t pending (madeIn (lastRun log))
    (callbacksIn (lastRun log)) (broadcastsIn (lastRun log) ++ [n])) :
    TellsIn (log ++ [.broadcast n]) t pending := by
  refine (tellsIn_concat (by simp)).mpr ?_
  simpa [Event.made?, Event.called?, Event.heard?] using h

theorem tellsIn_made {y : Event} (hy : y ≠ .spawned) (hcalled : y.called? = none)
    (hheard : y.heard? = none) (h : Telling t pending (madeIn (lastRun log) ++ y.made?.toList)
      (callbacksIn (lastRun log)) (broadcastsIn (lastRun log))) :
    TellsIn (log ++ [y]) t pending := by
  refine (tellsIn_concat hy).mpr ?_
  simpa [hcalled, hheard] using h

end

/-- The notifier does its work where the worker handles no signal. -/
theorem tellsIn_tracker {t t' : Tracker} {s : Step} {happening : Option Happening}
    (hmove : Tracker.Move t s happening t') (hquiet : s = .work → happening = none)
    (horderly : t.Orderly) {pending : List Notice} (hpending : t.run = none → pending = [])
    {log : List Event} (h : TellsIn log t pending) :
    TellsIn (log ++ (happening.bind Event.of?).toList) t' pending := by
  have hsilent : happening.bind Event.of? = none → TellsIn log t' pending →
      TellsIn (log ++ (happening.bind Event.of?).toList) t' pending := by
    intro hnone hsame
    rwa [hnone, Option.toList_none, List.append_nil]
  cases hmove with
  | spawned c hc hkind hstage hfree hrunning =>
      -- another run: what was still to be told of the last one stays untold
      obtain ⟨hnone, -⟩ := horderly.phase.of_not_running
        (Tracker.lifecycleHeld_eq_false_iff.mp hfree) hrunning
      show TellsIn (log ++ [.spawned]) _ _
      rw [hpending hnone, TellsIn, lastRun_spawned]
      exact (Telling.spawn t).same rfl
  | cancelled c run hc hkind hstage hfree hrun => exact hsilent rfl (h.of_run hrun rfl rfl rfl)
  | stopped c run => exact hsilent rfl (h.congr nofun)
  | queued c run s hc hstage hintake hrun => exact hsilent rfl (h.of_run hrun rfl rfl rfl)
  | lined c run s hc hstage hintake hrun => exact hsilent rfl (h.of_run hrun rfl rfl rfl)
  | sent s run hintake hrun => exact hsilent rfl (h.of_run hrun rfl rfl rfl)
  | ended run roster firstRead hrun => exact hsilent rfl (h.of_run hrun rfl rfl rfl)
  | crashed => exact nomatch hquiet rfl
  | stateRead => exact nomatch hquiet rfl
  | scanMissed => exact nomatch hquiet rfl
  | scanTaken => exact nomatch hquiet rfl
  | callbackCrashed run n rest hrun hnotifier hnotices =>
      exact tellsIn_called (h.call hrun hnotifier hnotices rfl (Or.inr rfl))
  | called run n rest hrun hnotifier hnotices =>
      exact tellsIn_called (h.call hrun hnotifier hnotices rfl (Or.inl ⟨rfl, rfl⟩))
  | broadcast run n hrun hnotifier =>
      exact tellsIn_broadcast (h.hear hrun hnotifier rfl rfl rfl)
  | notifierEnded run =>
      refine hsilent rfl (h.gone fun run' hmem => ?_)
      obtain rfl := Option.some.inj hmem
      rfl
  | world s radio clock elapsed trigger =>
      refine hsilent rfl (h.congr fun run' hmem => ?_)
      obtain ⟨run, hrun, rfl⟩ := Option.map_eq_some_iff.mp hmem
      exact ⟨run, hrun, rfl, rfl⟩
  | _ => exact hsilent rfl (h.same rfl)

theorem tellsIn_move {w w' : Handling} {s : Step} {x : Option Event} {log : List Event}
    (hmove : Move w s x w') (hmanned : Manned w)
    (h : TellsIn log w.tracker (w.hand.pending w.tracker.feed)) :
    TellsIn (log ++ x.toList) w'.tracker (w'.hand.pending w'.tracker.feed) := by
  have hhas : ∀ {hand : Hand}, w.hand = hand →
      TellsIn log w.tracker (hand.pending w.tracker.feed) := by
    rintro hand rfl
    exact h
  have hsilent : TellsIn log w'.tracker (w'.hand.pending w'.tracker.feed) →
      TellsIn (log ++ []) w'.tracker (w'.hand.pending w'.tracker.feed) := by
    intro hsame
    rwa [List.append_nil]
  cases hmove with
  | tracker s hquiet =>
      have hstep := Tracker.move_step w.tracker s
      have hnothing := fun hs => (hquiet hs).2
      dsimp only
      rw [(Tracker.cells_move hstep hnothing).1]
      refine tellsIn_tracker hstep hnothing hmanned.orderly (fun hnone => ?_) h
      -- without a run, no worker has anything in hand
      have hidle : w.hand = .idle := by
        by_contra hbusy
        obtain ⟨run, hrun, -⟩ := hmanned.live hbusy
        exact nomatch hnone.symm.trans hrun
      rw [hidle]
      rfl
  | stuck => exact hsilent h
  | taken run e rest hidle hrun => exact hsilent ((hhas hidle).of_run hrun rfl rfl rfl)
  | crashed run e hhand hrun => exact hsilent ((hhas hhand).of_run hrun rfl rfl rfl)
  | missed e hhand => exact hsilent ((hhas hhand).same rfl)
  | asked e hhand => exact hsilent ((hhas hhand).same rfl)
  | ingested run roster firstRead e c hhand hrun =>
      exact hsilent ((hhas hhand).of_run hrun rfl rfl rfl)
  | recorded run roster firstRead e state changed hhand hrun =>
      have hmade := (hhas hhand).make (Event.recorded e.caller state changed).made?.toList
      refine tellsIn_made (by simp) rfl rfl ?_
      cases changed <;> exact hmade.of_run hrun rfl rfl rfl
  | shown e report entries hhand =>
      have hmade := (hhas hhand).make [.entriesChanged entries]
      exact tellsIn_made (by simp) rfl rfl (hmade.same rfl)
  | counted e report hhand => exact hsilent ((hhas hhand).same rfl)
  | loaded e report hhand => exact hsilent ((hhas hhand).same rfl)
  | told e notices o hhand => exact hsilent (hhas hhand).give
  | answered e o hhand => exact hsilent ((hhas hhand).same rfl)

/-! ## Runs -/

section

variable (config : TrackerConfig) (radio : Radio) (clock : Int64)

theorem manned_after (steps : List Step) : Manned ((new config radio clock).after steps) := by
  induction steps using List.reverseRecOn with
  | nil => exact .done (.new config radio clock)
  | append_singleton steps s ih =>
      rw [after_concat]
      exact manned_move (move_step _ s) ih

theorem tellsIn_after (steps : List Step) :
    let w := (new config radio clock).after steps
    TellsIn ((new config radio clock).log steps) w.tracker (w.hand.pending w.tracker.feed) := by
  induction steps using List.reverseRecOn with
  | nil => exact ⟨List.prefix_refl _, List.prefix_refl _, nofun, nofun⟩
  | append_singleton steps s ih =>
      rw [after_concat, log_concat]
      exact tellsIn_move (move_step _ s) (manned_after config radio clock steps) ih

/-- At every moment of every run, the callbacks were called for the first of the notices that were
made, and the first of these were broadcast. -/
theorem told_in_order {steps : List Step} {past : List Event}
    (hpast : past <+: (new config radio clock).log steps) :
    broadcastsIn (lastRun past) <+: callbacksIn (lastRun past) ∧
      callbacksIn (lastRun past) <+: madeIn (lastRun past) := by
  induction steps using List.reverseRecOn with
  | nil =>
      rw [List.prefix_nil.mp hpast]
      exact ⟨List.prefix_refl _, List.prefix_refl _⟩
  | append_singleton steps s ih =>
      have htelling := tellsIn_after config radio clock (steps ++ [s])
      dsimp only at htelling
      rw [log_concat] at hpast htelling
      cases hx : ((new config radio clock).after steps).event? s with
      | none =>
          rw [hx, Option.toList_none, List.append_nil] at hpast
          exact ih hpast
      | some y =>
          rw [hx, Option.toList_some] at hpast htelling
          rcases List.prefix_concat_iff.mp hpast with rfl | hbefore
          · exact ⟨htelling.heard_le, htelling.called_le⟩
          · exact ih hbefore

/-- Behind the notices whose callbacks were called, the one whose callback is called next was made. -/
theorem next_called {steps : List Step} {past later : List Event} {n : Notice}
    (hlog : (new config radio clock).log steps = past ++ .called n :: later) :
    callbacksIn (lastRun past) ++ [n] <+: madeIn (lastRun past) := by
  have hprefix : past ++ [.called n] <+: (new config radio clock).log steps :=
    ⟨later, by rw [hlog, List.append_assoc, List.singleton_append]⟩
  have hcalled := (told_in_order config radio clock hprefix).2
  unfold callbacksIn madeIn at hcalled
  rw [filterMap_lastRun_concat past _ (by simp), filterMap_lastRun_concat past _ (by simp)] at hcalled
  simpa [callbacksIn, madeIn, Event.called?, Event.made?] using hcalled

/-- Behind the notices that were broadcast, the one that is broadcast next was made. -/
theorem next_broadcast {steps : List Step} {past later : List Event} {n : Notice}
    (hlog : (new config radio clock).log steps = past ++ .broadcast n :: later) :
    broadcastsIn (lastRun past) ++ [n] <+: madeIn (lastRun past) := by
  have hprefix : past ++ [.broadcast n] <+: (new config radio clock).log steps :=
    ⟨later, by rw [hlog, List.append_assoc, List.singleton_append]⟩
  have hheard := (told_in_order config radio clock hprefix).1
  unfold broadcastsIn callbacksIn at hheard
  rw [filterMap_lastRun_concat past _ (by simp), filterMap_lastRun_concat past _ (by simp)] at hheard
  -- what is broadcast was called before, and so was made before
  have hcalled := (told_in_order config radio clock (hlog ▸ List.prefix_append _ _)).2
  refine List.IsPrefix.trans ?_ hcalled
  simpa [broadcastsIn, callbacksIn, Event.heard?, Event.called?] using hheard

end

end Handling

end ScanRoster
