import ScanRoster.Proofs.Tracker.Refinement

/-!
# The notices that a worker owes

Which notices a worker produces is decided by the trace alone: one with the new list for every scan
that is taken in, and one with the radio state for every read that is the first of its start or
differs from the read before.  The worker keeps two things to know this, the state on record and
whether it has read since it was started, and both agree with the trace.
-/

namespace ScanRoster

/-- The state that was read, if one was. -/
def Happening.state? : Happening → Option RadioState
  | .stateRead state => some state
  | _ => none

/-- The radio state that was read last. -/
def lastState (happenings : List Happening) : RadioState :=
  (happenings.reverse.findSome? Happening.state?).getD .unknown

/-- Whether no radio state was read since the last start. -/
def unreadSinceStart (happenings : List Happening) : Bool :=
  (happenings.reverse.takeWhile (· ≠ .spawned)).all (·.state?.isNone)

/-- The notices that a happening calls for, after what has happened before. -/
def noticesOf (policy : AgePolicy) (before : List Happening) : Happening → List Notice
  | .stateRead state =>
    if lastState before ≠ state ∨ unreadSinceStart before = true then [.stateChanged state] else []
  | .scanTaken c => [.entriesChanged ((Reference.of policy before).store.ingest c).1.feed.snapshot]
  | _ => []

/-- The notices that some happenings call for, after what has happened before. -/
def producedAfter (policy : AgePolicy) (before : List Happening) : List Happening → List Notice
  | [] => []
  | h :: rest => noticesOf policy before h ++ producedAfter policy (before ++ [h]) rest

/-- The notices that a trace calls for, in their order. -/
def produced (policy : AgePolicy) (happenings : List Happening) : List Notice :=
  producedAfter policy [] happenings

theorem lastState_concat (happenings : List Happening) (h : Happening) :
    lastState (happenings ++ [h]) = h.state?.getD (lastState happenings) := by
  unfold lastState
  rw [List.reverse_concat, List.findSome?_cons]
  cases h.state? <;> rfl

theorem unreadSinceStart_concat (happenings : List Happening) (h : Happening) :
    unreadSinceStart (happenings ++ [h]) =
      (decide (h = .spawned) || (h.state?.isNone && unreadSinceStart happenings)) := by
  unfold unreadSinceStart
  rw [List.reverse_concat, List.takeWhile_cons]
  by_cases hspawned : h = .spawned
  · simp [hspawned]
  · simp [hspawned]

theorem producedAfter_append (policy : AgePolicy) (before happenings more : List Happening) :
    producedAfter policy before (happenings ++ more) =
      producedAfter policy before happenings ++
        producedAfter policy (before ++ happenings) more := by
  induction happenings generalizing before with
  | nil => simp [producedAfter]
  | cons h rest ih =>
      simp only [List.cons_append, producedAfter, ih, List.append_assoc, List.nil_append]

theorem produced_append (policy : AgePolicy) (happenings more : List Happening) :
    produced policy (happenings ++ more) =
      produced policy happenings ++ producedAfter policy happenings more :=
  producedAfter_append policy [] happenings more

/-- Whether a live worker is still to read for the first time. -/
def Worker.firstRead? : Worker → Option Bool
  | .live _ firstRead => some firstRead
  | _ => none

namespace Tracker

/-- A tracker knows the state that was read last, and its worker whether it has read yet. -/
structure Recalls (t : Tracker) (happenings : List Happening) : Prop where
  recorded : t.recorded = lastState happenings
  firstRead : ∀ run ∈ t.run, ∀ firstRead ∈ run.worker.firstRead?,
    firstRead = unreadSinceStart happenings

namespace Recalls

variable {t t' : Tracker} {happenings : List Happening} {run : Run}

theorem new (config : TrackerConfig) (radio : Radio) (clock : Int64) :
    Recalls (new config radio clock) [] :=
  ⟨rfl, nofun⟩

/-- A step in which nothing is read and no run begins. -/
theorem congr {happening : Option Happening} (h : Recalls t happenings)
    (hquiet : ∀ x ∈ happening, x.state? = none ∧ x ≠ .spawned)
    (hrecorded : t'.recorded = t.recorded)
    (hrun : ∀ run' ∈ t'.run, ∀ firstRead ∈ run'.worker.firstRead?,
      ∃ run ∈ t.run, firstRead ∈ run.worker.firstRead?) :
    Recalls t' (happenings ++ happening.toList) := by
  have hsame : lastState (happenings ++ happening.toList) = lastState happenings ∧
      unreadSinceStart (happenings ++ happening.toList) = unreadSinceStart happenings := by
    cases happening with
    | none => simp
    | some x =>
        obtain ⟨hstate, hspawned⟩ := hquiet x rfl
        constructor
        · rw [Option.toList_some, lastState_concat, hstate]
          rfl
        · rw [Option.toList_some, unreadSinceStart_concat, hstate]
          simp [hspawned]
  refine ⟨hrecorded.trans (h.recorded.trans hsame.1.symm), ?_⟩
  intro run' hrun' firstRead hfirst
  obtain ⟨run, hmem, hbefore⟩ := hrun run' hrun' firstRead hfirst
  exact (h.firstRead run hmem firstRead hbefore).trans hsame.2.symm

/-- A step of a run whose worker keeps its flag or ends. -/
theorem of_run {happening : Option Happening} (h : Recalls t happenings) (hrun : t.run = some run)
    (hquiet : ∀ x ∈ happening, x.state? = none ∧ x ≠ .spawned) {run' : Run}
    (hrun' : t'.run = some run') (hrecorded : t'.recorded = t.recorded)
    (hfirst : run'.worker.firstRead? = none ∨ run'.worker.firstRead? = run.worker.firstRead?) :
    Recalls t' (happenings ++ happening.toList) := by
  refine h.congr hquiet hrecorded fun run'' hrun'' firstRead hmem => ⟨run, hrun, ?_⟩
  obtain rfl := Option.some.inj (hrun'.symm.trans hrun'')
  rcases hfirst with hnone | hsame
  · rw [hnone] at hmem
    contradiction
  · exact hsame ▸ hmem

theorem move {s : Step} {happening : Option Happening} (hmove : Move t s happening t')
    (h : Recalls t happenings) : Recalls t' (happenings ++ happening.toList) := by
  cases hmove with
  | still => exact h.congr nofun rfl fun run hrun _ hfirst => ⟨run, hrun, hfirst⟩
  | begun _ kind stage hstage hstop =>
      exact h.congr nofun rfl fun run hrun _ hfirst => ⟨run, hrun, hfirst⟩
  | left c result hc hstage hidle =>
      exact h.congr nofun rfl fun run hrun _ hfirst => ⟨run, hrun, hfirst⟩
  | spawned c hc hkind hstage hfree hrunning =>
      refine ⟨h.recorded.trans (lastState_concat happenings .spawned).symm, ?_⟩
      intro run hrun firstRead hfirst
      rw [← Option.some.inj hrun] at hfirst
      rw [← Option.some.inj hfirst]
      exact (unreadSinceStart_concat happenings .spawned).symm
  | cancelled c run hc hkind hstage hfree hrun hlive =>
      exact h.of_run hrun nofun rfl rfl (Or.inr rfl)
  | parked c run hc hstage hrun hended => exact h.of_run hrun nofun hrun rfl (Or.inr rfl)
  | stopped c run hc hstage hrun hnotifier htrigger => exact h.congr nofun rfl nofun
  | queued c run s hc hstage hintake hrun hlive hroom =>
      exact h.of_run hrun nofun rfl rfl (Or.inr rfl)
  | lined c run s hc hstage hintake hrun hlive hroom =>
      exact h.of_run hrun nofun rfl rfl (Or.inr rfl)
  | returned c result hc hstage =>
      exact h.congr nofun rfl fun run hrun _ hfirst => ⟨run, hrun, hfirst⟩
  | sent s run hintake hrun hlive hroom => exact h.of_run hrun nofun rfl rfl (Or.inr rfl)
  | ended run roster firstRead hrun hworker hcancelled =>
      exact h.of_run hrun nofun rfl rfl (Or.inl rfl)
  | crashed run e rest roster firstRead hrun hworker hcancelled hqueue =>
      exact h.of_run hrun (by simp [Happening.state?]) rfl rfl (Or.inl rfl)
  | stateRead run e rest roster firstRead hrun hworker hcancelled hqueue hsignal =>
      refine ⟨(lastState_concat happenings (.stateRead t.radio.state)).symm, ?_⟩
      intro run' hrun' firstRead' hfirst
      rw [← Option.some.inj hrun'] at hfirst
      rw [← Option.some.inj hfirst]
      exact (unreadSinceStart_concat happenings (.stateRead t.radio.state)).symm
  | scanMissed run e rest roster firstRead updated hrun hworker hcancelled hqueue hsignal =>
      exact h.of_run hrun (by simp [Happening.state?]) rfl rfl (Or.inr (by rw [hworker]))
  | scanTaken run e rest roster firstRead updated sightings c hrun hworker hcancelled hqueue =>
      exact h.of_run hrun (by simp [Happening.state?]) rfl rfl (Or.inr (by rw [hworker]; rfl))
  | callbackCrashed run n rest hrun hnotifier hnotices hcrashing =>
      exact h.of_run hrun (by simp [Happening.state?]) rfl rfl (Or.inr rfl)
  | called run n rest hrun hnotifier hnotices hcrashing =>
      exact h.of_run hrun (by simp [Happening.state?]) rfl rfl (Or.inr rfl)
  | broadcast run n hrun hnotifier =>
      exact h.of_run hrun (by simp [Happening.state?]) rfl rfl (Or.inr rfl)
  | notifierEnded run hrun hnotifier hnotices hended =>
      exact h.of_run hrun nofun rfl rfl (Or.inr rfl)
  | world s radio clock elapsed trigger =>
      refine h.congr nofun rfl fun run' hrun' firstRead hfirst => ?_
      obtain ⟨run, hrun, rfl⟩ := Option.map_eq_some_iff.mp hrun'
      exact ⟨run, hrun, hfirst⟩
  | callbacksSet crashing =>
      exact h.congr nofun rfl fun run hrun _ hfirst => ⟨run, hrun, hfirst⟩

/-- The notices that a worker produces with a state are those that the trace calls for. -/
theorem stateNotices_eq (policy : AgePolicy) (h : Recalls t happenings) (hrun : t.run = some run)
    {roster : Roster} {firstRead : Bool} (hworker : run.worker = .live roster firstRead) :
    t.stateNotices firstRead = noticesOf policy happenings (.stateRead t.radio.state) := by
  have hfirst : firstRead = unreadSinceStart happenings :=
    h.firstRead run hrun firstRead (by rw [hworker]; rfl)
  unfold stateNotices noticesOf
  rw [h.recorded, hfirst]

end Recalls

end Tracker

end ScanRoster
