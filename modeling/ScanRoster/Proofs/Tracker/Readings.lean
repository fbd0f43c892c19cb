import ScanRoster.Proofs.Tracker.Notification
import ScanRoster.Proofs.Tracker.Telling

/-!
# Observers read what they were told

The worker may be far ahead of the notifier: when a notice comes, later cycles may have been shown
already, while the notice carries the list of its own.  Still no observer reads anything older than
what it was told, because the worker shows before it tells and before it answers: a notice that is
told was made of a list that was shown (`Telling`), and so was every outcome that a call has returned
with (`Answered`).
-/

namespace ScanRoster

namespace Handling

/-! ## What was shown last -/

/-- The entries that are shown. -/
def Event.entries? : Event → Option Snapshot
  | .shown _ _ entries => some entries
  | _ => none

/-- The radio state that is taken down. -/
def Event.state? : Event → Option RadioState
  | .recorded _ state _ => some state
  | _ => none

/-- The entries that were shown last. -/
def lastEntries (log : List Event) : Option Snapshot :=
  (log.filterMap Event.entries?).getLast?

/-- The radio state that was taken down last. -/
def lastState (log : List Event) : Option RadioState :=
  (log.filterMap Event.state?).getLast?

/-- Whether what readers find is what was shown or taken down last in these events, which is what this
notice is about. -/
def Reads (t : Tracker) (events : List Event) : Notice → Prop
  | .entriesChanged _ => lastEntries events = some t.entries
  | .stateChanged _ => lastState events = some t.recorded

section

variable (log more : List Event)

theorem lastEntries_append :
    lastEntries (log ++ more) = (lastEntries more).or (lastEntries log) := by
  rw [lastEntries, List.filterMap_append, List.getLast?_append]
  rfl

theorem lastState_append : lastState (log ++ more) = (lastState more).or (lastState log) := by
  rw [lastState, List.filterMap_append, List.getLast?_append]
  rfl

theorem lastEntries_concat (y : Event) :
    lastEntries (log ++ [y]) = y.entries?.or (lastEntries log) := by
  rw [lastEntries_append]
  cases hy : y.entries? <;> simp [lastEntries, hy]

theorem lastState_concat (y : Event) : lastState (log ++ [y]) = y.state?.or (lastState log) := by
  rw [lastState_append]
  cases hy : y.state? <;> simp [lastState, hy]

theorem lastEntries_shown (caller : Option Nat) (report : CycleReport) (entries : Snapshot) :
    lastEntries (.shown caller report entries :: log) = some ((lastEntries log).getD entries) := by
  rw [← List.singleton_append, lastEntries_append]
  cases lastEntries log <;> rfl

theorem lastState_recorded (caller : Option Nat) (state : RadioState) (changed : Bool) :
    lastState (.recorded caller state changed :: log) = some ((lastState log).getD state) := by
  rw [← List.singleton_append, lastState_append]
  cases lastState log <;> rfl

end

/-- Readers find what was shown and what was taken down last. -/
structure Current (t : Tracker) (log : List Event) : Prop where
  entries_eq : t.feed.snapshot = (lastEntries log).getD []
  state_eq : t.recorded = (lastState log).getD .unknown

namespace Current

variable {t t' : Tracker} {log : List Event}

theorem quiet (h : Current t log) (hentries : t'.feed.snapshot = t.feed.snapshot)
    (hstate : t'.recorded = t.recorded) {x : Option Event}
    (hx : ∀ y, x = some y → y.entries? = none ∧ y.state? = none) :
    Current t' (log ++ x.toList) := by
  cases x with
  | none =>
      rw [Option.toList_none, List.append_nil]
      exact ⟨hentries.trans h.entries_eq, hstate.trans h.state_eq⟩
  | some y =>
      obtain ⟨hnoEntries, hnoState⟩ := hx y rfl
      refine ⟨?_, ?_⟩
      · rw [Option.toList_some, lastEntries_concat, hnoEntries, Option.none_or, hentries, h.entries_eq]
      · rw [Option.toList_some, lastState_concat, hnoState, Option.none_or, hstate, h.state_eq]

variable {before since : List Event} {caller : Option Nat}

/-- After a list was shown, readers find it or one that was shown later. -/
theorem entries_of_shown {report : CycleReport} {entries : Snapshot}
    (h : Current t (before ++ .shown caller report entries :: since)) :
    lastEntries (.shown caller report entries :: since) = some t.entries := by
  have heq := h.entries_eq
  rw [lastEntries_append, lastEntries_shown, Option.some_or, Option.getD_some] at heq
  rw [lastEntries_shown, Tracker.entries, heq]

/-- After a state was taken down, readers find it or one that was taken down later. -/
theorem state_of_recorded {state : RadioState} {changed : Bool}
    (h : Current t (before ++ .recorded caller state changed :: since)) :
    lastState (.recorded caller state changed :: since) = some t.recorded := by
  have heq := h.state_eq
  rw [lastState_append, lastState_recorded, Option.some_or, Option.getD_some] at heq
  rw [lastState_recorded, heq]

theorem reads {own : Event} (h : Current t (before ++ own :: since)) {n : Notice}
    (hmade : own.made? = some n) : Reads t (own :: since) n := by
  cases own with
  | shown caller report entries =>
      rw [← Option.some.inj hmade]
      exact h.entries_of_shown
  | recorded caller state changed =>
      cases changed with
      | false => contradiction
      | true =>
          rw [← Option.some.inj hmade]
          exact h.state_of_recorded
  | _ => contradiction

end Current

/-- Where the worker handles no signal, nothing is shown or taken down. -/
theorem Event.of?_quiet {happening : Option Happening} {y : Event}
    (h : happening.bind Event.of? = some y) : y.entries? = none ∧ y.state? = none := by
  obtain ⟨happened, -, hy⟩ := Option.bind_eq_some_iff.mp h
  cases happened with
  | spawned => exact Option.some.inj hy ▸ ⟨rfl, rfl⟩
  | called n => exact Option.some.inj hy ▸ ⟨rfl, rfl⟩
  | callbackCrashed n => exact Option.some.inj hy ▸ ⟨rfl, rfl⟩
  | broadcast n => exact Option.some.inj hy ▸ ⟨rfl, rfl⟩
  | _ => contradiction

theorem current_move {w w' : Handling} {s : Step} {x : Option Event} {log : List Event}
    (hmove : Move w s x w') (h : Current w.tracker log) : Current w'.tracker (log ++ x.toList) := by
  have hsilent : ∀ {t' : Tracker}, t'.feed.snapshot = w.tracker.feed.snapshot →
      t'.recorded = w.tracker.recorded → Current t' (log ++ []) := by
    intro t' hentries hstate
    exact h.quiet (x := none) hentries hstate nofun
  cases hmove with
  | tracker s hquiet =>
      obtain ⟨hfeed, hstate⟩ :=
        Tracker.cells_move (Tracker.move_step w.tracker s) fun hs => (hquiet hs).2
      exact h.quiet (congrArg Feed.snapshot hfeed) hstate fun y hy => Event.of?_quiet hy
  | recorded run roster firstRead e state changed =>
      refine ⟨?_, ?_⟩
      · rw [Option.toList_some, lastEntries_concat]
        exact h.entries_eq
      · rw [Option.toList_some, lastState_concat]
        rfl
  | shown e report entries =>
      refine ⟨?_, ?_⟩
      · rw [Option.toList_some, lastEntries_concat]
        rfl
      · rw [Option.toList_some, lastState_concat]
        exact h.state_eq
  | _ => exact hsilent rfl rfl

end Handling

/-! ## Calls that are told an outcome -/

namespace Tracker

section

variable {t t' : Tracker} {s : Step} {happening : Option Happening}

/-- An answer gives calls of signals the outcome, if there is one. -/
theorem mem_answer {es : List Envelope} {r : Except TrackerError SignalOutcome} {c : Call}
    {o : SignalOutcome} (hc : c ∈ (t.answer es r).calls)
    (hresult : c.stage.result? = some (.outcome o)) :
    c ∈ t.calls ∨ (r = .ok o ∧ ∃ e ∈ es, e.caller = some c.id) := by
  obtain ⟨d, hd, rfl⟩ := List.mem_map.mp hc
  split at hresult
  · rename_i hasked
    rw [if_pos hasked]
    obtain ⟨e, he, hcaller⟩ := List.any_eq_true.mp hasked
    refine Or.inr ⟨?_, e, he, beq_iff_eq.mp hcaller⟩
    cases r with
    | error cause => simp [Call.answered, Stage.result?] at hresult
    | ok o' => cases hkind : d.kind <;> simp_all [Call.answered, Stage.result?]
  · rename_i hasked
    rw [if_neg hasked]
    exact Or.inl hd

/-- No call is told an outcome while no signal is handled. -/
theorem exists_of_outcome_move (hmove : Move t s happening t')
    (hquiet : s = .work → happening = none) {c : Call} {o : SignalOutcome} (hc : c ∈ t'.calls)
    (hresult : c.stage.result? = some (.outcome o)) :
    ∃ d ∈ t.calls, d.id = c.id ∧ d.stage.result? = some (.outcome o) := by
  have hstays : c ∈ t.calls → ∃ d ∈ t.calls, d.id = c.id ∧ d.stage.result? = some (.outcome o) :=
    fun hold => ⟨c, hold, rfl, hresult⟩
  -- a call that has just come to another stage is not one of these
  have hother : ∀ {stage : Stage}, stage.result? ≠ some (.outcome o) →
      c ∈ t.calls ∨ c.stage = stage →
      ∃ d ∈ t.calls, d.id = c.id ∧ d.stage.result? = some (.outcome o) := by
    intro stage hne hor
    exact hstays (hor.resolve_right fun heq => hne (heq ▸ hresult))
  cases hmove with
  | begun _ kind stage hstages hstop hintake hdelivered hcomes hvalid hfailed =>
      refine hother (fun heq => ?_) (mem_begin hc)
      cases stage with
      | answered r => exact absurd rfl (hstages.2.2.2 r)
      | finished r =>
          obtain ⟨cause, rfl⟩ := hfailed r rfl
          simp [Stage.result?] at heq
      | _ => contradiction
  | left d r hd hbefore hidle hrefused hdelivered hdone =>
      refine hother ?_ (mem_setStage hc)
      rcases hbefore with hbefore | ⟨signal, hbefore⟩
      · rw [hdone hbefore]
        simp [Stage.result?]
      · rw [hrefused signal hbefore]
        simp [Stage.result?]
  | spawned d => exact hother (by simp [Stage.result?]) (mem_setStage hc)
  | cancelled d => exact hother (by simp [Stage.result?]) (mem_setStage hc)
  | parked d => exact hother (by simp [Stage.result?]) (mem_setStage hc)
  | stopped d => exact hother (by simp [Stage.result?]) (mem_setStage hc)
  | queued d => exact hother (by simp [Stage.result?]) (mem_setStage hc)
  | lined d => exact hother (by simp [Stage.result?]) (mem_setStage hc)
  | returned d r hd hbefore =>
      obtain ⟨d', hd', rfl⟩ := List.mem_map.mp hc
      split at hresult
      · -- it returns with what it has been told before
        rename_i hid
        rw [if_pos hid]
        exact ⟨d, hd, hid.symm, by rw [hbefore]; exact hresult⟩
      · rename_i hid
        rw [if_neg hid]
        exact ⟨d', hd', rfl, hresult⟩
  | ended run => exact hstays ((mem_answer hc hresult).resolve_right fun h => nomatch h.1)
  | crashed => exact nomatch hquiet rfl
  | stateRead => exact nomatch hquiet rfl
  | scanMissed => exact nomatch hquiet rfl
  | scanTaken => exact nomatch hquiet rfl
  | _ => exact hstays hc

end

end Tracker

namespace Handling

/-! ## What outcomes go back to -/

/-- Whether these are the entries and the report of one cycle. -/
def Leaves (report : CycleReport) (entries : Snapshot) : Prop :=
  ∃ (roster : Roster) (c : Cycle),
    (roster.apply c).2 = report ∧ (roster.apply c).1.entries = entries

/-- Whether an outcome goes back to an event for its caller. -/
def Backed (log : List Event) (caller : Option Nat) : SignalOutcome → Prop
  | .ingested report => ∃ entries, .shown caller report entries ∈ log
  | .radioState state changed => .recorded caller state changed ∈ log
  | .sourceUnavailable => True

/-- What holds of a signal that a worker has in hand: its entries are those of a cycle before they are
shown, and its outcome goes back to an event afterwards. -/
def Promised (log : List Event) : Hand → Prop
  | .ingested _ report entries => Leaves report entries
  | .shown e report | .counted e report => Backed log e.caller (.ingested report)
  | .telling e _ o | .answering e o => Backed log e.caller o
  | _ => True

theorem Backed.append {log : List Event} {caller : Option Nat} {o : SignalOutcome}
    (h : Backed log caller o) (more : List Event) : Backed (log ++ more) caller o := by
  cases o with
  | ingested report =>
      obtain ⟨entries, hmem⟩ := h
      exact ⟨entries, List.mem_append_left _ hmem⟩
  | radioState state changed =>
      have hmem : .recorded caller state changed ∈ log := h
      exact List.mem_append_left _ hmem
  | sourceUnavailable => trivial

theorem Promised.append {log : List Event} {hand : Hand} (h : Promised log hand)
    (more : List Event) : Promised (log ++ more) hand := by
  cases hand with
  | ingested e report entries => exact h
  | shown e report => exact Backed.append (o := .ingested report) h more
  | counted e report => exact Backed.append (o := .ingested report) h more
  | telling e notices o => exact Backed.append h more
  | answering e o => exact Backed.append h more
  | _ => trivial

/-- What is shown is what a cycle has left, and every outcome that a call has been told goes back to
an event. -/
structure Answered (w : Handling) (log : List Event) : Prop where
  hand : Promised log w.hand
  calls : ∀ c ∈ w.tracker.calls, ∀ o, c.stage.result? = some (.outcome o) →
    Backed log (some c.id) o
  shown : ∀ caller report entries, .shown caller report entries ∈ log → Leaves report entries

namespace Answered

variable {w w' : Handling} {s : Step} {x : Option Event} {log : List Event}

/-- The worker gets on with its signal, and no call is told an outcome. -/
theorem getOn (h : Answered w log) {t' : Tracker} {hand' : Hand}
    (hhand : Promised (log ++ x.toList) hand')
    (hcalls : ∀ c ∈ t'.calls, ∀ o, c.stage.result? = some (.outcome o) →
      ∃ d ∈ w.tracker.calls, d.id = c.id ∧ d.stage.result? = some (.outcome o))
    (hshown : ∀ caller report entries, x = some (.shown caller report entries) →
      Leaves report entries) : Answered ⟨t', hand'⟩ (log ++ x.toList) where
  hand := hhand
  calls c hc o hresult := by
    obtain ⟨d, hd, hid, htold⟩ := hcalls c hc o hresult
    rw [← hid]
    exact (h.calls d hd o htold).append _
  shown caller report entries hmem := by
    rcases List.mem_append.mp hmem with hold | hnew
    · exact h.shown caller report entries hold
    · exact hshown caller report entries (Option.mem_toList.mp hnew)

end Answered

theorem answered_move {w w' : Handling} {s : Step} {x : Option Event} {log : List Event}
    (hmove : Move w s x w') (h : Answered w log) : Answered w' (log ++ x.toList) := by
  have hkept : ∀ c ∈ w.tracker.calls, ∀ o, c.stage.result? = some (.outcome o) →
      ∃ d ∈ w.tracker.calls, d.id = c.id ∧ d.stage.result? = some (.outcome o) :=
    fun c hc _ hresult => ⟨c, hc, rfl, hresult⟩
  have hhas : ∀ {hand : Hand}, w.hand = hand → Promised (log ++ x.toList) hand := by
    rintro hand rfl
    exact h.hand.append _
  cases hmove with
  | tracker s hquiet =>
      refine h.getOn (h.hand.append _) (fun c hc o hresult => ?_) fun caller report entries hx => ?_
      · exact Tracker.exists_of_outcome_move (Tracker.move_step w.tracker s)
          (fun hs => (hquiet hs).2) hc hresult
      · exact nomatch (Event.of?_quiet hx).1
  | stuck => exact h.getOn (hhas rfl) hkept nofun
  | taken run e rest hidle hrun => exact h.getOn trivial hkept nofun
  | crashed run e hhand hrun =>
      refine h.getOn trivial (fun c hc o hresult => ⟨c, ?_, rfl, hresult⟩) nofun
      exact (Tracker.mem_answer hc hresult).resolve_right fun hanswer => nomatch hanswer.1
  | missed e hhand => exact h.getOn trivial hkept nofun
  | asked e hhand => exact h.getOn trivial hkept nofun
  | ingested run roster firstRead e c hhand hrun =>
      exact h.getOn ⟨roster, c, rfl, rfl⟩ hkept nofun
  | recorded run roster firstRead e state changed hhand hrun =>
      refine h.getOn ?_ hkept nofun
      show .recorded e.caller state changed ∈ log ++ [.recorded e.caller state changed]
      simp
  | shown e report entries hhand =>
      refine h.getOn ⟨entries, by simp⟩ hkept fun caller report' entries' hx => ?_
      obtain ⟨-, rfl, rfl⟩ := Event.shown.inj (Option.some.inj hx)
      exact hhas hhand
  | counted e report hhand =>
      have hpromised := hhas hhand
      exact h.getOn hpromised hkept nofun
  | loaded e report hhand =>
      have hpromised := hhas hhand
      exact h.getOn hpromised hkept nofun
  | told e notices o hhand =>
      have hpromised := hhas hhand
      exact h.getOn hpromised hkept nofun
  | answered e o hhand =>
      rw [Option.toList_none, List.append_nil] at hhas ⊢
      refine ⟨trivial, fun c hc o' hresult => ?_, h.shown⟩
      -- the answer is for the caller of the signal in hand, for which there is an event already
      rcases Tracker.mem_answer hc hresult with hold | ⟨houtcome, e', he', hcaller⟩
      · exact h.calls c hold o' hresult
      · obtain rfl : o = o' := Except.ok.inj houtcome
        rw [List.mem_singleton.mp he'] at hcaller
        rw [← hcaller]
        exact hhas hhand

/-! ## Runs -/

theorem broadcastsIn_of? (happening : Option Happening) :
    broadcastsIn (happening.bind Event.of?).toList = heardIn happening.toList := by
  cases happening with
  | none => rfl
  | some happened => cases happened <;> rfl

/-- What holds after every run. -/
structure Accounted (w : Handling) (log : List Event) : Prop where
  current : Current w.tracker log
  answered : Answered w log
  audience : ∃ called, Tracker.Audience.Told w.tracker.audience called (broadcastsIn log)

theorem accounted_move {w w' : Handling} {s : Step} {x : Option Event} {log : List Event}
    (hmove : Move w s x w') (h : Accounted w log) : Accounted w' (log ++ x.toList) where
  current := current_move hmove h.current
  answered := answered_move hmove h.answered
  audience := by
    obtain ⟨called, htold⟩ := h.audience
    have happend : broadcastsIn (log ++ x.toList) = broadcastsIn log ++ broadcastsIn x.toList :=
      List.filterMap_append
    rw [happend]
    cases hmove with
    | tracker s hquiet =>
        rw [broadcastsIn_of?]
        exact ⟨_, Tracker.told_move (Tracker.move_step w.tracker s) htold⟩
    | _ => exact ⟨called, (List.append_nil (broadcastsIn log)).symm ▸ htold⟩

theorem accounted_after (config : TrackerConfig) (radio : Radio) (clock : Int64) (steps : List Step) :
    Accounted ((new config radio clock).after steps) ((new config radio clock).log steps) := by
  induction steps using List.reverseRecOn with
  | nil =>
      refine ⟨⟨rfl, rfl⟩, ⟨trivial, nofun, nofun⟩, [], ?_⟩
      exact ⟨rfl, rfl, Broadcast.empty_eq_ofLog⟩
  | append_singleton steps s ih =>
      rw [after_concat, log_concat]
      exact accounted_move (move_step _ s) ih

namespace Accounted

variable {w : Handling} {log past later : List Event} {n : Notice}

/-- A notice that is told behind others goes back to the event with as many made before it, and readers
find what this has shown or taken down, or something later. -/
theorem exists_origin_of_told (h : Accounted w log) {y : Event} (hlog : log = past ++ y :: later)
    {told : List Notice} (hnext : told ++ [n] <+: madeIn (lastRun past)) :
    ∃ before own since, past = before ++ own :: since ∧ Origin n told before own since ∧
      Reads w.tracker (own :: since ++ y :: later) n := by
  obtain ⟨before, own, since, hpast, hown⟩ := exists_origin hnext
  have hcurrent := h.current
  rw [hlog, hpast, List.append_assoc] at hcurrent
  exact ⟨before, own, since, hpast, hown, hcurrent.reads hown.made_eq⟩

/-- What a receiver is given is the broadcast at its place. -/
theorem exists_broadcast_of_receive (h : Accounted w log) {r : Receiver}
    (hreceived : (w.tracker.audience.broadcast.receive r).1 = some (.notice n)) :
    ∃ past later, log = past ++ .broadcast n :: later ∧ (broadcastsIn past).length = r.next := by
  obtain ⟨called, htold⟩ := h.audience
  rw [htold.broadcast] at hreceived
  -- a notice that the channel still holds is the one that was broadcast at this place
  obtain ⟨hplace, hget⟩ := List.getElem?_eq_some_iff.mp (Broadcast.getElem?_of_receive hreceived)
  have hsplit : broadcastsIn log =
      (broadcastsIn log).take r.next ++ n :: (broadcastsIn log).drop (r.next + 1) := by
    rw [← hget, ← List.drop_eq_getElem_cons hplace, List.take_append_drop]
  obtain ⟨past, y, later, hlog, hheard, hpast⟩ := exists_eq_append_of_filterMap hsplit
  refine ⟨past, later, ?_, ?_⟩
  · rw [hlog, Event.heard?_eq_some_iff.mp hheard]
  · exact (congrArg List.length hpast).trans (List.length_take_of_le hplace.le)

/-- A call that has returned with a report had a list shown for it. -/
theorem exists_shown_of_outcome (h : Accounted w log) {c : Call} (hc : c ∈ w.tracker.calls)
    {report : CycleReport} (hstage : c.stage = .finished (.outcome (.ingested report))) :
    ∃ before entries since, log = before ++ .shown (some c.id) report entries :: since ∧
      lastEntries (.shown (some c.id) report entries :: since) = some w.tracker.entries := by
  obtain ⟨entries, hmem⟩ := h.answered.calls c hc _ (by rw [hstage]; rfl)
  obtain ⟨before, since, hlog⟩ := List.append_of_mem hmem
  exact ⟨before, entries, since, hlog, (hlog ▸ h.current).entries_of_shown⟩

/-- A call that has returned with a radio state had this taken down for it. -/
theorem exists_recorded_of_outcome (h : Accounted w log) {c : Call} (hc : c ∈ w.tracker.calls)
    {state : RadioState} {changed : Bool}
    (hstage : c.stage = .finished (.outcome (.radioState state changed))) :
    ∃ before since, log = before ++ .recorded (some c.id) state changed :: since ∧
      lastState (.recorded (some c.id) state changed :: since) = some w.tracker.recorded := by
  obtain ⟨before, since, hlog⟩ :=
    List.append_of_mem (h.answered.calls c hc _ (by rw [hstage]; rfl))
  exact ⟨before, since, hlog, (hlog ▸ h.current).state_of_recorded⟩

end Accounted

/-- What observers find when they are told something, and at any time after, is what they were told or
something later.  A notice of a cycle carries the list that this cycle has shown, and one of a read
the state that this read has taken down, also where others have come since; its cycle or read is the
one with as many notices before it as were told before, in the same run of tasks, to the callbacks as
to the broadcast, and receivers are given the broadcast at their places.  A call that has returned
with an outcome was handled in a cycle or read of its own, and from then on observers find what this
has shown or taken down, or something later.  All this holds between any two accesses of the worker,
and the tracker's own runs are those in which no other step comes between them. -/
theorem observers_read_their_writes (config : TrackerConfig) (radio : Radio) (clock : Int64)
    (steps : List Step) :
    let w := (new config radio clock).after steps
    let log := (new config radio clock).log steps
    w.tracker.entries = (lastEntries log).getD [] ∧
    w.tracker.recorded = (lastState log).getD .unknown ∧
    (∀ past n later, log = past ++ .called n :: later →
      ∃ before own since, past = before ++ own :: since ∧
        Origin n (callbacksIn (lastRun past)) before own since ∧
        Reads w.tracker (own :: since ++ .called n :: later) n) ∧
    (∀ past n later, log = past ++ .broadcast n :: later →
      ∃ before own since, past = before ++ own :: since ∧
        Origin n (broadcastsIn (lastRun past)) before own since ∧
        Reads w.tracker (own :: since ++ .broadcast n :: later) n) ∧
    (∀ r n, (w.tracker.audience.broadcast.receive r).1 = some (.notice n) →
      ∃ past later, log = past ++ .broadcast n :: later ∧ (broadcastsIn past).length = r.next) ∧
    (∀ c ∈ w.tracker.calls, ∀ report, c.stage = .finished (.outcome (.ingested report)) →
      ∃ before entries since, log = before ++ .shown (some c.id) report entries :: since ∧
        lastEntries (.shown (some c.id) report entries :: since) = some w.tracker.entries) ∧
    (∀ c ∈ w.tracker.calls, ∀ state changed,
      c.stage = .finished (.outcome (.radioState state changed)) →
      ∃ before since, log = before ++ .recorded (some c.id) state changed :: since ∧
        lastState (.recorded (some c.id) state changed :: since) = some w.tracker.recorded) ∧
    (∀ caller report entries, .shown caller report entries ∈ log → Leaves report entries) ∧
    (∀ coarse, ∃ accesses,
      (new config radio clock).after accesses = ⟨(Tracker.new config radio clock).after coarse, .idle⟩) := by
  intro w log
  have h : Accounted w log := accounted_after config radio clock steps
  refine ⟨h.current.entries_eq, h.current.state_eq, ?_, ?_, ?_, ?_, ?_, h.answered.shown,
    exists_after_steps _⟩
  · intro past n later hlog
    exact h.exists_origin_of_told hlog (next_called config radio clock hlog)
  · intro past n later hlog
    exact h.exists_origin_of_told hlog (next_broadcast config radio clock hlog)
  · intro r n hreceived
    exact h.exists_broadcast_of_receive hreceived
  · intro c hc report hstage
    exact h.exists_shown_of_outcome hc hstage
  · intro c hc state changed hstage
    exact h.exists_recorded_of_outcome hc hstage

/-- The worker has shown the list of a second cycle, and its call has returned, before the callback of
the first one is called: what the callback finds is the list of the second, and its notice has that of
the first. -/
theorem observers_read_their_writes_ahead :
    let config : TrackerConfig := ⟨.ofSeconds 15, .ofSeconds 10, false⟩
    let list (ssid : String) : List Sighting := [⟨some ssid, "a", "", 0, none, none⟩]
    let entry (ssid : String) : Entry :=
      .ofObservation ⟨ssid, .openAccess⟩ ⟨ssid, "a", "", .openAccess, 0, none, none⟩
    let radio := (Radio.new .enabled).setScan (list "Cafe")
    let steps : List Step := [.beginStart, .advance 0, .advance 0] ++ List.replicate 5 .work ++
      [.send (.scanResults true)] ++ List.replicate 7 .work ++
      [.setRadio (·.setScan (list "Pier")), .beginSignal (.scanResults true), .advance 1] ++
      List.replicate 7 .work ++ [.advance 1, .notify, .notify, .notify]
    let w := (new config radio 0).after steps
    let log := (new config radio 0).log steps
    let n : Notice := .entriesChanged [entry "Cafe"]
    let past := log.take 6
    log = past ++ [.called n] ∧
      ⟨1, .signal, .finished (.outcome (.ingested ⟨1, 0, 0, 0, 2, .ofSeconds 15⟩))⟩ ∈
        w.tracker.calls ∧
      w.tracker.entries = [entry "Cafe", entry "Pier"] ∧
      (∃ before own since, past = before ++ own :: since ∧
        Origin n (callbacksIn (lastRun past)) before own since ∧
        Reads w.tracker (own :: since ++ [.called n]) n) ∧
      ∃ before entries since,
        log = before ++ .shown (some 1) ⟨1, 0, 0, 0, 2, .ofSeconds 15⟩ entries :: since := by
  intro config list entry radio steps w log n past
  have hlog : log = past ++ [.called n] := by decide +kernel
  have hreturned : ⟨1, .signal, .finished (.outcome (.ingested ⟨1, 0, 0, 0, 2, .ofSeconds 15⟩))⟩ ∈
      w.tracker.calls := by decide +kernel
  obtain ⟨-, -, hcalled, -, -, hanswered, -⟩ := observers_read_their_writes config radio 0 steps
  obtain ⟨before, entries, since, hshown, -⟩ := hanswered _ hreturned _ rfl
  exact ⟨hlog, hreturned, by decide +kernel, hcalled past n [] hlog, before, entries, since, hshown⟩

end Handling

end ScanRoster
