import ScanRoster.CommandLine.Run
import ScanRoster.Proofs.EntryFilter
import ScanRoster.Proofs.Roster.Consistency
import ScanRoster.Proofs.Tracker.Session

/-!
# Replays are folds

What a replay shows after a step follows from the steps up to it: the entries of a store that has
taken in their scans, and the radio state that was set last.  Tasks, queues and the scripted source
leave no trace of their own, and the tracker never fails.
-/

namespace ScanRoster

/-! ## Selections as conditions -/

namespace Replay

/-- Whether a selection shows an entry at some time. -/
def Selection.Shows (s : Selection) (now : Int64) (e : Entry) : Prop :=
  (∀ c ∈ s.security, e.key.security = c) ∧
  (∀ needle ∈ s.ssid, Text.lowercase needle.toList <:+: Text.lowercase e.key.ssid.toList) ∧
  (s.secured = true → e.key.security.requiresCredentials = true) ∧
  ∀ d ∈ s.seenWithin, (e.ageMillis now).toNat ≤ d.millis

instance (s : Selection) (now : Int64) (e : Entry) : Decidable (s.Shows now e) :=
  inferInstanceAs (Decidable (_ ∧ _ ∧ _ ∧ _))

/-- No age is above the longest time span that a filter can hold, so nothing is cut off. -/
theorem le_millis_iff (age : UInt64) (d : Duration) :
    age ≤ UInt64.ofNat (min d.millis (UInt64.size - 1)) ↔ age.toNat ≤ d.millis := by
  have hage := age.toNat_lt
  have hlt : min d.millis (UInt64.size - 1) < UInt64.size := by
    have hle := Nat.min_le_right d.millis (UInt64.size - 1)
    exact Nat.lt_of_le_of_lt hle (by decide)
  rw [UInt64.le_iff_toNat_le, UInt64.toNat_ofNat_of_lt' hlt, Nat.le_min]
  exact and_iff_left (Nat.le_pred_of_lt hage)

theorem Selection.allAccept_filters_iff (s : Selection) (now : Int64) (e : Entry) :
    EntryFilter.allAccept (s.filters now) e = true ↔ s.Shows now e := by
  unfold EntryFilter.allAccept filters Shows
  simp only [List.all_append, Bool.and_eq_true, and_assoc]
  refine and_congr ?_ (and_congr ?_ (and_congr ?_ ?_))
  · cases s.security <;> simp [EntryFilter.accepts]
  · cases s.ssid <;> simp [EntryFilter.accepts, EntryFilter.occursIn_iff]
  · cases s.secured <;> simp [EntryFilter.accepts]
  · cases s.seenWithin with
    | none => simp
    | some d =>
        rw [Option.map_some, Option.toList_some, List.all_cons, List.all_nil, Bool.and_true,
          EntryFilter.accepts, decide_eq_true_eq, le_millis_iff]
        simp

/-! ## What a replay is to show -/

/-- The cycle that a step brings, if it brings one. -/
def Step.cycle? (step : Step) : Option Cycle :=
  match step.sourceError, step.scan with
  | none, some scan => some (.ofSightings scan.records scan.succeeded step.atMillis)
  | _, _ => none

/-- The store that has taken in the scans of some steps. -/
def storeAfter (policy : AgePolicy) (steps : List Step) : Store :=
  (Store.empty policy).ingestAll (steps.filterMap Step.cycle?)

/-- The radio state that some steps have set last. -/
def stateAfter (steps : List Step) : RadioState :=
  (steps.filterMap (·.radioState)).getLast?.getD .unknown

/-- What is to be seen after the step at some place of a script. -/
def momentAt (policy : AgePolicy) (selection : Selection) (steps : List Step) (i : Nat)
    (step : Step) : Moment where
  number := i + 1
  atMillis := step.atMillis
  radioState := stateAfter (steps.take (i + 1))
  entries :=
    ((storeAfter policy (steps.take (i + 1))).roster.entries.filter
      (selection.Shows step.atMillis ·)).map (EntryView.ofEntry step.atMillis)

/-- Every moment of a script, one for each step. -/
def momentsOf (policy : AgePolicy) (selection : Selection) (script : Script) : List Moment :=
  script.steps.mapIdx (momentAt policy selection script.steps)

/-- The store after a step. -/
def Step.ingest (step : Step) (store : Store) : Store :=
  step.cycle?.elim store fun c => (store.ingest c).1

theorem storeAfter_concat (policy : AgePolicy) (steps : List Step) (step : Step) :
    storeAfter policy (steps ++ [step]) = step.ingest (storeAfter policy steps) := by
  unfold storeAfter Step.ingest
  rw [List.filterMap_append, List.filterMap_cons, List.filterMap_nil]
  cases step.cycle? with
  | none => exact congrArg _ (List.append_nil _)
  | some c => exact Store.ingestAll_concat ..

theorem stateAfter_concat (steps : List Step) (step : Step) :
    stateAfter (steps ++ [step]) = step.radioState.getD (stateAfter steps) := by
  unfold stateAfter
  rw [List.filterMap_append, List.filterMap_cons, List.filterMap_nil]
  cases step.radioState with
  | none => exact congrArg (fun l => (List.getLast? l).getD _) (List.append_nil _)
  | some state => simp

/-! ## A tracker between two steps -/

/-- A running tracker with nothing left to do that goes by a store, over a source that works. -/
structure Ready (t : Tracker) (store : Store) (state : RadioState) : Prop where
  resting : ∃ base : Tracker, t = base.atRest store.roster false [] []
  feed_eq : t.feed = store.feed
  recorded_eq : t.recorded = state
  working : t.radio.health = .working
  steady : t.radio.stateCrashing = false
  calm : t.audience.crashing = false

theorem deliver_of_signal {t t' : Tracker} {s : Signal} {o : SignalOutcome}
    (h : t.signal s = (.outcome o, t')) : deliver t s = .ok t' := by
  rw [deliver, h]

/-- The part of a step that is about the radio state. -/
def Step.playState (step : Step) (t : Tracker) : Except TrackerError Tracker :=
  match step.radioState with
  | some state => deliver (t.step (.setRadio (·.setState state))) .radioState
  | none => .ok t

/-- The part of a step that is about scans. -/
def Step.playScan (step : Step) (t : Tracker) : Except TrackerError Tracker :=
  match step.sourceError, step.scan with
  | some reason, _ => deliver (t.step (.setRadio (·.failScan reason))) (.scanResults true)
  | none, some scan =>
    deliver (t.step (.setRadio (·.setScan scan.records))) (.scanResults scan.succeeded)
  | none, none => .ok t

theorem applyStep_eq (t : Tracker) (step : Step) :
    applyStep t step = step.playState (t.step (.setClock step.atMillis)) >>= step.playScan := by
  unfold applyStep Step.playState
  cases step.radioState <;> rfl

namespace Ready

variable {t : Tracker} {store : Store} {state : RadioState}

theorem setClock (h : Ready t store state) (now : Int64) :
    Ready (t.step (.setClock now)) store state where
  resting := by
    obtain ⟨base, rfl⟩ := h.resting
    exact ⟨{ base with clock := now }, rfl⟩
  feed_eq := h.feed_eq
  recorded_eq := h.recorded_eq
  working := h.working
  steady := h.steady
  calm := h.calm

theorem setRadio (h : Ready t store state) (change : Radio → Radio)
    (hhealth : (change t.radio).health = t.radio.health)
    (hsteady : (change t.radio).stateCrashing = t.radio.stateCrashing) :
    Ready (t.step (.setRadio change)) store state where
  resting := by
    obtain ⟨base, rfl⟩ := h.resting
    exact ⟨{ base with radio := change base.radio }, rfl⟩
  feed_eq := h.feed_eq
  recorded_eq := h.recorded_eq
  working := hhealth.trans h.working
  steady := hsteady.trans h.steady
  calm := h.calm

/-- The radio signal puts the state of the radio on record. -/
theorem deliver_radioState (h : Ready t store state) :
    ∃ t', deliver t .radioState = .ok t' ∧ Ready t' store t.radio.state ∧ t'.clock = t.clock := by
  obtain ⟨⟨base, rfl⟩, hfeed, hrecorded, hworking, hsteady, hcalm⟩ := h
  have hwork := Tracker.work_radioState (t := { base with nextCall := base.nextCall + 1 })
    store.roster false base.nextCall .signal hsteady
  have hsignal := Tracker.signal_of_work hwork (Tracker.length_stateNotices_le _ _) hcalm
  refine ⟨_, deliver_of_signal hsignal, ⟨⟨_, rfl⟩, hfeed, rfl, hworking, hsteady, ?_⟩, rfl⟩
  exact (Tracker.Audience.crashing_hearAll _ _).trans hcalm

/-- A scan signal without a scan list changes nothing. -/
theorem deliver_scanMissed (h : Ready t store state) {e : SourceError}
    (hreply : t.radio.reply = .failed e) (updated : Bool) :
    ∃ t', deliver t (.scanResults updated) = .ok t' ∧ Ready t' store state := by
  obtain ⟨⟨base, rfl⟩, hfeed, hrecorded, hworking, hsteady, hcalm⟩ := h
  have hwork := Tracker.work_scanMissed (t := { base with nextCall := base.nextCall + 1 })
    store.roster false base.nextCall .signal hreply updated
  have hsignal := Tracker.signal_of_work hwork (Nat.zero_le 1) hcalm
  exact ⟨_, deliver_of_signal hsignal, ⟨_, rfl⟩, hfeed, hrecorded, hworking, hsteady, hcalm⟩

/-- A scan signal with a scan list has the store take it in. -/
theorem deliver_scanTaken (h : Ready t store state) {sightings : List Sighting}
    (hreply : t.radio.reply = .found sightings) (updated : Bool) :
    ∃ t', deliver t (.scanResults updated) = .ok t' ∧
      Ready t' (store.ingest (.ofSightings sightings updated t.clock)).1 state := by
  obtain ⟨⟨base, rfl⟩, hfeed, hrecorded, hworking, hsteady, hcalm⟩ := h
  have hwork := Tracker.work_scanTaken (t := { base with nextCall := base.nextCall + 1 })
    store.roster false base.nextCall .signal hreply updated
  have hsignal := Tracker.signal_of_work hwork (Nat.le_refl 1) hcalm
  refine ⟨_, deliver_of_signal hsignal, ⟨⟨_, rfl⟩, ?_, hrecorded, hworking, hsteady, ?_⟩⟩
  · exact congrArg (Feed.publish · _) hfeed
  · exact (Tracker.Audience.crashing_hearAll _ _).trans hcalm

/-- The radio state of a step is put on record, if it sets one. -/
theorem playState (h : Ready t store state) (step : Step) :
    ∃ t', step.playState t = .ok t' ∧ Ready t' store (step.radioState.getD state) ∧
      t'.clock = t.clock := by
  unfold Step.playState
  cases step.radioState with
  | none => exact ⟨t, rfl, h, rfl⟩
  | some state' => exact (h.setRadio (·.setState state') rfl rfl).deliver_radioState

/-- The scan of a step is taken in, if there is one and no source error. -/
theorem playScan (h : Ready t store state) (step : Step) (hclock : t.clock = step.atMillis) :
    ∃ t', step.playScan t = .ok t' ∧ Ready t' (step.ingest store) state := by
  have hworking := h.working
  unfold Step.playScan Step.ingest Step.cycle?
  cases step.sourceError with
  | some reason =>
      refine (h.setRadio (·.failScan reason) rfl rfl).deliver_scanMissed (e := .unavailable reason)
        ?_ true
      simp [Tracker.step, Radio.reply, Radio.failScan, hworking]
  | none =>
      cases step.scan with
      | none => exact ⟨t, rfl, h⟩
      | some scan =>
          have hreply : (t.step (.setRadio (·.setScan scan.records))).radio.reply =
              .found scan.records := by
            simp [Tracker.step, Radio.reply, Radio.setScan, hworking]
          have hdeliver := (h.setRadio (·.setScan scan.records) rfl rfl).deliver_scanTaken hreply
            scan.succeeded
          rwa [show (t.step (.setRadio (·.setScan scan.records))).clock = step.atMillis from hclock]
            at hdeliver

/-- A step of a script does to the store and to the radio state what it says. -/
theorem applyStep (h : Ready t store state) (step : Step) :
    ∃ t', Replay.applyStep t step = .ok t' ∧
      Ready t' (step.ingest store) (step.radioState.getD state) := by
  obtain ⟨t₁, hstate, hready, hclock⟩ := (h.setClock step.atMillis).playState step
  rw [applyStep_eq, hstate]
  exact hready.playScan step hclock

end Ready

/-! ## The whole of a replay -/

variable {policy : AgePolicy} (selection : Selection)

/-- What is seen of a tracker that goes by the steps so far is what is to be seen. -/
theorem look_eq {before : List Step} (rest : List Step) {step : Step} {t : Tracker}
    (h : Ready t (storeAfter policy (before ++ [step])) (stateAfter (before ++ [step]))) :
    look selection (before.length + 1) step t =
      momentAt policy selection (before ++ step :: rest) before.length step := by
  have htake : (before ++ step :: rest).take (before.length + 1) = before ++ [step] := by
    rw [List.take_length_add_append]
    rfl
  have hentries : t.entries = (storeAfter policy (before ++ [step])).roster.entries := by
    rw [Tracker.entries, h.feed_eq]
    exact Store.snapshot_ingestAll_empty policy _
  have hfilters : ∀ e : Entry, EntryFilter.allAccept (selection.filters step.atMillis) e =
      decide (selection.Shows step.atMillis e) := by
    intro e
    rw [Bool.eq_iff_iff, decide_eq_true_eq]
    exact selection.allAccept_filters_iff step.atMillis e
  rw [look, momentAt, htake, h.recorded_eq, hentries, List.filter_congr fun e _ => hfilters e]

/-- Playing the rest of a script shows what is to be seen after each of its steps. -/
theorem play_eq (before rest : List Step) {t : Tracker}
    (h : Ready t (storeAfter policy before) (stateAfter before)) :
    play selection (before.length + 1) rest t =
      .ok (rest.mapIdx fun i step =>
        momentAt policy selection (before ++ rest) (before.length + i) step) := by
  induction rest generalizing before t with
  | nil => rfl
  | cons step rest ih =>
      obtain ⟨t', happly, hready⟩ := h.applyStep step
      rw [← storeAfter_concat, ← stateAfter_concat] at hready
      have hlater := ih (before ++ [step]) hready
      rw [List.length_append, List.length_singleton, List.append_assoc, List.singleton_append]
        at hlater
      have hplay : play selection (before.length + 1) (step :: rest) t =
          (play selection (before.length + 1 + 1) rest t').map
            (look selection (before.length + 1) step t' :: ·) := by
        rw [play, happly]
        rfl
      rw [hplay, hlater, List.mapIdx_cons, look_eq selection rest hready]
      refine congrArg (fun f => Except.ok (_ :: List.mapIdx f rest)) (funext fun i => ?_)
      rw [Nat.add_right_comm, Nat.add_assoc]

/-- Where the configuration is valid, a replay shows one moment for each step of its script. -/
theorem moments_eq {config : TrackerConfig} (hvalid : config.validate = .ok ())
    (script : Script) :
    moments config selection script = .ok (momentsOf config.policy selection script) := by
  obtain ⟨t, hstart, hfeed, hrecorded, hradio, hcalm⟩ := Tracker.start_new
    { config with activeScanning := false } (.new .unknown)
    ((script.steps.head?.map (·.atMillis)).getD 0) hvalid rfl rfl
  have hready : Ready (t.atRest (.empty config.policy) false [] []) (storeAfter config.policy [])
      (stateAfter []) := by
    refine ⟨⟨t, rfl⟩, hfeed, hrecorded, ?_, ?_, hcalm⟩
    · exact congrArg Radio.health hradio
    · exact congrArg Radio.stateCrashing hradio
  rw [moments, hstart]
  have hplay := play_eq selection [] script.steps hready
  simp only [List.length_nil, Nat.zero_add, List.nil_append] at hplay
  exact hplay

end Replay

namespace CommandLine

variable {m : Type → Type} [Monad m] [LawfulMonad m]

theorem orElse_ok_bind {ε α β : Type} (wrap : ε → Failure) (a : α) (f : α → Doing m β) :
    (orElse wrap (.ok a) >>= f) = f a := by
  rw [orElse, pure_bind]

theorem orElse_error_bind {ε α β : Type} (wrap : ε → Failure) (e : ε) (f : α → Doing m β) :
    (orElse wrap (.error e) >>= f) = throw (wrap e) := by
  rw [orElse]
  apply ExceptT.ext
  simp

namespace Invocation

/-- A tracker that settings and command line ask for has a valid configuration. -/
theorem trackerConfig_bind_congr {α : Type} (i : Invocation) (host : Host m) (s : Surroundings)
    (maxEntryAge scanInterval : Option Duration) {f g : TrackerConfig → Doing m α}
    (h : ∀ config, config.validate = .ok () → f config = g config) :
    (i.trackerConfig host s maxEntryAge scanInterval >>= f) =
      (i.trackerConfig host s maxEntryAge scanInterval >>= g) := by
  unfold trackerConfig
  simp only [bind_assoc, pure_bind]
  refine congrArg _ (funext fun settings => congrArg _ (funext fun config => ?_))
  generalize hasked : TrackerConfig.mk (maxEntryAge.getD config.maxEntryAge)
    (scanInterval.getD config.scanInterval) config.activeScanning = asked
  cases hvalid : asked.validate with
  | error cause => rw [orElse_error_bind, orElse_error_bind]
  | ok => rw [orElse_ok_bind, orElse_ok_bind, h asked hvalid]

/-- A replay is a fold over its script.  Under every valid configuration the tracker gets through
the script, and what is seen after each step is what the steps so far make of an empty store and an
unknown radio state.  So the command, on any host, prints one moment for each step where it is asked
to, and else the entries of the last one; it only fails where there is no script, or settings and
command line make no valid configuration. -/
theorem replay_shows_moments (i : Invocation) (host : Host m) (s : Surroundings) (path : String)
    (each : Bool) (maxEntryAge scanInterval : Option Duration) (selection : Replay.Selection) :
    (∀ (config : TrackerConfig) (script : Replay.Script), config.validate = .ok () →
      Replay.moments config selection script =
        .ok (Replay.momentsOf config.policy selection script)) ∧
    i.replay host s path each maxEntryAge scanInterval selection = (do
      let script ← readScript host path
      let config ← i.trackerConfig host s maxEntryAge scanInterval
      let (format, color) ← i.preferences host s
      let shown := Replay.momentsOf config.policy selection script
      i.print host
        (if each then Replay.Moment.listText color format shown
        else (Replay.EntryView.listing color).text format
          ((shown.getLast?.map (·.entries)).getD []))) := by
  refine ⟨fun config script hvalid => Replay.moments_eq selection hvalid script, ?_⟩
  unfold replay
  refine congrArg _ (funext fun script => ?_)
  refine trackerConfig_bind_congr i host s maxEntryAge scanInterval fun config hvalid => ?_
  refine congrArg _ (funext fun (format, color) => ?_)
  dsimp only
  rw [Replay.moments_eq selection hvalid script, orElse_ok_bind, replayText]

/-- A network outlives a failed scan and a source error that wins over a scan; the first scan
without it that succeeds drops it. -/
theorem replay_shows_moments_grace :
    let cafe : Sighting := ⟨some "Cafe", "a", "[WPA2-PSK]", 0, none, none⟩
    let script : Replay.Script := ⟨[
      ⟨0, some .enabled, some ⟨true, [cafe]⟩, none⟩,
      ⟨20000, none, some ⟨false, []⟩, none⟩,
      ⟨90000, some .disabled, some ⟨true, []⟩, some "radio off"⟩,
      ⟨20000, none, none, none⟩,
      ⟨20000, none, some ⟨true, []⟩, none⟩]⟩
    let everything : Replay.Selection := ⟨none, none, false, none⟩
    TrackerConfig.standard.validate = .ok () ∧
    (Replay.moments .standard everything script).map
        (List.map fun moment => (moment.number, moment.radioState, moment.entries.length)) =
      .ok [(1, .enabled, 1), (2, .enabled, 1), (3, .disabled, 1), (4, .disabled, 1),
        (5, .disabled, 0)] := by
  intro cafe script everything
  have hvalid : TrackerConfig.standard.validate = .ok () := by decide
  let host : Host Id :=
    ⟨fun _ => .error .missing, fun _ => false, fun _ => .ok (), fun _ _ => .ok (), fun _ => ()⟩
  have hmoments := (replay_shows_moments ⟨none, none, false, none, .configPath⟩ host ⟨[], false⟩
    "script.json" false none none everything).1 .standard script hvalid
  refine ⟨hvalid, ?_⟩
  rw [hmoments]
  decide +kernel

end Invocation

end CommandLine

end ScanRoster
