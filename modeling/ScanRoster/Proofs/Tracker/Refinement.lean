import ScanRoster.Proofs.Roster.Consistency
import ScanRoster.Proofs.Tracker.Lifecycle

/-!
# The tracker follows a store

A reference store takes in the cycles of a trace, one after the other, and nothing else.  However
starts, stops, signals and changes of the radio and the clock are mixed, the entry list that a
tracker shows is at every moment the one that the reference store has published.  A crash of the
source loses the roster, and only the roster: readers keep the list they have, and the next run
begins with an empty roster.
-/

namespace ScanRoster

/-- The store that follows a trace, and whether a crash has lost its roster to the next run. -/
structure Reference where
  store : Store
  lost : Bool

namespace Reference

/-- The reference store before anything has happened. -/
def new (policy : AgePolicy) : Reference :=
  ⟨.empty policy, false⟩

/-- The reference store after one happening. -/
def follow (policy : AgePolicy) (r : Reference) : Happening → Reference
  | .scanTaken c => { r with store := (r.store.ingest c).1 }
  | .crashed => { r with lost := true }
  | .spawned => if r.lost then ⟨⟨.empty policy, r.store.feed⟩, false⟩ else r
  | .stateRead _ | .scanMissed | .called _ | .callbackCrashed _ | .broadcast _ => r

/-- The reference store after some happenings. -/
def of (policy : AgePolicy) (happenings : List Happening) : Reference :=
  happenings.foldl (follow policy) (new policy)

/-- The roster that a worker holds or leaves behind. -/
def roster? (r : Reference) : Option Roster :=
  if r.lost then none else some r.store.roster

variable {policy : AgePolicy} {r : Reference} {roster : Roster}

theorem of_append (happenings more : List Happening) :
    of policy (happenings ++ more) = more.foldl (follow policy) (of policy happenings) :=
  List.foldl_append

theorem roster?_eq_some_iff :
    r.roster? = some roster ↔ r.lost = false ∧ r.store.roster = roster := by
  unfold roster?
  cases r.lost <;> simp

/-- A start gives the worker the roster that is left, or an empty one. -/
theorem roster?_spawned :
    (r.follow policy .spawned).roster? = some (r.roster?.getD (.empty policy)) := by
  unfold follow roster?
  cases hlost : r.lost <;> simp [hlost]

theorem roster?_scanTaken (policy : AgePolicy) (hlost : r.lost = false) (c : Cycle) :
    (r.follow policy (.scanTaken c)).roster? = some (r.store.roster.apply c).1 :=
  roster?_eq_some_iff.mpr ⟨hlost, rfl⟩

/-- Only a scan that is taken in publishes anything. -/
theorem feed_follow (h : Happening) :
    (r.follow policy h).store.feed =
      match h with
      | .scanTaken c => (r.store.ingest c).1.feed
      | _ => r.store.feed := by
  cases h with
  | spawned =>
      unfold follow
      dsimp only
      split <;> rfl
  | _ => rfl

/-- The cycles of a trace. -/
def cyclesOf (happenings : List Happening) : List Cycle :=
  happenings.filterMap fun
    | .scanTaken c => some c
    | _ => none

theorem cyclesOf_append (happenings more : List Happening) :
    cyclesOf (happenings ++ more) = cyclesOf happenings ++ cyclesOf more :=
  List.filterMap_append

/-- Without a crash, the reference store has ingested the cycles of the trace. -/
theorem of_eq_ingestAll {happenings : List Happening} (hcrashed : .crashed ∉ happenings) :
    of policy happenings = ⟨(Store.empty policy).ingestAll (cyclesOf happenings), false⟩ := by
  induction happenings using List.reverseRecOn with
  | nil => rfl
  | append_singleton happenings h ih =>
      rw [List.mem_append, not_or] at hcrashed
      rw [of_append, ih hcrashed.1, cyclesOf_append]
      cases h with
      | scanTaken c => exact congrArg (Reference.mk · false) (Store.ingestAll_concat _ _ c).symm
      | crashed => exact absurd (List.mem_singleton.mpr rfl) hcrashed.2
      | _ => simp [follow, cyclesOf]

end Reference

namespace Tracker

/-- A tracker shows and holds what the reference store does. -/
structure Mirrors (policy : AgePolicy) (t : Tracker) (r : Reference) : Prop where
  config : t.config.policy = policy
  feed : t.feed = r.store.feed
  parked : ∀ roster ∈ t.parked, roster = r.roster?.getD (.empty policy)
  worker : ∀ run ∈ t.run, run.worker.roster? = r.roster?

namespace Mirrors

variable {policy : AgePolicy} {t t' : Tracker} {r : Reference} {run : Run}

theorem new (config : TrackerConfig) (radio : Radio) (clock : Int64) :
    Mirrors config.policy (new config radio clock) (.new config.policy) where
  config := rfl
  feed := rfl
  parked := fun _ h => (Option.some.inj h).symm
  worker := nofun

/-- A step that touches neither the feed nor a roster. -/
theorem congr (h : Mirrors policy t r) (hconfig : t'.config = t.config) (hfeed : t'.feed = t.feed)
    (hparked : t'.parked = t.parked)
    (hworker : ∀ run' ∈ t'.run, ∃ run ∈ t.run, run'.worker.roster? = run.worker.roster?) :
    Mirrors policy t' r where
  config := by rw [hconfig, h.config]
  feed := hfeed.trans h.feed
  parked := by rw [hparked]; exact h.parked
  worker := by
    intro run' hrun'
    obtain ⟨run, hrun, heq⟩ := hworker run' hrun'
    exact heq.trans (h.worker run hrun)

/-- A step of a run that leaves the roster where it is. -/
theorem of_run (h : Mirrors policy t r) (hrun : t.run = some run) {run' : Run}
    (hrun' : t'.run = some run') (hroster : run'.worker.roster? = run.worker.roster?)
    (hconfig : t'.config = t.config) (hfeed : t'.feed = t.feed) (hparked : t'.parked = t.parked) :
    Mirrors policy t' r :=
  h.congr hconfig hfeed hparked fun _ hmem =>
    ⟨run, hrun, Option.some.inj (hrun'.symm.trans hmem) ▸ hroster⟩

/-- A live worker holds the roster of the reference store. -/
theorem of_live (h : Mirrors policy t r) (hrun : t.run = some run) {roster : Roster}
    {firstRead : Bool} (hworker : run.worker = .live roster firstRead) :
    r.lost = false ∧ r.store.roster = roster := by
  have hroster := h.worker run hrun
  rw [hworker] at hroster
  exact Reference.roster?_eq_some_iff.mp hroster.symm

theorem move {s : Step} {happening : Option Happening} (hmove : Move t s happening t')
    (hord : Orderly t) (h : Mirrors policy t r) :
    Mirrors policy t' (happening.toList.foldl (Reference.follow policy) r) := by
  cases hmove with
  | still => exact h
  | begun _ kind stage hstage hstop => exact h.congr rfl rfl rfl fun run hrun => ⟨run, hrun, rfl⟩
  | left c result hc hstage hidle => exact h.congr rfl rfl rfl fun run hrun => ⟨run, hrun, rfl⟩
  | spawned c hc hkind hstage hfree hrunning =>
      obtain ⟨-, hparked⟩ :=
        hord.phase.of_not_running (lifecycleHeld_eq_false_iff.mp hfree) hrunning
      -- the run takes over the roster that was parked
      obtain ⟨roster, hroster⟩ := Option.isSome_iff_exists.mp hparked
      refine ⟨h.config, h.feed.trans (Reference.feed_follow .spawned).symm, nofun, ?_⟩
      intro run hrun
      rw [← Option.some.inj hrun, hroster]
      exact (congrArg some (h.parked roster hroster)).trans Reference.roster?_spawned.symm
  | cancelled c run hc hkind hstage hfree hrun hlive => exact h.of_run hrun rfl rfl rfl rfl rfl
  | parked c run hc hstage hrun hended =>
      refine ⟨h.config, h.feed, ?_, h.worker⟩
      intro roster hroster
      rw [← Option.some.inj hroster, h.worker run hrun, h.config]
      rfl
  | stopped c run hc hstage hrun hnotifier htrigger => exact ⟨h.config, h.feed, h.parked, nofun⟩
  | queued c run s hc hstage hintake hrun hlive hroom => exact h.of_run hrun rfl rfl rfl rfl rfl
  | lined c run s hc hstage hintake hrun hlive hroom => exact h.of_run hrun rfl rfl rfl rfl rfl
  | returned c result hc hstage => exact h.congr rfl rfl rfl fun run hrun => ⟨run, hrun, rfl⟩
  | sent s run hintake hrun hlive hroom => exact h.of_run hrun rfl rfl rfl rfl rfl
  | ended run roster firstRead hrun hworker hcancelled =>
      exact h.of_run hrun rfl (by rw [hworker]; rfl) rfl rfl rfl
  | crashed run e rest roster firstRead hrun hworker hcancelled hqueue =>
      -- nothing is parked while the worker is live, so its roster is gone with it
      have hparked := hord.phase.of_live hrun (by rw [hworker]; rfl)
      refine ⟨h.config, h.feed, fun roster' hroster => ?_, fun run' hrun' => ?_⟩
      · exact nomatch hparked.symm.trans hroster
      · rw [← Option.some.inj hrun']
        rfl
  | stateRead run e rest roster firstRead hrun hworker hcancelled hqueue hsignal =>
      exact h.of_run hrun rfl (by rw [hworker]; rfl) rfl rfl rfl
  | scanMissed run e rest roster firstRead updated hrun hworker hcancelled hqueue hsignal =>
      exact h.of_run hrun rfl (by rw [hworker]) rfl rfl rfl
  | scanTaken run e rest roster firstRead updated sightings c hrun hworker hcancelled hqueue =>
      have hparked := hord.phase.of_live hrun (by rw [hworker]; rfl)
      -- the worker and the reference store apply one cycle to one roster
      obtain ⟨hlost, rfl⟩ := h.of_live hrun hworker
      refine ⟨h.config, congrArg (Feed.publish · _) h.feed, fun roster' hroster => ?_,
        fun run' hrun' => ?_⟩
      · exact nomatch hparked.symm.trans hroster
      · rw [← Option.some.inj hrun']
        exact (Reference.roster?_scanTaken policy hlost c).symm
  | callbackCrashed run n rest hrun hnotifier hnotices hcrashing =>
      exact h.of_run hrun rfl rfl rfl rfl rfl
  | called run n rest hrun hnotifier hnotices hcrashing => exact h.of_run hrun rfl rfl rfl rfl rfl
  | broadcast run n hrun hnotifier => exact h.of_run hrun rfl rfl rfl rfl rfl
  | notifierEnded run hrun hnotifier hnotices hended => exact h.of_run hrun rfl rfl rfl rfl rfl
  | world s radio clock elapsed trigger =>
      refine h.congr rfl rfl rfl fun run' hrun' => ?_
      obtain ⟨run, hrun, rfl⟩ := Option.map_eq_some_iff.mp hrun'
      exact ⟨run, hrun, rfl⟩
  | callbacksSet crashing => exact h.congr rfl rfl rfl fun run hrun => ⟨run, hrun, rfl⟩

/-- Only a live worker takes a scan in, and it has not lost the roster. -/
theorem lost_of_scanTaken {s : Step} {c : Cycle} (hmove : Move t s (some (.scanTaken c)) t')
    (h : Mirrors policy t r) : r.lost = false := by
  cases hmove with
  | scanTaken run e rest roster firstRead updated sightings _ hrun hworker =>
      exact (h.of_live hrun hworker).1

end Mirrors

section

variable (config : TrackerConfig) (radio : Radio) (clock : Int64)

theorem mirrors_after (steps : List Step) :
    Mirrors config.policy ((new config radio clock).after steps)
      (.of config.policy ((new config radio clock).trace steps)) := by
  induction steps using List.reverseRecOn with
  | nil => exact .new config radio clock
  | append_singleton steps s ih =>
      rw [after_concat, trace_concat, Reference.of_append]
      exact ih.move (move_step _ s) (orderly_after config radio clock steps)

/-- At every moment the entry list of a tracker is that of the reference store, which takes in
exactly the scans that the worker applies while the source has a list, with the signal's flag and
the time on the clock; nothing else that happens touches the list or its version.  While a crash
has lost the roster, no scan is taken in, and the next run begins with an empty roster. -/
theorem entries_follow_reference (steps : List Step) :
    let t := (new config radio clock).after steps
    let r := Reference.of config.policy ((new config radio clock).trace steps)
    t.entries = r.store.feed.snapshot ∧ t.feed.version = r.store.feed.version ∧
    (∀ s, (t.step s).feed =
      match t.happening? s with
      | some (.scanTaken c) => (r.store.ingest c).1.feed
      | _ => t.feed) ∧
    (∀ s c, t.happening? s = some (.scanTaken c) ↔
      s = .work ∧ ∃ updated sightings, t.nextSignal? = some (.scanResults updated) ∧
        t.radio.reply = .found sightings ∧ c = .ofSightings sightings updated t.clock) ∧
    (∀ s c, t.happening? s = some (.scanTaken c) → r.lost = false) ∧
    (∀ s, t.happening? s = some .spawned → r.lost = true →
      Reference.of config.policy ((new config radio clock).trace (steps ++ [s])) =
        ⟨⟨.empty config.policy, t.feed⟩, false⟩) ∧
    (.crashed ∉ (new config radio clock).trace steps →
      r.store = (Store.empty config.policy).ingestAll
        (Reference.cyclesOf ((new config radio clock).trace steps))) := by
  intro t r
  have hfeed : t.feed = r.store.feed := (mirrors_after config radio clock steps).feed
  have hnext : ∀ s, Reference.of config.policy ((new config radio clock).trace (steps ++ [s])) =
      (t.happening? s).toList.foldl (Reference.follow config.policy) r := by
    intro s
    rw [trace_concat, Reference.of_append]
  refine ⟨congrArg Feed.snapshot hfeed, congrArg Feed.version hfeed, ?_,
    fun s c => happening?_eq_scanTaken_iff, ?_, ?_, ?_⟩
  · intro s
    have hstep := (mirrors_after config radio clock (steps ++ [s])).feed
    rw [after_concat, hnext] at hstep
    refine hstep.trans ?_
    cases t.happening? s with
    | none => exact hfeed.symm
    | some h =>
        refine Reference.feed_follow h |>.trans ?_
        cases h with
        | scanTaken c => rfl
        | _ => exact hfeed.symm
  · intro s c htaken
    have hmove := move_step t s
    rw [htaken] at hmove
    exact (mirrors_after config radio clock steps).lost_of_scanTaken hmove
  · intro s hspawned hlost
    rw [hnext, hspawned]
    simp [Reference.follow, hlost, hfeed]
  · intro hcrashed
    exact congrArg Reference.store (Reference.of_eq_ingestAll hcrashed)

end

/-- After a crash of the source the list stays, and the next start begins with no entries. -/
theorem entries_follow_reference_after_crash :
    let config : TrackerConfig := ⟨.ofSeconds 15, .ofSeconds 10, false⟩
    let radio := (Radio.new .enabled).setScan [⟨some "Cafe", "a", "[WPA2-PSK]", 0, none, none⟩]
    let t := new config radio 0
    let steps := [.beginStart, .advance 0, .advance 0, .work, .send (.scanResults true), .work,
      .setRadio fun r => { r with health := .crashing }, .send (.scanResults true), .work,
      .beginStop, .advance 1, .advance 1, .notify, .notify, .notify, .notify, .notify, .advance 1,
      .beginStart]
    (t.after steps).happening? (.advance 2) = some .spawned ∧
    (Reference.of config.policy (t.trace steps)).lost = true ∧
    (t.after steps).entries.length = 1 ∧
    Reference.of config.policy (t.trace (steps ++ [.advance 2])) =
      ⟨⟨.empty config.policy, (t.after steps).feed⟩, false⟩ := by
  intro config radio t steps
  have hspawned : (t.after steps).happening? (.advance 2) = some .spawned := by decide +kernel
  have hlost : (Reference.of config.policy (t.trace steps)).lost = true := by decide +kernel
  have hfollows := entries_follow_reference config radio 0 steps
  exact ⟨hspawned, hlost, by decide +kernel, hfollows.2.2.2.2.2.1 _ hspawned hlost⟩

end Tracker

end ScanRoster
