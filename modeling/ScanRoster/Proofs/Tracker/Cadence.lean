import Mathlib.Data.List.Infix
import Mathlib.Tactic.Ring
import ScanRoster.Proofs.Tracker.Ownership

/-!
# The cadence of scan requests

The trigger of a run keeps its time from its first piece of work on: it ticks at exact multiples of
the scan interval from there, until a stop comes to the run.  At each tick a scan is requested if the
radio state on record is enabled, and nothing else ever requests one.  So the moments of the requests
are told by when trigger tasks begin and by what is on record; neither a refusal, nor a signal, nor a
crash of the source, nor a tick that was skipped moves the ticks that come after it.
-/

namespace ScanRoster

/-- When a trigger ticks next, if its first tick is set. -/
def Trigger.next? : Trigger → Option Nat
  | .ticking next => some next
  | _ => none

/-- A tick of a trigger, with the radio state that was on record. -/
structure Tick where
  moment : Nat
  recorded : RadioState
  deriving DecidableEq

/-- The moments at which a scan is requested: those of the ticks with the radio enabled. -/
def requestsOf (ticks : List Tick) : List Nat :=
  (ticks.filter (·.recorded.isEnabled)).map (·.moment)

/-- What a step makes of the radio from outside. -/
def Step.retune : Step → Radio → Radio
  | .setRadio change, r => change r
  | _, r => r

namespace Tracker

/-! ## Ticks -/

/-- The trigger of a run that no stop has come to. -/
def trigger? (t : Tracker) : Option Trigger :=
  t.running.map (·.trigger)

/-- When that trigger ticks next. -/
def nextTick? (t : Tracker) : Option Nat :=
  t.trigger?.bind Trigger.next?

/-- So many ticks, the first of them at `next`, with what is on record now. -/
def ticksFrom (t : Tracker) (next count : Nat) : List Tick :=
  (List.range count).map fun k => ⟨next + k * t.config.scanInterval.nanos, t.recorded⟩

/-- The ticks that come in a step. -/
def ticks (t : Tracker) (s : Step) : List Tick :=
  match t.nextTick?, s with
  | some next, .tick => t.ticksFrom next (if next ≤ t.elapsed then 1 else 0)
  | some next, .passTime nanos =>
    t.ticksFrom next (ticksBefore next t.config.scanInterval.nanos (t.elapsed + nanos))
  | _, _ => []

/-- The ticks that come in some steps, in order. -/
def tickLog (t : Tracker) : List Step → List Tick
  | [] => []
  | s :: rest => t.ticks s ++ tickLog (t.step s) rest

/-- The steps all lie in one run, whose trigger task begins with a step in front of them: no stop
comes to the run in them. -/
structure Life (t : Tracker) (during : List Step) : Prop where
  fresh : t.trigger? = some .fresh
  kept : ∀ steps, steps <+: .trigger :: during → (t.after steps).running.isSome = true

section

variable {t t' : Tracker} {s : Step} {run : Run} {happening : Option Happening}

theorem trigger?_eq_some_iff {x : Trigger} :
    t.trigger? = some x ↔ ∃ run, t.run = some run ∧ run.cancelled = false ∧ run.trigger = x := by
  simp [trigger?, running_eq_some_iff, and_assoc]

theorem nextTick?_eq_some_iff {next : Nat} :
    t.nextTick? = some next ↔
      ∃ run, t.run = some run ∧ run.cancelled = false ∧ run.trigger = .ticking next := by
  have hnext : ∀ x : Trigger, x.next? = some next ↔ x = .ticking next := by
    intro x
    cases x <;> simp [Trigger.next?]
  simp [nextTick?, Option.bind_eq_some_iff, hnext, trigger?_eq_some_iff]

theorem running_of_nextTick? {next : Nat} (hnext : t.nextTick? = some next) :
    t.running.isSome = true := by
  obtain ⟨run, hrun, hlive, -⟩ := nextTick?_eq_some_iff.mp hnext
  rw [running_eq_some_iff.mpr ⟨hrun, hlive⟩]
  rfl

theorem ticks_of_untimed (huntimed : s.isTimed = false) : t.ticks s = [] := by
  unfold ticks
  cases t.nextTick? <;> cases s <;> first | rfl | contradiction

theorem ticks_of_idle (hidle : t.nextTick? = none) (s : Step) : t.ticks s = [] := by
  simp [ticks, hidle]

theorem ticks_trigger (t : Tracker) : t.ticks .trigger = [] := by
  unfold ticks
  cases t.nextTick? <;> rfl

theorem ticks_tick {next : Nat} (hnext : t.nextTick? = some next) :
    t.ticks .tick = t.ticksFrom next (if next ≤ t.elapsed then 1 else 0) := by
  simp only [ticks, hnext]

theorem ticks_passTime {next : Nat} (hnext : t.nextTick? = some next) (nanos : Nat) :
    t.ticks (.passTime nanos) = t.ticksFrom next
      (ticksBefore next t.config.scanInterval.nanos (t.elapsed + nanos)) := by
  simp only [ticks, hnext]

theorem length_ticksFrom (t : Tracker) (next count : Nat) :
    (t.ticksFrom next count).length = count := by
  simp [ticksFrom]

theorem tickLog_concat (t : Tracker) (steps : List Step) (s : Step) :
    t.tickLog (steps ++ [s]) = t.tickLog steps ++ (t.after steps).ticks s := by
  induction steps generalizing t with
  | nil => simp [tickLog, after]
  | cons first rest ih =>
      simp only [List.cons_append, tickLog, ih, List.append_assoc]
      rfl

theorem length_requestsOf_ticksFrom (t : Tracker) (next count : Nat) :
    (requestsOf (t.ticksFrom next count)).length = if t.recorded.isEnabled then count else 0 := by
  unfold requestsOf ticksFrom
  cases henabled : t.recorded.isEnabled with
  | true =>
      rw [List.filter_eq_self.mpr (by simp [henabled])]
      simp
  | false =>
      rw [List.filter_eq_nil_iff.mpr (by simp [henabled])]
      rfl

/-! ## What the steps of the trigger do -/

/-- The ticks before a time are those whose moments come before it. -/
theorem lt_ticksBefore_iff {interval : Nat} (hpositive : 0 < interval) (next now k : Nat) :
    k < ticksBefore next interval now ↔ next + k * interval < now := by
  unfold ticksBefore
  split
  · rename_i hdue
    rw [Nat.lt_succ_iff, Nat.le_div_iff_mul_le hpositive]
    omega
  · omega

theorem tick_of_ticking {next : Nat} (hrun : t.run = some run) (hlive : run.cancelled = false)
    (htrigger : run.trigger = .ticking next) :
    t.tick = if next ≤ t.elapsed then t.strike run next 1 else t := by
  simp [tick, hrun, hlive, htrigger]

theorem passTime_of_ticking {next : Nat} (hrun : t.run = some run) (hlive : run.cancelled = false)
    (htrigger : run.trigger = .ticking next) (nanos : Nat) :
    t.passTime nanos = strike { t with elapsed := t.elapsed + nanos } run next
      (ticksBefore next t.config.scanInterval.nanos (t.elapsed + nanos)) := by
  simp [passTime, hrun, hlive, htrigger]

theorem tick_of_idle (hidle : t.nextTick? = none) : t.tick = t := by
  unfold tick
  split
  · rfl
  · rename_i run hrun
    split
    · rename_i next htrigger hlive
      rw [nextTick?_eq_some_iff.mpr ⟨run, hrun, hlive, htrigger⟩] at hidle
      contradiction
    · rfl

theorem passTime_of_idle (hidle : t.nextTick? = none) (nanos : Nat) :
    t.passTime nanos = { t with elapsed := t.elapsed + nanos } := by
  unfold passTime
  split
  · rfl
  · rename_i run hrun
    split
    · rename_i next htrigger hlive
      rw [nextTick?_eq_some_iff.mpr ⟨run, hrun, hlive, htrigger⟩] at hidle
      contradiction
    · rfl

theorem nextTick?_strike (hlive : run.cancelled = false) (next ticks : Nat) :
    (t.strike run next ticks).nextTick? = some (next + ticks * t.config.scanInterval.nanos) :=
  nextTick?_eq_some_iff.mpr ⟨_, rfl, hlive, rfl⟩

theorem request_zero (r : Radio) : r.request 0 = r := by
  unfold Radio.request
  split <;> rfl

theorem request_add (r : Radio) (first more : Nat) :
    (r.request first).request more = r.request (first + more) := by
  unfold Radio.request
  cases hrefusing : r.refusing <;> simp [Nat.add_assoc]

theorem radio_strike (t : Tracker) (run : Run) (next ticks : Nat) :
    (t.strike run next ticks).radio =
      t.radio.request (requestsOf (t.ticksFrom next ticks)).length := by
  rw [length_requestsOf_ticksFrom, strike]
  dsimp only
  split
  · rfl
  · exact (request_zero _).symm

/-- Ticks that come one after the other are as good as all of them at once. -/
theorem strike_strike (t : Tracker) (run : Run) (next first more : Nat) :
    (t.strike run next first).strike
        { run with trigger := .ticking (next + first * t.config.scanInterval.nanos) }
        (next + first * t.config.scanInterval.nanos) more =
      t.strike run next (first + more) := by
  unfold strike
  dsimp only
  rw [Nat.add_assoc, ← Nat.add_mul]
  cases t.recorded.isEnabled with
  | true => simp only [if_true, request_add]
  | false => rfl

/-! ## Every step -/

theorem elapsed_move (hmove : Move t s happening t') (huntimed : s.isTimed = false) :
    t'.elapsed = t.elapsed := by
  cases hmove with
  | world _ _ _ _ _ _ _ htimed => exact (htimed huntimed).1
  | _ => rfl

/-- The trigger of a run that no stop has come to was there before a step and is as much at work as it
was, and no step but its own moves it on; or the step has spawned it. -/
theorem trigger?_move (hmove : Move t s happening t') {x : Trigger} (hx : t'.trigger? = some x) :
    (∃ y, t.trigger? = some y ∧ x.isLive = y.isLive ∧ (s.isTimed = false → x = y)) ∨
      (t.trigger? = none ∧ s.isTimed = false ∧
        x = if t.config.activeScanning then .fresh else .absent) := by
  obtain ⟨run', hrun', hlive', rfl⟩ := trigger?_eq_some_iff.mp hx
  have hkept : ∀ {run : Run}, t.run = some run → run'.cancelled = run.cancelled →
      run'.trigger = run.trigger →
      ∃ y, t.trigger? = some y ∧ run'.trigger.isLive = y.isLive ∧
        (s.isTimed = false → run'.trigger = y) := by
    intro run hrun hcancelled htrigger
    exact ⟨_, trigger?_eq_some_iff.mpr ⟨run, hrun, hcancelled ▸ hlive', htrigger.symm⟩, rfl,
      fun _ => rfl⟩
  cases hmove with
  | still => exact Or.inl (hkept hrun' rfl rfl)
  | begun => exact Or.inl (hkept hrun' rfl rfl)
  | left => exact Or.inl (hkept hrun' rfl rfl)
  | spawned c hc hkind hstage hfree hrunning =>
      obtain rfl := Option.some.inj hrun'
      exact Or.inr ⟨by rw [trigger?, hrunning]; rfl, rfl, rfl⟩
  | cancelled c run =>
      obtain rfl := Option.some.inj hrun'
      contradiction
  | parked => exact Or.inl (hkept hrun' rfl rfl)
  | stopped => contradiction
  | queued c run s hc hstage hintake hrun =>
      exact Or.inl (hkept hrun (Option.some.inj hrun' ▸ rfl) (Option.some.inj hrun' ▸ rfl))
  | lined c run s hc hstage hintake hrun =>
      exact Or.inl (hkept hrun (Option.some.inj hrun' ▸ rfl) (Option.some.inj hrun' ▸ rfl))
  | returned => exact Or.inl (hkept hrun' rfl rfl)
  | sent s run hintake hrun =>
      exact Or.inl (hkept hrun (Option.some.inj hrun' ▸ rfl) (Option.some.inj hrun' ▸ rfl))
  | ended run roster firstRead hrun =>
      exact Or.inl (hkept hrun (Option.some.inj hrun' ▸ rfl) (Option.some.inj hrun' ▸ rfl))
  | crashed run e rest roster firstRead hrun =>
      exact Or.inl (hkept hrun (Option.some.inj hrun' ▸ rfl) (Option.some.inj hrun' ▸ rfl))
  | stateRead run e rest roster firstRead hrun =>
      exact Or.inl (hkept hrun (Option.some.inj hrun' ▸ rfl) (Option.some.inj hrun' ▸ rfl))
  | scanMissed run e rest roster firstRead updated hrun =>
      exact Or.inl (hkept hrun (Option.some.inj hrun' ▸ rfl) (Option.some.inj hrun' ▸ rfl))
  | scanTaken run e rest roster firstRead updated sightings c hrun =>
      exact Or.inl (hkept hrun (Option.some.inj hrun' ▸ rfl) (Option.some.inj hrun' ▸ rfl))
  | callbackCrashed run n rest hrun =>
      exact Or.inl (hkept hrun (Option.some.inj hrun' ▸ rfl) (Option.some.inj hrun' ▸ rfl))
  | called run n rest hrun =>
      exact Or.inl (hkept hrun (Option.some.inj hrun' ▸ rfl) (Option.some.inj hrun' ▸ rfl))
  | broadcast run n hrun =>
      exact Or.inl (hkept hrun (Option.some.inj hrun' ▸ rfl) (Option.some.inj hrun' ▸ rfl))
  | notifierEnded run hrun =>
      exact Or.inl (hkept hrun (Option.some.inj hrun' ▸ rfl) (Option.some.inj hrun' ▸ rfl))
  | world s radio clock elapsed trigger hdelivered hworld htimed hlive =>
      obtain ⟨run, hrun, rfl⟩ := Option.map_eq_some_iff.mp hrun'
      refine Or.inl ⟨run.trigger, trigger?_eq_some_iff.mpr ⟨run, hrun, hlive', rfl⟩,
        hlive run (running_eq_some_iff.mpr ⟨hrun, hlive'⟩), fun huntimed => (htimed huntimed).2 _⟩
  | callbacksSet => exact Or.inl (hkept hrun' rfl rfl)

theorem wakeTrigger_of_fresh (hfresh : t.trigger? = some .fresh) :
    t.wakeTrigger.nextTick? = some (t.elapsed + t.config.scanInterval.nanos) ∧
      t.wakeTrigger.elapsed = t.elapsed := by
  obtain ⟨run, hrun, hlive, htrigger⟩ := trigger?_eq_some_iff.mp hfresh
  have heq : t.wakeTrigger = { t with
      run := some { run with trigger := .ticking (t.elapsed + t.config.scanInterval.nanos) } } := by
    simp [wakeTrigger, hrun, hlive, htrigger]
  rw [heq]
  exact ⟨nextTick?_eq_some_iff.mpr ⟨_, rfl, hlive, rfl⟩, rfl⟩

theorem trigger?_of_running (hrunning : t.running.isSome = true) : ∃ x, t.trigger? = some x := by
  obtain ⟨run, hsome⟩ := Option.isSome_iff_exists.mp hrunning
  exact ⟨run.trigger, by rw [trigger?, hsome]; rfl⟩

/-- A trigger whose tick is set, or that is not at work, is left as it is. -/
theorem wakeTrigger_of_not_fresh (hset : t.trigger? ≠ some .fresh)
    (hkept : t.wakeTrigger.running.isSome = true) : t.wakeTrigger = t := by
  obtain ⟨x, hx⟩ := trigger?_of_running hkept
  rcases trigger?_move (move_step t .trigger) hx with ⟨y, hy, -⟩ | ⟨-, huntimed, -⟩
  · obtain ⟨run, hrun, hlive, rfl⟩ := trigger?_eq_some_iff.mp hy
    unfold wakeTrigger
    cases htrigger : run.trigger with
    | fresh => exact absurd (htrigger ▸ hy) hset
    | ticking next => simp [hrun, hlive, htrigger]
    | absent => simp [hrun, htrigger]
    | ended => simp [hrun, htrigger]
  · contradiction

/-- While no stop comes to the run, its next tick moves on by one interval for each that came. -/
theorem nextTick?_step {next : Nat} (hnext : t.nextTick? = some next)
    (hkept : (t.step s).running.isSome = true) :
    (t.step s).nextTick? = some (next + (t.ticks s).length * t.config.scanInterval.nanos) := by
  obtain ⟨run, hrun, hlive, htrigger⟩ := nextTick?_eq_some_iff.mp hnext
  have hticking : t.trigger? = some (.ticking next) :=
    trigger?_eq_some_iff.mpr ⟨run, hrun, hlive, htrigger⟩
  cases huntimed : s.isTimed with
  | false =>
      obtain ⟨x, hx⟩ := trigger?_of_running hkept
      rw [ticks_of_untimed huntimed]
      rcases trigger?_move (move_step t s) hx with ⟨y, hy, -, hsame⟩ | ⟨hnone, -⟩
      · rw [nextTick?, hx, hsame huntimed, ← hy, ← nextTick?, hnext]
        simp
      · rw [hnone] at hticking
        contradiction
  | true =>
      cases s with
      | trigger =>
          have hset : t.trigger? ≠ some .fresh := by simp [hticking]
          have hsame : t.step .trigger = t := wakeTrigger_of_not_fresh hset hkept
          rw [hsame, hnext]
          simp [ticks, hnext]
      | tick =>
          rw [ticks_tick hnext, length_ticksFrom, step, tick_of_ticking hrun hlive htrigger]
          split
          · exact nextTick?_strike hlive _ _
          · rw [hnext]
            simp
      | passTime nanos =>
          rw [ticks_passTime hnext, length_ticksFrom, step,
            passTime_of_ticking hrun hlive htrigger]
          exact nextTick?_strike hlive _ _
      | _ => contradiction

/-- The first tick is set by the first piece of the trigger's work. -/
theorem fresh_of_nextTick? {next : Nat} (hnone : t.nextTick? = none)
    (hnext : (t.step s).nextTick? = some next) : s = .trigger ∧ t.trigger? = some .fresh := by
  obtain ⟨run', hrun', hlive', htrigger'⟩ := nextTick?_eq_some_iff.mp hnext
  have hx : (t.step s).trigger? = some (.ticking next) :=
    trigger?_eq_some_iff.mpr ⟨run', hrun', hlive', htrigger'⟩
  have hnew : t.trigger? ≠ some (.ticking next) := by
    intro hticking
    rw [nextTick?, hticking] at hnone
    contradiction
  cases huntimed : s.isTimed with
  | false =>
      rcases trigger?_move (move_step t s) hx with ⟨y, hy, -, hsame⟩ | ⟨-, -, hspawned⟩
      · exact absurd (hsame huntimed ▸ hy) hnew
      · split at hspawned <;> contradiction
  | true =>
      have hsame : t.step s ≠ t := by
        intro heq
        rw [heq] at hx
        exact hnew hx
      cases s with
      | trigger =>
          refine ⟨rfl, Decidable.byContradiction fun hset => hsame ?_⟩
          exact wakeTrigger_of_not_fresh hset (by
            rw [← step, running_eq_some_iff.mpr ⟨hrun', hlive'⟩]; rfl)
      | tick => exact absurd (tick_of_idle hnone) hsame
      | passTime nanos =>
          rw [step, passTime_of_idle hnone] at hx
          exact absurd hx hnew
      | _ => contradiction

theorem radio_untimed (t : Tracker) (huntimed : s.isTimed = false) :
    (t.step s).radio = s.retune t.radio := by
  have hown : ∀ {s : Step} {happening : Option Happening} {t' : Tracker},
      Move t s happening t' → s.isOwn = true → s.isTimed = false → t'.radio = t.radio := by
    intro s happening t' hmove hown huntimed
    cases hmove with
    | world s _ _ _ _ _ hworld =>
        rcases hworld with rfl | hnot
        · contradiction
        · rw [hnot] at hown
          contradiction
    | _ => rfl
  cases s with
  | beginStart =>
      rw [step, beginStart]
      split <;> rfl
  | beginStop => rfl
  | beginSignal s => rfl
  | advance id => exact hown (move_advance t id) rfl rfl
  | send s =>
      rw [step, send]
      split <;> rfl
  | work => exact hown (move_work t) rfl rfl
  | notify => exact hown (move_notify t) rfl rfl
  | setClock now => rfl
  | setRadio change => rfl
  | setCallbacks crashing => rfl
  | _ => contradiction

theorem radio_wakeTrigger (t : Tracker) : t.wakeTrigger.radio = t.radio := by
  unfold wakeTrigger
  cases t.run with
  | none => rfl
  | some run =>
      dsimp only
      repeat' split
      all_goals rfl

/-- The ticks of a step, and nothing else, request scans. -/
theorem radio_step (t : Tracker) (s : Step) :
    (t.step s).radio = (s.retune t.radio).request (requestsOf (t.ticks s)).length := by
  have hnone : (t.step s).radio = s.retune t.radio → t.ticks s = [] →
      (t.step s).radio = (s.retune t.radio).request (requestsOf (t.ticks s)).length := by
    intro hradio hticks
    rw [hticks, hradio]
    exact (request_zero _).symm
  cases huntimed : s.isTimed with
  | false => exact hnone (radio_untimed t huntimed) (ticks_of_untimed huntimed)
  | true =>
      cases hnext : t.nextTick? with
      | none =>
          refine hnone ?_ (ticks_of_idle hnext s)
          cases s with
          | trigger => exact radio_wakeTrigger t
          | tick => rw [step, tick_of_idle hnext]; rfl
          | passTime nanos => rw [step, passTime_of_idle hnext]; rfl
          | _ => contradiction
      | some next =>
          obtain ⟨run, hrun, hlive, htrigger⟩ := nextTick?_eq_some_iff.mp hnext
          cases s with
          | trigger => exact hnone (radio_wakeTrigger t) (ticks_trigger t)
          | tick =>
              rw [step, tick_of_ticking hrun hlive htrigger, ticks_tick hnext]
              split
              · exact radio_strike t run next 1
              · exact (request_zero _).symm
          | passTime nanos =>
              rw [step, passTime_of_ticking hrun hlive htrigger, ticks_passTime hnext]
              exact radio_strike _ run next _
          | _ => contradiction

/-! ## A life of the trigger -/

/-- The trigger has ticked `count` times since `start`, and ticks next when it is due again. -/
structure Keeping (t : Tracker) (start count : Nat) : Prop where
  next : t.nextTick? = some (start + (count + 1) * t.config.scanInterval.nanos)
  reached : start + count * t.config.scanInterval.nanos ≤ t.elapsed
  due : t.elapsed ≤ start + (count + 1) * t.config.scanInterval.nanos

/-- The moments of so many ticks from a beginning on. -/
def moments (start interval count : Nat) : List Nat :=
  (List.range count).map fun k => start + (k + 1) * interval

/-- So many intervals after the next tick. -/
theorem intervals_add (start interval count k : Nat) :
    start + (count + 1) * interval + k * interval = start + (count + k + 1) * interval := by
  ring

theorem moments_add (start interval count more : Nat) :
    moments start interval (count + more) =
      moments start interval count ++
        (List.range more).map fun k => start + (count + 1) * interval + k * interval := by
  simp only [moments, List.range_add, List.map_append, List.map_map, intervals_add]
  rfl

/-- How far a step may take the time: a step of the trigger's at `next` leaves out no tick. -/
theorem elapsed_step {next : Nat} (hnext : t.nextTick? = some next)
    (hpositive : 0 < t.config.scanInterval.nanos) (hdue : t.elapsed ≤ next) (s : Step)
    (hkept : (t.step s).running.isSome = true) :
    let count := (t.ticks s).length
    t.elapsed ≤ (t.step s).elapsed ∧
      (t.step s).elapsed ≤ next + count * t.config.scanInterval.nanos ∧
      ∀ k < count, next + k * t.config.scanInterval.nanos ≤ (t.step s).elapsed := by
  intro count
  have hstill : (t.step s).elapsed = t.elapsed → t.ticks s = [] → t.elapsed ≤ (t.step s).elapsed ∧
      (t.step s).elapsed ≤ next + count * t.config.scanInterval.nanos ∧
      ∀ k < count, next + k * t.config.scanInterval.nanos ≤ (t.step s).elapsed := by
    intro helapsed hticks
    have hcount : count = 0 := congrArg List.length hticks
    rw [helapsed, hcount]
    exact ⟨le_rfl, by omega, nofun⟩
  obtain ⟨run, hrun, hlive, htrigger⟩ := nextTick?_eq_some_iff.mp hnext
  cases huntimed : s.isTimed with
  | false => exact hstill (elapsed_move (move_step t s) huntimed) (ticks_of_untimed huntimed)
  | true =>
      cases s with
      | trigger =>
          have hset : t.trigger? ≠ some .fresh := by
            rw [trigger?_eq_some_iff.mpr ⟨run, hrun, hlive, htrigger⟩]
            exact nofun
          refine hstill ?_ (ticks_trigger t)
          rw [step, wakeTrigger_of_not_fresh hset hkept]
      | tick =>
          have hcount : count = if next ≤ t.elapsed then 1 else 0 :=
            (congrArg List.length (ticks_tick hnext)).trans (length_ticksFrom ..)
          have helapsed : (t.step .tick).elapsed = t.elapsed := by
            rw [step, tick_of_ticking hrun hlive htrigger]
            split <;> rfl
          rw [helapsed, hcount]
          refine ⟨le_rfl, by omega, fun k hk => ?_⟩
          split at hk
          · obtain rfl : k = 0 := by omega
            omega
          · omega
      | passTime nanos =>
          have hcount : count =
              ticksBefore next t.config.scanInterval.nanos (t.elapsed + nanos) :=
            (congrArg List.length (ticks_passTime hnext nanos)).trans (length_ticksFrom ..)
          have helapsed : (t.step (.passTime nanos)).elapsed = t.elapsed + nanos := by
            rw [step, passTime_of_ticking hrun hlive htrigger]
            rfl
          rw [helapsed, hcount]
          have hbefore := lt_ticksBefore_iff hpositive next (t.elapsed + nanos)
          refine ⟨by omega, ?_, fun k hk => ((hbefore k).mp hk).le⟩
          exact Nat.le_of_not_lt fun hlater => lt_irrefl _ ((hbefore _).mpr hlater)
      | _ => contradiction

/-- A trigger that keeps its time goes on to do so, and ticks in step with it, while no stop comes to
the run. -/
theorem keeping_step {start count : Nat} (h : Keeping t start count)
    (hpositive : 0 < t.config.scanInterval.nanos) (s : Step)
    (hkept : (t.step s).running.isSome = true) :
    Keeping (t.step s) start (count + (t.ticks s).length) := by
  obtain ⟨hlater, hdue, hbefore⟩ := elapsed_step h.next hpositive h.due s hkept
  have hnext := nextTick?_step h.next hkept
  have hreached := h.reached
  rw [intervals_add] at hdue hnext
  constructor
  · rw [config_step]
    exact hnext
  · rw [config_step]
    cases hticks : (t.ticks s).length with
    | zero => exact hreached.trans hlater
    | succ k =>
        have hlast := hbefore k (by omega)
        rwa [intervals_add] at hlast
  · rw [config_step]
    exact hdue

theorem ticks_eq_ticksFrom {next : Nat} (hnext : t.nextTick? = some next) (s : Step) :
    t.ticks s = t.ticksFrom next (t.ticks s).length := by
  cases s with
  | tick => rw [ticks_tick hnext, length_ticksFrom]
  | passTime nanos => rw [ticks_passTime hnext, length_ticksFrom]
  | trigger =>
      rw [ticks_trigger]
      rfl
  | _ =>
      rw [ticks_of_untimed rfl]
      rfl

theorem map_moment_ticks {next : Nat} (hnext : t.nextTick? = some next) (s : Step) :
    (t.ticks s).map (·.moment) = (List.range (t.ticks s).length).map fun k =>
      next + k * t.config.scanInterval.nanos := by
  rw [ticks_eq_ticksFrom hnext, length_ticksFrom, ticksFrom, List.map_map]
  rfl

theorem Life.tail {during : List Step} (h : Life t (during ++ [s])) : Life t during :=
  ⟨h.fresh, fun steps hinitial => h.kept steps (hinitial.trans (List.prefix_append ..))⟩

/-- In a life of the trigger, ticks come at exact multiples of the interval from its beginning on, and
they have all come up to now, but for one that may be due at this very moment. -/
theorem keeping_of_life (hpositive : 0 < t.config.scanInterval.nanos) (during : List Step)
    (hlife : Life t during) :
    ∃ count, Keeping (t.after (.trigger :: during)) t.elapsed count ∧
      (t.tickLog (.trigger :: during)).map (·.moment) =
        moments t.elapsed t.config.scanInterval.nanos count := by
  induction during using List.reverseRecOn with
  | nil =>
      obtain ⟨hnext, helapsed⟩ := wakeTrigger_of_fresh hlife.fresh
      refine ⟨0, ⟨?_, ?_, ?_⟩, ?_⟩
      · rw [config_after]
        exact hnext.trans (by simp)
      · show t.elapsed + _ ≤ t.wakeTrigger.elapsed
        rw [helapsed]
        omega
      · show t.wakeTrigger.elapsed ≤ _
        rw [helapsed]
        omega
      · simp [tickLog, ticks_trigger, moments]
  | append_singleton during s ih =>
      obtain ⟨count, hkeeping, hlog⟩ := ih hlife.tail
      have hsplit : Step.trigger :: (during ++ [s]) = (.trigger :: during) ++ [s] := rfl
      have hkept := hlife.kept _ (List.prefix_refl _)
      rw [hsplit, after_concat] at hkept
      have hconfig := config_after t (.trigger :: during)
      refine ⟨count + ((t.after (.trigger :: during)).ticks s).length, ?_, ?_⟩
      · rw [hsplit, after_concat]
        exact keeping_step hkeeping (hconfig ▸ hpositive) s hkept
      · rw [hsplit, tickLog_concat, List.map_append, hlog, map_moment_ticks hkeeping.next, hconfig,
          moments_add]

theorem Life.begin (hfresh : t.trigger? = some .fresh)
    (hkept : (t.step .trigger).running.isSome = true) : Life t [] := by
  refine ⟨hfresh, fun steps hinitial => ?_⟩
  rcases List.prefix_cons_iff.mp hinitial with rfl | ⟨rest, rfl, hrest⟩
  · obtain ⟨run, hrun, hlive, -⟩ := trigger?_eq_some_iff.mp hfresh
    show t.running.isSome = true
    rw [running_eq_some_iff.mpr ⟨hrun, hlive⟩]
    rfl
  · rw [List.prefix_nil.mp hrest]
    exact hkept

theorem Life.extend {during : List Step} (h : Life t during)
    (hkept : (t.after (.trigger :: during ++ [s])).running.isSome = true) :
    Life t (during ++ [s]) := by
  refine ⟨h.fresh, fun steps hinitial => ?_⟩
  rcases List.prefix_concat_iff.mp (show steps <+: .trigger :: during ++ [s] from hinitial) with
    rfl | hinitial
  · exact hkept
  · exact h.kept steps hinitial

/-- A trigger whose next tick is set is in a life that has begun since. -/
theorem exists_life (hnone : t.nextTick? = none) (steps : List Step) {next : Nat}
    (hnext : (t.after steps).nextTick? = some next) :
    ∃ before during, steps = before ++ .trigger :: during ∧ Life (t.after before) during := by
  induction steps using List.reverseRecOn generalizing next with
  | nil =>
      rw [after, List.foldl_nil, hnone] at hnext
      contradiction
  | append_singleton steps s ih =>
      rw [after_concat] at hnext
      have hkept := running_of_nextTick? hnext
      cases hbefore : (t.after steps).nextTick? with
      | some last =>
          obtain ⟨before, during, rfl, hlife⟩ := ih hbefore
          refine ⟨before, during ++ [s], by simp, hlife.extend ?_⟩
          rwa [after_concat, ← after_append]
      | none =>
          obtain ⟨rfl, hfresh⟩ := fresh_of_nextTick? hbefore hnext
          exact ⟨steps, [], rfl, .begin hfresh hkept⟩

/-! ## Which trackers have a trigger at work -/

theorem scanInterval_pos {config : TrackerConfig} (hvalid : config.validate = .ok ()) :
    0 < config.scanInterval.nanos := by
  unfold TrackerConfig.validate Duration.isZero at hvalid
  split at hvalid
  · contradiction
  · split at hvalid
    · contradiction
    · rename_i hinterval
      exact Nat.pos_of_ne_zero (by simpa using hinterval)

/-- Only with a valid configuration does a start come to the lifecycle, and there are tasks only
then.  Until a stop comes, their trigger is at work if scans are asked for at all. -/
structure Primed (t : Tracker) : Prop where
  sanctioned : ∀ c ∈ t.calls, c.kind = .start → c.stage = .lifecycle →
    t.config.validate = .ok ()
  valid : t.run.isSome = true → t.config.validate = .ok ()
  armed : ∀ x, t.trigger? = some x → x.isLive = t.config.activeScanning

/-- There are tasks after a step only where there were some, or where a start was let in. -/
theorem run_move (hmove : Move t s happening t') (hrun : t'.run.isSome = true) :
    t.run.isSome = true ∨ ∃ c ∈ t.calls, c.kind = .start ∧ c.stage = .lifecycle := by
  cases hmove with
  | spawned c hc hkind hstage => exact Or.inr ⟨c, hc, hkind, hstage⟩
  | world => exact Or.inl (by simpa using hrun)
  | still => exact Or.inl hrun
  | begun => exact Or.inl hrun
  | left => exact Or.inl hrun
  | parked => exact Or.inl hrun
  | returned => exact Or.inl hrun
  | callbacksSet => exact Or.inl hrun
  | stopped => contradiction
  | _ => exact Or.inl (by rw [‹t.run = some _›]; rfl)

theorem primed_step (h : Primed t) (s : Step) : Primed (t.step s) := by
  have hmove := move_step t s
  constructor
  · intro c hc hkind hwaits
    rw [config_step]
    rcases stage_move hmove hc with hold | hpast | ⟨hsanctioned, -⟩
    · exact h.sanctioned c hold hkind hwaits
    · exact absurd hwaits hpast.1
    · exact hsanctioned hkind hwaits
  · intro hrun
    rw [config_step]
    rcases run_move hmove hrun with hold | ⟨c, hc, hkind, hwaits⟩
    · exact h.valid hold
    · exact h.sanctioned c hc hkind hwaits
  · intro x hx
    rw [config_step]
    rcases trigger?_move hmove hx with ⟨y, hy, hlive, -⟩ | ⟨-, -, rfl⟩
    · rw [hlive, h.armed y hy]
    · cases t.config.activeScanning <;> rfl

theorem primed_after (config : TrackerConfig) (radio : Radio) (clock : Int64)
    (steps : List Step) : Primed ((new config radio clock).after steps) := by
  induction steps using List.reverseRecOn with
  | nil => exact ⟨nofun, nofun, nofun⟩
  | append_singleton steps s ih =>
      rw [after_concat]
      exact primed_step ih s

theorem Primed.interval_pos (h : Primed t) (hrunning : t.running.isSome = true) :
    0 < t.config.scanInterval.nanos := by
  obtain ⟨run, hsome⟩ := Option.isSome_iff_exists.mp hrunning
  refine scanInterval_pos (h.valid ?_)
  rw [(running_eq_some_iff.mp hsome).1]
  rfl

/-- In a run of a tracker every life of the trigger keeps the cadence of its beginning. -/
theorem keeping_after (config : TrackerConfig) (radio : Radio) (clock : Int64)
    {before during : List Step} (hlife : Life ((new config radio clock).after before) during) :
    let u := (new config radio clock).after before
    ∃ count, Keeping ((new config radio clock).after (before ++ .trigger :: during)) u.elapsed
        count ∧
      (u.tickLog (.trigger :: during)).map (·.moment) =
        moments u.elapsed config.scanInterval.nanos count := by
  intro u
  have hpositive := (primed_after config radio clock before).interval_pos
    (hlife.kept [] List.nil_prefix)
  have hkeeping := keeping_of_life hpositive during hlife
  rwa [← after_append, config_after] at hkeeping

/-! ## Time in pieces -/

theorem ticksBefore_add {interval more : Nat} (hpositive : 0 < interval) (hmore : 0 < more)
    (next now : Nat) :
    let first := ticksBefore next interval now
    let due := if next + first * interval ≤ now then 1 else 0
    first + due + ticksBefore (next + first * interval + due * interval) interval (now + more) =
      ticksBefore next interval (now + more) := by
  intro first due
  refine eq_of_forall_lt_iff fun k => ?_
  rw [lt_ticksBefore_iff hpositive]
  have hfirst : k < first ↔ next + k * interval < now := lt_ticksBefore_iff hpositive next now k
  rcases Nat.lt_or_ge k (first + due) with hbefore | hafter
  · refine iff_of_true (by omega) ?_
    rcases Nat.lt_or_ge k first with hearly | hlate
    · have := hfirst.mp hearly
      omega
    · -- then it is the tick that is due when the first piece of time is over
      have hdue : next + first * interval ≤ now := by
        by_contra hnot
        simp [due, hnot] at hbefore
        omega
      obtain rfl : k = first := by
        simp [due, hdue] at hbefore
        omega
      omega
  · obtain ⟨j, rfl⟩ := Nat.exists_eq_add_of_le hafter
    rw [Nat.add_lt_add_iff_left, lt_ticksBefore_iff hpositive]
    ring_nf

section

variable (hlive : run.cancelled = false) (next ticks : Nat)

include hlive

theorem tick_strike :
    (t.strike run next ticks).tick = t.strike run next
      (ticks + if next + ticks * t.config.scanInterval.nanos ≤ t.elapsed then 1 else 0) := by
  have hstruck : (t.strike run next ticks).run = some { run with
      trigger := .ticking (next + ticks * t.config.scanInterval.nanos) } := rfl
  rw [tick_of_ticking hstruck hlive rfl]
  show (if next + ticks * t.config.scanInterval.nanos ≤ t.elapsed then _ else _) = _
  split
  · exact strike_strike t run next ticks 1
  · rfl

theorem passTime_strike (nanos : Nat) :
    (t.strike run next ticks).passTime nanos =
      strike { t with elapsed := t.elapsed + nanos } run next (ticks +
        ticksBefore (next + ticks * t.config.scanInterval.nanos) t.config.scanInterval.nanos
          (t.elapsed + nanos)) := by
  have hstruck : (t.strike run next ticks).run = some { run with
      trigger := .ticking (next + ticks * t.config.scanInterval.nanos) } := rfl
  rw [passTime_of_ticking hstruck hlive rfl]
  exact strike_strike { t with elapsed := t.elapsed + nanos } run next ticks _

end

/-- Time that passes in two pieces, with the tick between them, is as good as all of it at once. -/
theorem passTime_add (hpositive : ∀ next, t.nextTick? = some next → 0 < t.config.scanInterval.nanos)
    (nanos : Nat) {more : Nat} (hmore : 0 < more) :
    (t.passTime nanos).tick.passTime more = t.passTime (nanos + more) := by
  cases hnext : t.nextTick? with
  | none =>
      have hlater : nextTick? { t with elapsed := t.elapsed + nanos } = none := hnext
      rw [passTime_of_idle hnext, tick_of_idle hlater, passTime_of_idle hlater,
        passTime_of_idle hnext, Nat.add_assoc]
  | some next =>
      obtain ⟨run, hrun, hlive, htrigger⟩ := nextTick?_eq_some_iff.mp hnext
      have hsum := ticksBefore_add (hpositive next hnext) hmore next (t.elapsed + nanos)
      rw [passTime_of_ticking hrun hlive htrigger, tick_strike hlive, passTime_strike hlive,
        passTime_of_ticking hrun hlive htrigger, ← Nat.add_assoc, ← hsum, Nat.add_assoc next,
        ← Nat.add_mul]

theorem running_step_of_ticks (hticks : t.ticks s ≠ []) :
    (t.step s).running.isSome = true := by
  cases hnext : t.nextTick? with
  | none => exact absurd (ticks_of_idle hnext s) hticks
  | some next =>
      obtain ⟨run, hrun, hlive, htrigger⟩ := nextTick?_eq_some_iff.mp hnext
      cases s with
      | tick =>
          rw [step, tick_of_ticking hrun hlive htrigger]
          split
          · exact running_of_nextTick? (nextTick?_strike hlive _ _)
          · exact running_of_nextTick? hnext
      | passTime nanos =>
          rw [step, passTime_of_ticking hrun hlive htrigger]
          exact running_of_nextTick? (nextTick?_strike hlive _ _)
      | trigger => exact absurd (ticks_trigger t) hticks
      | _ => exact absurd (ticks_of_untimed rfl) hticks

theorem moment_of_mem_ticks (hkeeping : ∀ next, t.nextTick? = some next →
      0 < t.config.scanInterval.nanos ∧ t.elapsed ≤ next) {tick : Tick} (htick : tick ∈ t.ticks s) :
    t.elapsed ≤ tick.moment ∧ tick.moment ≤ (t.step s).elapsed ∧ tick.recorded = t.recorded := by
  cases hnext : t.nextTick? with
  | none =>
      rw [ticks_of_idle hnext] at htick
      contradiction
  | some next =>
      obtain ⟨hpositive, hlate⟩ := hkeeping next hnext
      have hkept : (t.step s).running.isSome = true :=
        running_step_of_ticks (List.ne_nil_of_mem htick)
      obtain ⟨-, -, hbefore⟩ := elapsed_step hnext hpositive hlate s hkept
      rw [ticks_eq_ticksFrom hnext] at htick
      obtain ⟨k, hk, rfl⟩ := List.mem_map.mp htick
      exact ⟨by dsimp only; omega, hbefore k (List.mem_range.mp hk), rfl⟩

end

/-- Scans are requested exactly at the ticks of the trigger at which the radio is enabled by what is
on record.  The ticks of a run come at `s + k * interval` for `k ≥ 1`, where `s` is the time at which
its trigger task begins: each of them once, as long as no stop has come, and no other.  What is done
to the source, what it answers, and which requests it refuses makes no difference to that, nor does
it into which pieces time is cut.  There are no ticks while the tracker is stopped or where active
scanning is off, and each start that spawns tasks begins a cadence of its own. -/
theorem requests_keep_cadence (config : TrackerConfig) (radio : Radio) (clock : Int64)
    (steps : List Step) :
    let t := (new config radio clock).after steps
    let interval := config.scanInterval.nanos
    (∀ s, (t.step s).radio = (s.retune t.radio).request (requestsOf (t.ticks s)).length) ∧
    (∀ s, ∀ tick ∈ t.ticks s, t.elapsed ≤ tick.moment ∧ tick.moment ≤ (t.step s).elapsed ∧
      tick.recorded = t.recorded) ∧
    (∀ s, t.ticks s ≠ [] → t.isRunning = true ∧ config.activeScanning = true ∧
      ∃ before during, steps = before ++ .trigger :: during ∧
        Life ((new config radio clock).after before) during) ∧
    (∀ before during, steps = before ++ .trigger :: during →
      Life ((new config radio clock).after before) during →
      let u := (new config radio clock).after before
      ∃ count, (u.tickLog (.trigger :: during)).map (·.moment) = moments u.elapsed interval count ∧
        u.elapsed + count * interval ≤ t.elapsed ∧
        t.elapsed ≤ u.elapsed + (count + 1) * interval ∧
        (t.elapsed = u.elapsed + (count + 1) * interval →
          t.ticks .tick = [⟨t.elapsed, t.recorded⟩])) ∧
    (∀ run, t.running = some run →
      0 < interval ∧ run.trigger.isLive = config.activeScanning) ∧
    (∀ nanos more, 0 < more →
      (t.passTime nanos).tick.passTime more = t.passTime (nanos + more)) := by
  intro t interval
  have hprimed : Primed t := primed_after config radio clock steps
  have hconfig : t.config = config := config_after _ steps
  have hpositive : ∀ next, t.nextTick? = some next → 0 < t.config.scanInterval.nanos :=
    fun next hnext => hprimed.interval_pos (running_of_nextTick? hnext)
  have hlife : ∀ next, t.nextTick? = some next → ∃ before during,
      steps = before ++ .trigger :: during ∧ Life ((new config radio clock).after before) during :=
    fun next hnext => exists_life (t := new config radio clock) rfl steps hnext
  refine ⟨radio_step t, fun s tick htick => ?_, fun s hticks => ?_,
    fun before during hsteps hlives => ?_, fun run hrunning => ?_, fun nanos more hmore => ?_⟩
  · refine moment_of_mem_ticks (fun next hnext => ⟨hpositive next hnext, ?_⟩) htick
    obtain ⟨before, during, rfl, hlives⟩ := hlife next hnext
    obtain ⟨count, hkeeping, -⟩ := keeping_after config radio clock hlives
    have hdue := hkeeping.due
    rwa [Option.some.inj (hkeeping.next.symm.trans hnext)] at hdue
  · cases hnext : t.nextTick? with
    | none => exact absurd (ticks_of_idle hnext s) hticks
    | some next =>
        obtain ⟨run, hrun, hlive, htrigger⟩ := nextTick?_eq_some_iff.mp hnext
        have hphase := (orderly_after config radio clock steps).phase
        refine ⟨(hphase.of_not_cancelled hrun hlive).2.2, ?_, hlife next hnext⟩
        rw [← hconfig, ← hprimed.armed _ (trigger?_eq_some_iff.mpr ⟨run, hrun, hlive, htrigger⟩)]
        rfl
  · obtain ⟨count, hkeeping, hlog⟩ := keeping_after config radio clock hlives
    rw [← hsteps] at hkeeping
    obtain ⟨hnext, hreached, hdue⟩ := hkeeping
    rw [hconfig] at hnext hreached hdue
    refine ⟨count, hlog, hreached, hdue, fun hnow => ?_⟩
    rw [ticks_tick hnext, if_pos hnow.ge, ← hnow]
    simp [ticksFrom, t]
  · have hrunning' : t.running.isSome = true := by
      rw [hrunning]
      rfl
    obtain ⟨hrun, hlive⟩ := running_eq_some_iff.mp hrunning
    have hvalid := hprimed.interval_pos hrunning'
    rw [hconfig] at hvalid
    exact ⟨hvalid, hconfig ▸ hprimed.armed _ (trigger?_eq_some_iff.mpr ⟨run, hrun, hlive, rfl⟩)⟩
  · exact passTime_add hpositive nanos hmore

/-- The trigger task begins three seconds after the start.  The radio is off at the second tick and
refuses the request of the third; a stop at that moment keeps the third tick from coming. -/
theorem requests_keep_cadence_skipped :
    let config : TrackerConfig := ⟨.ofSeconds 15, .ofSeconds 10, true⟩
    let second := 1000000000
    let before : List Step := [.beginStart, .advance 0, .advance 0, .work, .passTime (3 * second)]
    let during : List Step := [.passTime (10 * second), .tick, .setRadio (·.setState .disabled),
      .send .radioState, .work, .passTime (11 * second),
      .setRadio fun r => { r with state := .enabled, refusing := true }, .send .radioState, .work,
      .passTime (9 * second)]
    let first := (new config (.new .enabled) 0).after before
    let t := (new config (.new .enabled) 0).after (before ++ .trigger :: during)
    Life first during ∧
    (first.tickLog (.trigger :: during)).map (·.moment) = [13 * second, 23 * second] ∧
    requestsOf (first.tickLog (.trigger :: during)) = [13 * second] ∧
    t.ticks .tick = [⟨33 * second, .enabled⟩] ∧
    (t.step .tick).radio.requested = 1 ∧ (t.step .tick).radio.refused = 1 ∧
    (t.after [.beginStop, .advance 1, .tick, .passTime (40 * second)]).radio.refused = 0 := by
  intro config second before during first t
  have hlife : Life first during := by
    refine ⟨by decide +kernel, fun steps hinitial => ?_⟩
    have hall : ∀ steps ∈ (.trigger :: during).inits, (first.after steps).running.isSome = true := by
      decide +kernel
    exact hall steps ((List.mem_inits ..).mpr hinitial)
  have hlength : (first.tickLog (.trigger :: during)).length = 2 := by decide +kernel
  obtain ⟨hradio, -, -, hlives, -, -⟩ :=
    requests_keep_cadence config (.new .enabled) 0 (before ++ .trigger :: during)
  obtain ⟨count, hlog, -, -, hnext⟩ := hlives before during rfl hlife
  obtain rfl : count = 2 := by
    rw [← hlength, ← List.length_map (·.moment), hlog, moments, List.length_map, List.length_range]
  have hticks : t.ticks .tick = [⟨33 * second, .enabled⟩] :=
    (hnext (by decide +kernel)).trans (by decide +kernel)
  have hrefused := hradio .tick
  rw [hticks] at hrefused
  refine ⟨hlife, hlog.trans (by decide +kernel), by decide +kernel, hticks, ?_, ?_, by decide +kernel⟩
  · rw [hrefused]
    decide +kernel
  · rw [hrefused]
    decide +kernel

end Tracker

end ScanRoster
