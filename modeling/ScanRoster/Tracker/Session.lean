import ScanRoster.Tracker.Step

/-!
# One call after the other

Trackers used by one caller who waits for each call, while the tasks in the background run until
nothing is left for them to do.
-/

namespace ScanRoster.Tracker

/-- One round: every call goes on if it can, and every task does a piece of its work. -/
def pulse (t : Tracker) : Tracker :=
  let t := t.calls.foldl (fun t c => t.advance c.id) t
  t.work.wakeTrigger.notify

/-- A bound on the rounds in which something can still happen. -/
def outstanding (t : Tracker) : Nat :=
  let waiting :=
    match t.run with
    | none => 0
    | some run => 3 * (run.queue.length + run.line.length) + 2 * run.notices.length
  waiting + 8 * t.calls.length + 8

/-- So many rounds. -/
def pulses : Nat → Tracker → Tracker
  | 0, t => t
  | n + 1, t => pulses n t.pulse

/-- The tracker once nothing is left to do in the background. -/
def settle (t : Tracker) : Tracker :=
  pulses t.outstanding t

/-- The result of the call with the given number, once everything has settled. The call is then
forgotten. -/
def await (t : Tracker) (id : Nat) : CallResult × Tracker :=
  let t := t.settle
  let result :=
    match t.calls.find? (·.id == id) with
    | some ⟨_, _, .finished r⟩ => r
    | _ => .failed .stopped
  (result, { t with calls := t.calls.filter (·.id != id) })

/-- Starts a tracker. -/
def start (t : Tracker) : CallResult × Tracker :=
  (t.step .beginStart).await t.nextCall

/-- Stops a tracker. -/
def stop (t : Tracker) : CallResult × Tracker :=
  (t.step .beginStop).await t.nextCall

/-- Hands in a signal and waits for its outcome. -/
def signal (t : Tracker) (s : Signal) : CallResult × Tracker :=
  (t.step (.beginSignal s)).await t.nextCall

/-- Lets time pass in which nothing happens but the ticks of the trigger. Time passes in whole
milliseconds. -/
def sleep (t : Tracker) (d : Duration) : Tracker :=
  ((t.settle.step (.passTime (d.millisRoundedUp * 1000000))).step .tick).settle

end ScanRoster.Tracker
