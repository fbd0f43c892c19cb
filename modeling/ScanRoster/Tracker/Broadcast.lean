import ScanRoster.Tracker.Signal

/-!
# The broadcast of notices

Notices are kept for receivers until 256 newer ones have come. A receiver that is further behind
is told how many it has lost, and goes on with the oldest that is kept.
-/

namespace ScanRoster

/-- The number of notices sent so far, and the latest of them in their order. -/
structure Broadcast where
  sent : Nat
  kept : List Notice
  deriving DecidableEq

/-- The place of a receiver: the number of the notice that comes next. -/
structure Receiver where
  next : Nat
  deriving DecidableEq

/-- What a receiver is given. -/
inductive Received
  | notice (n : Notice)
  | lagged (count : Nat)
  deriving DecidableEq

namespace Broadcast

/-- How many notices are kept. -/
def capacity : Nat := 256

/-- Nothing was sent yet. -/
def empty : Broadcast :=
  ⟨0, []⟩

/-- One more notice. -/
def send (b : Broadcast) (n : Notice) : Broadcast :=
  let kept := b.kept ++ [n]
  ⟨b.sent + 1, kept.drop (kept.length - capacity)⟩

/-- The number of the oldest notice that is kept. -/
def oldest (b : Broadcast) : Nat :=
  b.sent - b.kept.length

/-- A receiver of everything that comes from now on. -/
def subscribe (b : Broadcast) : Receiver :=
  ⟨b.sent⟩

/-- What a receiver is given next, if there is something for it. -/
def receive (b : Broadcast) (r : Receiver) : Option Received × Receiver :=
  if r.next < b.oldest then (some (.lagged (b.oldest - r.next)), ⟨b.oldest⟩)
  else
    match b.kept[r.next - b.oldest]? with
    | some n => (some (.notice n), ⟨r.next + 1⟩)
    | none => (none, r)

/-- Everything that is there for a receiver. -/
def drain (b : Broadcast) (r : Receiver) : List Received × Receiver :=
  let lost := if r.next < b.oldest then [.lagged (b.oldest - r.next)] else []
  (lost ++ (b.kept.drop (r.next - b.oldest)).map .notice, ⟨b.sent⟩)

end Broadcast

end ScanRoster
