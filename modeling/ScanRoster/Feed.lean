import ScanRoster.Entry

/-!
# Feeds and subscriptions

A feed holds the entry list last handed to readers and counts the publishes. A `Subscription`
and the `EntryStream` made from one remember which publish they have seen, so several publishes
between two looks count as one, and none is missed.
-/

namespace ScanRoster

/-- What readers see: the latest published list, and how many lists have been published. -/
structure Feed where
  snapshot : Snapshot
  version : Nat
  deriving DecidableEq, Inhabited

namespace Feed

/-- A feed to which nothing has been published. -/
def empty : Feed :=
  ⟨[], 0⟩

/-- The feed after one more publish. -/
def publish (feed : Feed) (entries : Snapshot) : Feed :=
  ⟨entries, feed.version + 1⟩

end Feed

/-- A reader of a feed: the list it was last given and the publish that it has seen. -/
structure Subscription where
  current : Snapshot
  seen : Nat
  deriving DecidableEq, Inhabited

/-- A reader that is given lists one by one; `none` is one that was not given any yet. -/
structure EntryStream where
  seen : Option Nat
  deriving DecidableEq, Inhabited

namespace Feed

/-- A new reader, which has seen everything published so far. -/
def subscribe (feed : Feed) : Subscription :=
  ⟨feed.snapshot, feed.version⟩

end Feed

namespace Subscription

/-- The latest list, if something was published that this reader has not seen. -/
def changed (s : Subscription) (feed : Feed) : Option Snapshot × Subscription :=
  if s.seen = feed.version then (none, s)
  else (some feed.snapshot, ⟨feed.snapshot, feed.version⟩)

/-- A stream that yields at once, whatever this reader has seen. -/
def intoStream (_s : Subscription) : EntryStream :=
  ⟨none⟩

end Subscription

namespace EntryStream

/-- The latest list on the first poll, and later if something was published since. -/
def next (s : EntryStream) (feed : Feed) : Option Snapshot × EntryStream :=
  if s.seen = some feed.version then (none, s)
  else (some feed.snapshot, ⟨some feed.version⟩)

end EntryStream

end ScanRoster
