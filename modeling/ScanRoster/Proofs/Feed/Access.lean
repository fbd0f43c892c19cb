import Mathlib.Data.List.Induction
import ScanRoster.Proofs.Tracker.Move

/-!
# Accesses to a feed

A feed has a list and a count, and they change one after the other: a publish shows its list and then
counts itself, and a reader takes note of the count, once when its wait is over and once more, and
then loads the list.  In between, the accesses of others may come.  Here these accesses are steps of
their own, in any order, and a log tells what came of them.  The operations of `Feed`, `Subscription`
and `EntryStream` are accesses with nothing in between.
-/

namespace ScanRoster

/-- A reader between two accesses.  One that is joining has taken note of the count and is still to
load its first list; one that is refreshing or yielding is still to load what its poll has
announced. -/
inductive Reader
  | joining (seen : Nat)
  | subscription (s : Subscription)
  | refreshing (s : Subscription)
  | stream (s : EntryStream)
  | yielding (s : EntryStream)
  deriving DecidableEq

/-- A feed with its readers.  While `publishing`, the list that is shown is not counted yet. -/
structure Readership where
  feed : Feed
  publishing : Bool
  readers : List Reader
  deriving DecidableEq

/-- An access to a feed: one of the two of a publish, or one of a reader. -/
inductive Access
  | display (entries : Snapshot)
  | count
  | join
  | poll (i : Nat)
  | note (i : Nat)
  | load (i : Nat)
  | turn (i : Nat)

/-- What comes of an access. -/
inductive FeedEvent
  /-- A list is shown. -/
  | shown (entries : Snapshot)
  /-- The publish of the list that is shown is counted. -/
  | counted
  /-- A reader takes note of the count: a new one, one whose poll is ready, or either once more. -/
  | noted (i : Nat)
  /-- The poll of a reader is not ready. -/
  | pending (i : Nat)
  /-- A reader is given a list. -/
  | given (i : Nat) (entries : Snapshot)
  /-- A subscription becomes a stream. -/
  | turned (i : Nat)
  deriving DecidableEq

namespace Reader

/-- The count that a reader has taken note of, if it goes by one. -/
def seen : Reader → Option Nat
  | .joining seen => some seen
  | .subscription s | .refreshing s => some s.seen
  | .stream s | .yielding s => s.seen

/-- Whether a reader has loaded all that was announced to it. -/
def isResting : Reader → Bool
  | .subscription _ | .stream _ => true
  | _ => false

/-- Whether a reader is given lists one by one. -/
def isStream : Reader → Bool
  | .stream _ | .yielding _ => true
  | _ => false

/-- A reader that has taken note of the count, and is to load the list. -/
def note (feed : Feed) : Reader → Reader
  | .joining _ => .joining feed.version
  | .subscription s | .refreshing s => .refreshing ⟨s.current, feed.version⟩
  | .stream _ | .yielding _ => .yielding ⟨some feed.version⟩

/-- A reader that has loaded the list. -/
def load (feed : Feed) : Reader → Reader
  | .joining seen => .subscription ⟨feed.snapshot, seen⟩
  | .refreshing s => .subscription ⟨feed.snapshot, s.seen⟩
  | .yielding s => .stream s
  | r => r

/-- The stream made from a subscription. -/
def turn : Reader → Reader
  | .subscription s => .stream s.intoStream
  | r => r

end Reader

namespace Readership

/-- A feed without readers. -/
def new (feed : Feed) : Readership :=
  ⟨feed, false, []⟩

/-- The readership with one reader changed. -/
def set (w : Readership) (i : Nat) (r : Reader) : Readership :=
  { w with readers := w.readers.set i r }

/-- What comes of an access, and what it leaves behind; nothing where its time has not come. -/
def access (w : Readership) : Access → Option (FeedEvent × Readership)
  | .display entries =>
    if w.publishing then none
    else some (.shown entries, { w with feed := ⟨entries, w.feed.version⟩, publishing := true })
  | .count =>
    if w.publishing then
      some (.counted, { w with feed := ⟨w.feed.snapshot, w.feed.version + 1⟩, publishing := false })
    else none
  | .join =>
    some (.noted w.readers.length, { w with readers := w.readers ++ [.joining w.feed.version] })
  | .poll i =>
    w.readers[i]?.bind fun r =>
      if r.isResting then
        if r.seen = some w.feed.version then some (.pending i, w)
        else some (.noted i, w.set i (r.note w.feed))
      else none
  | .note i =>
    w.readers[i]?.bind fun r =>
      if r.isResting then none else some (.noted i, w.set i (r.note w.feed))
  | .load i =>
    w.readers[i]?.bind fun r =>
      if r.isResting then none else some (.given i w.feed.snapshot, w.set i (r.load w.feed))
  | .turn i =>
    w.readers[i]?.bind fun r =>
      if r.isResting && !r.isStream then some (.turned i, w.set i r.turn) else none

/-- The event of an access, if its time has come. -/
def event? (w : Readership) (a : Access) : Option FeedEvent :=
  (w.access a).map Prod.fst

/-- The readership after an access. -/
def step (w : Readership) (a : Access) : Readership :=
  ((w.access a).map Prod.snd).getD w

/-- The readership after some accesses. -/
def after (w : Readership) (accesses : List Access) : Readership :=
  accesses.foldl step w

/-- What comes of some accesses, in order. -/
def log (w : Readership) : List Access → List FeedEvent
  | [] => []
  | a :: rest => (w.event? a).toList ++ log (w.step a) rest

theorem after_concat (w : Readership) (accesses : List Access) (a : Access) :
    w.after (accesses ++ [a]) = (w.after accesses).step a := by
  simp [after, List.foldl_append]

theorem log_concat (w : Readership) (accesses : List Access) (a : Access) :
    w.log (accesses ++ [a]) = w.log accesses ++ ((w.after accesses).event? a).toList := by
  induction accesses generalizing w with
  | nil => simp [log, after]
  | cons first rest ih =>
      simp only [List.cons_append, log, ih, List.append_assoc]
      rfl

/-! ## What a log tells -/

/-- The lists that were shown, in order. -/
def shownIn (log : List FeedEvent) : List Snapshot :=
  log.filterMap fun
    | .shown entries => some entries
    | _ => none

/-- The list that was shown last, on a feed that had one before. -/
def latest (feed : Feed) (log : List FeedEvent) : Snapshot :=
  (shownIn log).getLast?.getD feed.snapshot

/-- The list that was shown before the last one. -/
def previous (feed : Feed) (log : List FeedEvent) : Snapshot :=
  (shownIn log).dropLast.getLast?.getD feed.snapshot

/-- The list that a reader was given last. -/
def lastGiven (i : Nat) (log : List FeedEvent) : Option Snapshot :=
  log.reverse.findSome? fun
    | .given j entries => if j = i then some entries else none
    | _ => none

/-- What has come since a reader last took note of the count, which it does when it is new and
when a poll of it is ready; the latest first. -/
def sinceNoted (i : Nat) (log : List FeedEvent) : List FeedEvent :=
  log.reverse.takeWhile (· ≠ .noted i)

/-- Whether a publish was counted since a reader last took note. -/
def News (i : Nat) (log : List FeedEvent) : Prop :=
  .counted ∈ sinceNoted i log

/-- Whether a reader has become a stream and was not ready since. -/
def Fresh (i : Nat) (log : List FeedEvent) : Prop :=
  .turned i ∈ sinceNoted i log

instance (i : Nat) (log : List FeedEvent) : Decidable (News i log) :=
  inferInstanceAs (Decidable (_ ∈ _))

instance (i : Nat) (log : List FeedEvent) : Decidable (Fresh i log) :=
  inferInstanceAs (Decidable (_ ∈ _))

section

variable (i : Nat) (log : List FeedEvent) (x : FeedEvent)

theorem lastGiven_concat :
    lastGiven i (log ++ [x]) =
      match x with
      | .given j entries => if j = i then some entries else lastGiven i log
      | _ => lastGiven i log := by
  unfold lastGiven
  rw [List.reverse_concat, List.findSome?_cons]
  cases x with
  | given j entries => by_cases h : j = i <;> simp [h]
  | _ => rfl

theorem sinceNoted_concat :
    sinceNoted i (log ++ [x]) = if x = .noted i then [] else x :: sinceNoted i log := by
  unfold sinceNoted
  rw [List.reverse_concat, List.takeWhile_cons]
  by_cases h : x = .noted i <;> simp [h]

theorem news_concat : News i (log ++ [x]) ↔ x ≠ .noted i ∧ (x = .counted ∨ News i log) := by
  unfold News
  rw [sinceNoted_concat]
  by_cases h : x = .noted i <;> simp [h, eq_comm]

theorem fresh_concat : Fresh i (log ++ [x]) ↔ x ≠ .noted i ∧ (x = .turned i ∨ Fresh i log) := by
  unfold Fresh
  rw [sinceNoted_concat]
  by_cases h : x = .noted i <;> simp [h, eq_comm]

theorem latest_shown (feed : Feed) (entries : Snapshot) :
    latest feed (log ++ [.shown entries]) = entries := by
  simp [latest, shownIn, List.filterMap_append]

theorem previous_shown (feed : Feed) (entries : Snapshot) :
    previous feed (log ++ [.shown entries]) = latest feed log := by
  simp [previous, latest, shownIn, List.filterMap_append]

/-- Only a list that is shown changes which lists were shown. -/
theorem shownIn_concat_of_ne (h : ∀ entries, x ≠ .shown entries) :
    shownIn (log ++ [x]) = shownIn log := by
  cases x with
  | shown entries => exact absurd rfl (h entries)
  | _ => simp [shownIn, List.filterMap_append]

end

/-! ## The operations are accesses with nothing in between -/

variable {w : Readership} {i : Nat}

theorem after_publish (hidle : w.publishing = false) (entries : Snapshot) :
    w.after [.display entries, .count] = { w with feed := w.feed.publish entries } := by
  simp [after, step, access, hidle, Feed.publish]

theorem after_subscribe :
    w.after [.join, .note w.readers.length, .load w.readers.length] =
      { w with readers := w.readers ++ [.subscription w.feed.subscribe] } := by
  simp [after, step, access, Reader.isResting, Reader.note, Reader.load, set, Feed.subscribe]

theorem set_self {r : Reader} (h : w.readers[i]? = some r) : w.set i r = w := by
  obtain ⟨hi, rfl⟩ := List.getElem?_eq_some_iff.mp h
  simp [set]

theorem feed_set (w : Readership) (i : Nat) (r : Reader) : (w.set i r).feed = w.feed := rfl

theorem set_set (w : Readership) (i : Nat) (r r' : Reader) :
    (w.set i r).set i r' = w.set i r' := by
  simp [set]

theorem getElem?_set {r : Reader} (h : w.readers[i]? = some r) (r' : Reader) :
    (w.set i r').readers[i]? = some r' := by
  obtain ⟨hi, -⟩ := List.getElem?_eq_some_iff.mp h
  simp [set, hi]

theorem access_poll {r : Reader} (h : w.readers[i]? = some r) (hrest : r.isResting = true) :
    w.access (.poll i) =
      if r.seen = some w.feed.version then some (.pending i, w)
      else some (.noted i, w.set i (r.note w.feed)) := by
  simp [access, h, hrest]

theorem access_load {r : Reader} (h : w.readers[i]? = some r) :
    w.access (.load i) =
      if r.isResting then none else some (.given i w.feed.snapshot, w.set i (r.load w.feed)) := by
  simp [access, h]

theorem access_note {r : Reader} (h : w.readers[i]? = some r) :
    w.access (.note i) =
      if r.isResting then none else some (.noted i, w.set i (r.note w.feed)) := by
  simp [access, h]

theorem isResting_note (r : Reader) (feed : Feed) : (r.note feed).isResting = false := by
  cases r <;> rfl

theorem seen_note (r : Reader) (feed : Feed) : (r.note feed).seen = some feed.version := by
  cases r <;> rfl

theorem note_note (r : Reader) (feed : Feed) : (r.note feed).note feed = r.note feed := by
  cases r <;> rfl

/-- A poll and, if it is ready, what follows. -/
theorem after_poll_load {r : Reader} (h : w.readers[i]? = some r) (hrest : r.isResting = true) :
    w.after [.poll i, .note i, .load i] =
        (if r.seen = some w.feed.version then w else w.set i ((r.note w.feed).load w.feed)) ∧
      w.log [.poll i, .note i, .load i] =
        if r.seen = some w.feed.version then [.pending i]
        else [.noted i, .noted i, .given i w.feed.snapshot] := by
  by_cases hseen : r.seen = some w.feed.version
  · have hpoll : w.access (.poll i) = some (.pending i, w) := by
      rw [access_poll h hrest, if_pos hseen]
    have hnote : w.access (.note i) = none := by
      rw [access_note h, if_pos hrest]
    have hload : w.access (.load i) = none := by
      rw [access_load h, if_pos hrest]
    simp [after, log, step, event?, hpoll, hnote, hload, hseen]
  · have hpoll : w.access (.poll i) = some (.noted i, w.set i (r.note w.feed)) := by
      rw [access_poll h hrest, if_neg hseen]
    have hnote := access_note (getElem?_set h (r.note w.feed))
    rw [isResting_note, if_neg Bool.false_ne_true, set_set, feed_set, note_note] at hnote
    have hload := access_load (getElem?_set h (r.note w.feed))
    rw [isResting_note, if_neg Bool.false_ne_true, set_set] at hload
    simp [after, log, step, event?, hpoll, hnote, hload, hseen, feed_set]

theorem after_changed {s : Subscription} (h : w.readers[i]? = some (.subscription s)) :
    w.after [.poll i, .note i, .load i] = w.set i (.subscription (s.changed w.feed).2) ∧
      w.log [.poll i, .note i, .load i] =
        match (s.changed w.feed).1 with
        | none => [.pending i]
        | some entries => [.noted i, .noted i, .given i entries] := by
  obtain ⟨hafter, hlog⟩ := after_poll_load h rfl
  rw [hafter, hlog]
  by_cases hseen : s.seen = w.feed.version
  · simp [Reader.seen, Subscription.changed, hseen, set_self h]
  · simp [Reader.seen, Reader.note, Reader.load, Subscription.changed, hseen]

theorem after_next {s : EntryStream} (h : w.readers[i]? = some (.stream s)) :
    w.after [.poll i, .note i, .load i] = w.set i (.stream (s.next w.feed).2) ∧
      w.log [.poll i, .note i, .load i] =
        match (s.next w.feed).1 with
        | none => [.pending i]
        | some entries => [.noted i, .noted i, .given i entries] := by
  obtain ⟨hafter, hlog⟩ := after_poll_load h rfl
  rw [hafter, hlog]
  by_cases hseen : s.seen = some w.feed.version
  · simp [Reader.seen, EntryStream.next, hseen, set_self h]
  · simp [Reader.seen, Reader.note, Reader.load, EntryStream.next, hseen]

theorem after_intoStream {s : Subscription} (h : w.readers[i]? = some (.subscription s)) :
    w.after [.turn i] = w.set i (.stream s.intoStream) := by
  simp [after, step, access, h, Reader.isResting, Reader.isStream, Reader.turn]

end Readership

end ScanRoster
