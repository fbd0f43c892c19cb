import Mathlib.Data.List.Induction
import ScanRoster.Proofs.Feed.Access

/-!
# Readers of a feed

However the accesses of publishes and readers are mixed, a poll is ready exactly where a publish was
counted since the reader last took note of the count, or where a stream is polled for the first
time.  A reader whose poll is not ready has the list that is shown; only while a publish is half
done, it may still have the list before.
-/

namespace ScanRoster

namespace Readership

/-! ## What readers know -/

/-- What holds of a reader after a log: it goes by a count that was there, which is the one that is
there now where nothing has come for it since; and if so, it has the list that is shown, or the one
before while a publish is under way. -/
structure Informed (start now : Feed) (publishing : Bool) (log : List FeedEvent) (i : Nat)
    (r : Reader) : Prop where
  seen_le : ∀ count ∈ r.seen, count ≤ now.version
  seen_eq_iff : r.seen = some now.version ↔ ¬ News i log ∧ ¬ Fresh i log
  not_fresh : r.isStream = false → ¬ Fresh i log
  current : ∀ s, r = .subscription s → lastGiven i log = some s.current
  upToDate : r.isResting = true → r.seen = some now.version →
    lastGiven i log = some now.snapshot ∨
      (publishing = true ∧ lastGiven i log = some (previous start log))

/-- What holds of a readership after a log. -/
structure Kept (start : Feed) (w : Readership) (log : List FeedEvent) : Prop where
  snapshot_eq : w.feed.snapshot = latest start log
  informed : ∀ i r, w.readers[i]? = some r → Informed start w.feed w.publishing log i r

end Readership

/-- The reader that an event is about. -/
def FeedEvent.reader? : FeedEvent → Option Nat
  | .shown _ | .counted => none
  | .noted i | .pending i | .given i _ | .turned i => some i

namespace Readership

namespace Informed

variable {start now : Feed} {publishing : Bool} {log : List FeedEvent} {i : Nat} {r : Reader}

/-- An event that is about another reader, or a poll that is not ready. -/
theorem other (h : Informed start now publishing log i r) {x : FeedEvent} {j : Nat}
    (hx : x.reader? = some j) (hj : j ≠ i ∨ x = .pending i) :
    Informed start now publishing (log ++ [x]) i r := by
  have hnews : News i (log ++ [x]) ↔ News i log := by
    rw [news_concat]
    cases x <;> simp_all [FeedEvent.reader?]
  have hfresh : Fresh i (log ++ [x]) ↔ Fresh i log := by
    rw [fresh_concat]
    cases x <;> simp_all [FeedEvent.reader?]
  have hgiven : lastGiven i (log ++ [x]) = lastGiven i log := by
    rw [lastGiven_concat]
    cases x <;> simp_all [FeedEvent.reader?]
  have hprevious : previous start (log ++ [x]) = previous start log := by
    have hshown : ∀ entries, x ≠ .shown entries := by
      rintro entries rfl
      contradiction
    rw [previous, previous, shownIn_concat_of_ne log x hshown]
  refine ⟨h.seen_le, ?_, ?_, ?_, ?_⟩
  · rw [hnews, hfresh]
    exact h.seen_eq_iff
  · rw [hfresh]
    exact h.not_fresh
  · rw [hgiven]
    exact h.current
  · rw [hgiven, hprevious]
    exact h.upToDate

/-- A list is shown that is not counted yet. -/
theorem shown (h : Informed start now false log i r) (hsnapshot : now.snapshot = latest start log)
    (entries : Snapshot) :
    Informed start ⟨entries, now.version⟩ true (log ++ [.shown entries]) i r := by
  refine ⟨h.seen_le, ?_, ?_, ?_, ?_⟩
  · rw [news_concat, fresh_concat]
    simpa using h.seen_eq_iff
  · rw [fresh_concat]
    simpa using h.not_fresh
  · rw [lastGiven_concat]
    exact h.current
  · intro hrest hseen
    -- a reader that had the list shown before has now the one before the last
    right
    rw [lastGiven_concat, previous_shown, ← hsnapshot]
    exact ⟨rfl, (h.upToDate hrest hseen).resolve_right fun hbusy => Bool.noConfusion hbusy.1⟩

/-- The publish that is under way is counted, and there is news for everybody. -/
theorem counted (h : Informed start now publishing log i r) :
    Informed start ⟨now.snapshot, now.version + 1⟩ false (log ++ [.counted]) i r := by
  have hbehind : r.seen ≠ some (now.version + 1) := by
    intro hseen
    have hle := h.seen_le _ hseen
    omega
  refine ⟨fun count hcount => Nat.le_succ_of_le (h.seen_le count hcount), ?_, ?_, ?_, ?_⟩
  · rw [news_concat, fresh_concat]
    simp [hbehind]
  · rw [fresh_concat]
    simpa using h.not_fresh
  · rw [lastGiven_concat]
    exact h.current
  · intro _ hseen
    exact absurd hseen hbehind

/-- A reader takes note of the count, and nothing has come for it since. -/
theorem noted (hseen : r.seen = some now.version) (hloading : r.isResting = false) :
    Informed start now publishing (log ++ [.noted i]) i r := by
  have hnews : ¬ News i (log ++ [.noted i]) := by simp [news_concat]
  have hfresh : ¬ Fresh i (log ++ [.noted i]) := by simp [fresh_concat]
  refine ⟨?_, ?_, fun _ => hfresh, ?_, ?_⟩
  · rw [hseen]
    intro count hcount
    exact Nat.le_of_eq (Option.some.inj hcount).symm
  · rw [hseen]
    exact ⟨fun _ => ⟨hnews, hfresh⟩, fun _ => rfl⟩
  · rintro s rfl
    contradiction
  · intro hrest
    rw [hloading] at hrest
    contradiction

/-- A reader loads the list that is shown. -/
theorem load (h : Informed start now publishing log i r) (hloading : r.isResting = false) :
    Informed start now publishing (log ++ [.given i now.snapshot]) i (r.load now) := by
  have hseen : (r.load now).seen = r.seen := by cases r <;> rfl
  have hstream : (r.load now).isStream = r.isStream := by cases r <;> rfl
  have hgiven : lastGiven i (log ++ [.given i now.snapshot]) = some now.snapshot := by
    rw [lastGiven_concat]
    exact if_pos rfl
  refine ⟨?_, ?_, ?_, ?_, fun _ _ => Or.inl hgiven⟩
  · rw [hseen]
    exact h.seen_le
  · rw [hseen, news_concat, fresh_concat]
    simpa using h.seen_eq_iff
  · rw [hstream, fresh_concat]
    simpa using h.not_fresh
  · intro s hs
    rw [hgiven]
    cases r with
    | joining seen => rw [← Reader.subscription.inj hs]
    | refreshing s' => rw [← Reader.subscription.inj hs]
    | subscription s' => contradiction
    | stream s' => contradiction
    | yielding s' => contradiction

/-- A subscription becomes a stream, which goes by no count until its first poll. -/
theorem turn (hkind : r.isResting = true ∧ r.isStream = false) :
    Informed start now publishing (log ++ [.turned i]) i r.turn := by
  have hfresh : Fresh i (log ++ [.turned i]) := by simp [fresh_concat]
  cases r with
  | subscription s =>
      refine ⟨?_, ?_, ?_, ?_, ?_⟩ <;>
        simp [Reader.turn, Reader.seen, Reader.isStream, Subscription.intoStream, hfresh]
  | stream s => exact absurd hkind.2 Bool.noConfusion
  | joining seen => exact absurd hkind.1 Bool.noConfusion
  | refreshing s => exact absurd hkind.1 Bool.noConfusion
  | yielding s => exact absurd hkind.1 Bool.noConfusion

end Informed

section

variable {start : Feed} {w : Readership} {log : List FeedEvent}

/-- One reader has moved on, and the others are where they were. -/
theorem Kept.set (h : Kept start w log) {x : FeedEvent} {i : Nat} (hx : x.reader? = some i)
    {r : Reader} (hr : Informed start w.feed w.publishing (log ++ [x]) i r) :
    Kept start (w.set i r) (log ++ [x]) := by
  have hshown : ∀ entries, x ≠ .shown entries := by
    rintro entries rfl
    contradiction
  refine ⟨?_, fun j r' hj => ?_⟩
  · rw [latest, shownIn_concat_of_ne log x hshown]
    exact h.snapshot_eq
  · by_cases hij : i = j
    · subst hij
      obtain ⟨hi, -⟩ := List.getElem?_eq_some_iff.mp hj
      rw [Readership.set, List.length_set] at hi
      rw [Readership.set, List.getElem?_set_self hi] at hj
      rw [← Option.some.inj hj]
      exact hr
    · rw [Readership.set, List.getElem?_set_ne hij] at hj
      exact (h.informed j r' hj).other hx (Or.inl hij)

/-- A new reader has taken note of the count. -/
theorem Kept.join (h : Kept start w log) :
    Kept start { w with readers := w.readers ++ [.joining w.feed.version] }
      (log ++ [.noted w.readers.length]) := by
  refine ⟨?_, fun i r hi => ?_⟩
  · rw [latest, shownIn_concat_of_ne log (.noted _) (by simp)]
    exact h.snapshot_eq
  · rw [List.getElem?_append] at hi
    split at hi
    · rename_i hold
      exact (h.informed i r hi).other rfl (Or.inl (Nat.ne_of_gt hold))
    · -- the reader that joins is the only one behind those that were there
      rename_i hnew
      obtain ⟨hlt, -⟩ := List.getElem?_eq_some_iff.mp hi
      have hlast : i = w.readers.length := by
        rw [List.length_singleton] at hlt
        omega
      subst hlast
      obtain rfl : .joining w.feed.version = r := by simpa using hi
      exact .noted rfl rfl

theorem kept_access (h : Kept start w log) {a : Access} {x : FeedEvent} {w' : Readership}
    (haccess : w.access a = some (x, w')) : Kept start w' (log ++ [x]) := by
  cases a with
  | display entries =>
      cases hidle : w.publishing with
      | true => simp [access, hidle] at haccess
      | false =>
          simp only [access, hidle, Bool.false_eq_true, if_false] at haccess
          obtain ⟨rfl, rfl⟩ := Prod.mk.inj (Option.some.inj haccess)
          refine ⟨(latest_shown log start entries).symm, fun i r hi => ?_⟩
          exact (hidle ▸ h.informed i r hi).shown h.snapshot_eq entries
  | count =>
      cases hbusy : w.publishing with
      | false => simp [access, hbusy] at haccess
      | true =>
          simp only [access, hbusy, if_true] at haccess
          obtain ⟨rfl, rfl⟩ := Prod.mk.inj (Option.some.inj haccess)
          refine ⟨?_, fun i r hi => (h.informed i r hi).counted⟩
          rw [latest, shownIn_concat_of_ne log .counted (by simp)]
          exact h.snapshot_eq
  | join =>
      obtain ⟨rfl, rfl⟩ := Prod.mk.inj (Option.some.inj haccess)
      exact h.join
  | poll i =>
      cases hget : w.readers[i]? with
      | none => simp [access, hget] at haccess
      | some r =>
          cases hrest : r.isResting with
          | false => simp [access, hget, hrest] at haccess
          | true =>
              rw [access_poll hget hrest] at haccess
              split at haccess
              · obtain ⟨rfl, rfl⟩ := Prod.mk.inj (Option.some.inj haccess)
                have hset := h.set rfl ((h.informed i r hget).other rfl (Or.inr rfl))
                rwa [set_self hget] at hset
              · obtain ⟨rfl, rfl⟩ := Prod.mk.inj (Option.some.inj haccess)
                exact h.set rfl (.noted (seen_note r w.feed) (isResting_note r w.feed))
  | note i =>
      cases hget : w.readers[i]? with
      | none => simp [access, hget] at haccess
      | some r =>
          rw [access_note hget] at haccess
          split at haccess
          · contradiction
          · obtain ⟨rfl, rfl⟩ := Prod.mk.inj (Option.some.inj haccess)
            exact h.set rfl (.noted (seen_note r w.feed) (isResting_note r w.feed))
  | load i =>
      cases hget : w.readers[i]? with
      | none => simp [access, hget] at haccess
      | some r =>
          rw [access_load hget] at haccess
          split at haccess
          · contradiction
          · rename_i hloading
            obtain ⟨rfl, rfl⟩ := Prod.mk.inj (Option.some.inj haccess)
            rw [Bool.not_eq_true] at hloading
            exact h.set rfl ((h.informed i r hget).load hloading)
  | turn i =>
      cases hget : w.readers[i]? with
      | none => simp [access, hget] at haccess
      | some r =>
          simp only [access, hget, Option.bind_some] at haccess
          split at haccess
          · rename_i hkind
            rw [Bool.and_eq_true, Bool.not_eq_true'] at hkind
            obtain ⟨rfl, rfl⟩ := Prod.mk.inj (Option.some.inj haccess)
            exact h.set rfl (.turn hkind)
          · contradiction

end

theorem kept_after (start : Feed) (accesses : List Access) :
    Kept start ((new start).after accesses) ((new start).log accesses) := by
  induction accesses using List.reverseRecOn with
  | nil => exact ⟨rfl, fun i r hi => by contradiction⟩
  | append_singleton accesses a ih =>
      rw [after_concat, log_concat, step, event?]
      cases haccess : ((new start).after accesses).access a with
      | none => simpa using ih
      | some p => exact kept_access ih haccess

/-- A feed to which some lists were published has the last of them. -/
theorem snapshot_foldl_publish (feed : Feed) {lists : List Snapshot} (h : lists ≠ []) :
    (lists.foldl Feed.publish feed).snapshot = lists.getLast h := by
  induction lists using List.reverseRecOn with
  | nil => exact absurd rfl h
  | append_singleton lists last ih => simp [List.foldl_append, Feed.publish]

theorem version_foldl_publish (feed : Feed) (lists : List Snapshot) :
    (lists.foldl Feed.publish feed).version = feed.version + lists.length := by
  induction lists generalizing feed with
  | nil => rfl
  | cons first rest ih =>
      rw [List.foldl_cons, ih, List.length_cons, Feed.publish]
      dsimp only
      omega

/-- The accesses of some publishes, one after the other. -/
def publishes (lists : List Snapshot) : List Access :=
  lists.flatMap fun entries => [.display entries, .count]

theorem after_publishes {w : Readership} (hidle : w.publishing = false) (lists : List Snapshot) :
    w.after (publishes lists) = { w with feed := lists.foldl Feed.publish w.feed } := by
  induction lists generalizing w with
  | nil => rfl
  | cons first rest ih =>
      have happend : w.after (publishes (first :: rest)) =
          (w.after [.display first, .count]).after (publishes rest) := by
        simp [after, publishes]
      rw [happend, after_publish hidle]
      exact ih (w := { w with feed := w.feed.publish first }) hidle

end Readership

namespace Tracker

/-- A step of a tracker publishes one list at most, and does nothing else to the feed. -/
theorem feed_move {t t' : Tracker} {s : Step} {happening : Option Happening}
    (hmove : Move t s happening t') : ∃ lists : List Snapshot, t'.feed = lists.foldl Feed.publish t.feed := by
  cases hmove with
  | scanTaken run e rest roster firstRead updated sightings c => exact ⟨[_], rfl⟩
  | _ => exact ⟨[], rfl⟩

/-- Whatever a tracker does, over all its runs, it does nothing to the feed but publish. -/
theorem feed_after (t : Tracker) (steps : List Step) :
    ∃ lists : List Snapshot, (t.after steps).feed = lists.foldl Feed.publish t.feed := by
  induction steps using List.reverseRecOn with
  | nil => exact ⟨[], rfl⟩
  | append_singleton steps s ih =>
      obtain ⟨lists, hlists⟩ := ih
      obtain ⟨more, hmore⟩ := feed_move (move_step (t.after steps) s)
      refine ⟨lists ++ more, ?_⟩
      rw [after_concat, hmore, hlists, List.foldl_append]

end Tracker

namespace Readership

/-- Subscriptions and streams miss nothing, whatever the order of accesses.  A poll of a
subscription is ready where a publish was counted since the subscription was made and since its last
ready poll, and a poll of a stream also where it is the first; both then give the list that is
shown.  A reader whose poll is not ready was last given this list, or the one before it while the
publish of this one is not counted yet.  Several publishes make one poll ready.  What a tracker does
to its feed, over all its runs, are publishes. -/
theorem readers_miss_nothing (start : Feed) (accesses : List Access) :
    let w := (new start).after accesses
    let log := (new start).log accesses
    w.feed.snapshot = latest start log ∧
    (∀ i s, w.readers[i]? = some (.subscription s) →
      w.event? (.poll i) = some (if News i log then .noted i else .pending i) ∧
      (s.changed w.feed).1 = (if News i log then some (latest start log) else none) ∧
      (s.changed w.feed).2.current = (if News i log then latest start log else s.current) ∧
      lastGiven i log = some s.current) ∧
    (∀ i s, w.readers[i]? = some (.stream s) →
      w.event? (.poll i) = some (if Fresh i log ∨ News i log then .noted i else .pending i) ∧
      (s.next w.feed).1 = if Fresh i log ∨ News i log then some (latest start log) else none) ∧
    (∀ i r, w.readers[i]? = some r → r.isResting = false →
      w.event? (.load i) = some (.given i (latest start log))) ∧
    (∀ i, w.event? (.poll i) = some (.pending i) →
      lastGiven i log = some (latest start log) ∨
        (w.publishing = true ∧ lastGiven i log = some (previous start log))) ∧
    (∀ (i : Nat) (s : Subscription) (lists : List Snapshot),
      w.readers[i]? = some (.subscription s) →
      ∀ hsome : lists ≠ [],
      let feed := lists.foldl Feed.publish w.feed
      (s.changed feed).1 = some (lists.getLast hsome) ∧
        ((s.changed feed).2.changed feed).1 = none) ∧
    (∀ (i : Nat) (s : EntryStream) (lists : List Snapshot),
      w.readers[i]? = some (.stream s) →
      ∀ hsome : lists ≠ [],
      let feed := lists.foldl Feed.publish w.feed
      (s.next feed).1 = some (lists.getLast hsome) ∧ ((s.next feed).2.next feed).1 = none) ∧
    (∀ (t : Tracker) steps, t.feed = w.feed → w.publishing = false →
      ∃ lists, w.after (publishes lists) = { w with feed := (t.after steps).feed }) := by
  intro w log
  have hkept : Kept start w log := kept_after start accesses
  have hsnapshot := hkept.snapshot_eq
  refine ⟨hsnapshot, ?_, ?_, ?_, ?_, ?_, ?_, ?_⟩
  · intro i s hi
    have hknows := hkept.informed i _ hi
    have hseen : s.seen = w.feed.version ↔ ¬ News i log := by
      have hiff := hknows.seen_eq_iff
      simpa [Reader.seen, hknows.not_fresh rfl] using hiff
    rw [event?, access_poll hi rfl]
    refine ⟨?_, ?_, ?_, hknows.current s rfl⟩
    · by_cases hnews : News i log <;> simp [Reader.seen, hseen, hnews]
    · by_cases hnews : News i log <;> simp [Subscription.changed, hseen, hnews, hsnapshot]
    · by_cases hnews : News i log <;> simp [Subscription.changed, hseen, hnews, hsnapshot]
  · intro i s hi
    have hseen : s.seen = some w.feed.version ↔ ¬ (Fresh i log ∨ News i log) := by
      rw [not_or, and_comm]
      exact (hkept.informed i _ hi).seen_eq_iff
    rw [event?, access_poll hi rfl]
    constructor
    · by_cases hdue : Fresh i log ∨ News i log <;> simp [Reader.seen, hseen, hdue]
    · by_cases hdue : Fresh i log ∨ News i log <;> simp [EntryStream.next, hseen, hdue, hsnapshot]
  · intro i r hi hloading
    rw [event?, access_load hi, hloading, hsnapshot]
    rfl
  · intro i hpending
    cases hi : w.readers[i]? with
    | none => simp [event?, access, hi] at hpending
    | some r =>
        cases hrest : r.isResting with
        | false => simp [event?, access, hi, hrest] at hpending
        | true =>
            rw [event?, access_poll hi hrest] at hpending
            have hseen : r.seen = some w.feed.version := by
              by_contra hbehind
              simp [hbehind] at hpending
            rw [← hsnapshot]
            exact (hkept.informed i r hi).upToDate hrest hseen
  · intro i s lists hi hsome feed
    have hlater : s.seen ≠ feed.version := by
      have hle := (hkept.informed i _ hi).seen_le s.seen rfl
      have hlength := List.length_pos_iff.mpr hsome
      rw [version_foldl_publish]
      omega
    simp [Subscription.changed, hlater, feed, snapshot_foldl_publish _ hsome]
  · intro i s lists hi hsome feed
    have hlater : s.seen ≠ some feed.version := by
      intro hseen
      have hle := (hkept.informed i _ hi).seen_le feed.version hseen
      have hlength := List.length_pos_iff.mpr hsome
      rw [version_foldl_publish] at hle
      omega
    simp [EntryStream.next, hlater, feed, snapshot_foldl_publish _ hsome]
  · intro t steps hfeed hidle
    obtain ⟨lists, hlists⟩ := t.feed_after steps
    exact ⟨lists, by rw [after_publishes hidle, hlists, hfeed]⟩

/-- A subscription that polls while a publish is half done: it still has the list before. -/
theorem readers_miss_nothing_half_published :
    let accesses : List Access := [.join, .note 0, .load 0, .display [default]]
    let w := (new .empty).after accesses
    let log := (new .empty).log accesses
    w.event? (.poll 0) = some (.pending 0) ∧ latest .empty log = [default] ∧
      lastGiven 0 log = some (previous .empty log) := by
  intro accesses w log
  have hpending : w.event? (.poll 0) = some (.pending 0) := by decide
  have hbehind : lastGiven 0 log ≠ some (latest .empty log) := by decide
  obtain ⟨-, -, -, -, hgiven, -⟩ := readers_miss_nothing .empty accesses
  exact ⟨hpending, by decide, ((hgiven 0 hpending).resolve_left hbehind).2⟩

end Readership

end ScanRoster
