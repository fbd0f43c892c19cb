import Mathlib.Data.Finset.Card
import ScanRoster.Proofs.Aggregation.Parts
import ScanRoster.Proofs.Roster.Consistency

/-!
# What a report counts

Each network of a cycle has one group, and placing one group does not touch the networks of the
others.  So the fates that a cycle counts while its groups go in are decided by the entries that
were there before (`fates_placeAll`), and counting fates is counting networks (`count_fates`).
-/

namespace ScanRoster

/-- The networks of some observations. -/
def networks (observations : List Observation) : Finset NetworkKey :=
  (observations.map Observation.key).toFinset

/-- The networks that have an entry. -/
def listed (entries : List Entry) : Finset NetworkKey :=
  (entries.map (·.key)).toFinset

/-- Whether a network has an entry that its freshest observation is not older than. -/
def Renews (observations : List Observation) (entries : List Entry) (k : NetworkKey) : Prop :=
  ∃ e ∈ entries, e.key = k ∧ ∃ o ∈ freshest? k observations, e.lastSeenMillis ≤ o.observedAtMillis

/-- Whether a network has an entry that its freshest observation is older than. -/
def ComesLate (observations : List Observation) (entries : List Entry) (k : NetworkKey) : Prop :=
  ∃ e ∈ entries, e.key = k ∧ ∃ o ∈ freshest? k observations, o.observedAtMillis < e.lastSeenMillis

instance (observations : List Observation) (entries : List Entry) :
    DecidablePred (Renews observations entries) :=
  fun _ => inferInstanceAs (Decidable (∃ e ∈ entries, _ ∧ _))

instance (observations : List Observation) (entries : List Entry) :
    DecidablePred (ComesLate observations entries) :=
  fun _ => inferInstanceAs (Decidable (∃ e ∈ entries, _ ∧ _))

theorem mem_networks {k : NetworkKey} {observations : List Observation} :
    k ∈ networks observations ↔ ∃ o ∈ observations, o.key = k := by
  simp [networks]

theorem mem_listed {k : NetworkKey} {entries : List Entry} :
    k ∈ listed entries ↔ ∃ e ∈ entries, e.key = k := by
  simp [listed]

theorem toFinset_keys_aggregate (observations : List Observation) :
    ((aggregate observations).map Prod.fst).toFinset = networks observations := by
  ext k
  rw [List.mem_toFinset, mem_keys_aggregate_iff, mem_networks]

/-- Networks of a cycle may be counted by their groups. -/
theorem card_filter_networks (observations : List Observation) (P : NetworkKey → Prop)
    [DecidablePred P] :
    ((networks observations).filter P).card =
      (aggregate observations).countP fun g => decide (P g.1) := by
  have hnodup := (nodup_keys_aggregate observations).filter P
  rw [← toFinset_keys_aggregate, List.filter_toFinset, List.toFinset_card_of_nodup hnodup,
    ← List.countP_eq_length_filter, List.countP_map]
  rfl

theorem length_aggregate (observations : List Observation) :
    (aggregate observations).length = (networks observations).card := by
  rw [← toFinset_keys_aggregate, List.toFinset_card_of_nodup (nodup_keys_aggregate observations),
    List.length_map]

theorem card_listed {entries : List Entry} (hdistinct : (entries.map (·.key)).Nodup) :
    (listed entries).card = entries.length := by
  rw [listed, List.toFinset_card_of_nodup hdistinct, List.length_map]

/-- Every fate is one of three. -/
theorem Fate.count_add_count_add_count (fates : List Fate) :
    fates.count .inserted + fates.count .updated + fates.count .ignoredOlder = fates.length := by
  induction fates with
  | nil => rfl
  | cons fate fates ih =>
      cases fate <;> simp <;> omega

namespace Roster

/-! ## Fates -/

/-- The fate of a group among some entries. -/
def fateAmong (entries : List Entry) (g : Group) : Fate :=
  match entryOf? g.1 entries with
  | none => .inserted
  | some e => if g.2.observedAtMillis < e.lastSeenMillis then .ignoredOlder else .updated

theorem fate_place (g : Group) (entries : List Entry) :
    (place g entries).1 = fateAmong entries g := by
  induction entries with
  | nil => rfl
  | cons e rest ih =>
      unfold place fateAmong
      rw [entryOf?_cons]
      by_cases hkey : e.key = g.1
      · simp only [if_pos hkey]
        split <;> rfl
      · simp only [if_neg hkey]
        exact ih

/-- Only a new network makes the list longer. -/
theorem length_place (g : Group) (entries : List Entry) :
    (place g entries).2.length =
      entries.length + if (place g entries).1 == .inserted then 1 else 0 := by
  induction entries with
  | nil => rfl
  | cons e rest ih =>
      unfold place
      by_cases hkey : e.key = g.1
      · rw [if_pos hkey]
        split <;> rfl
      · rw [if_neg hkey]
        simp only [List.length_cons, ih]
        omega

theorem length_placeAll (groups : List Group) (entries : List Entry) :
    (placeAll groups entries).2.length =
      entries.length + (placeAll groups entries).1.count .inserted := by
  induction groups generalizing entries with
  | nil => rfl
  | cons g groups ih =>
      rw [placeAll_cons, ih, length_place, fates_placeAll_cons, List.count_cons]
      omega

/-- The fates of the groups of a cycle are decided by the entries before it. -/
theorem fates_placeAll {groups : List Group} (hnodup : (groups.map Prod.fst).Nodup)
    (entries : List Entry) :
    (placeAll groups entries).1 = groups.map (fateAmong entries) := by
  induction groups generalizing entries with
  | nil => rfl
  | cons g groups ih =>
      rw [List.map_cons, List.nodup_cons] at hnodup
      have hothers : ∀ g' ∈ groups,
          fateAmong (place g entries).2 g' = fateAmong entries g' := by
        intro g' hg'
        have hne : ¬ g.1 = g'.1 := fun heq => hnodup.1 (heq ▸ List.mem_map_of_mem hg')
        unfold fateAmong
        rw [entryOf?_place, if_neg hne]
      rw [fates_placeAll_cons, ih hnodup.2, fate_place, List.map_cons, List.map_congr_left hothers]

/-- As many groups have some fate as there are networks of which their freshest observation decides
that they have it. -/
theorem count_fates {observations : List Observation} {entries : List Entry} {fate : Fate}
    {P : NetworkKey → Prop} [DecidablePred P]
    (h : ∀ k o, freshest? k observations = some o → (fateAmong entries (k, o) = fate ↔ P k)) :
    (placeAll (aggregate observations) entries).1.count fate =
      ((networks observations).filter P).card := by
  rw [fates_placeAll (nodup_keys_aggregate observations), List.count, List.countP_map,
    card_filter_networks]
  refine List.countP_congr fun g hg => ?_
  simpa using h g.1 g.2 (freshest?_of_mem_aggregate hg)

theorem fateAmong_eq_inserted_iff (entries : List Entry) (g : Group) :
    fateAmong entries g = .inserted ↔ g.1 ∉ listed entries := by
  unfold fateAmong
  rw [mem_listed]
  cases hentry : entryOf? g.1 entries with
  | none => simpa using entryOf?_eq_none_iff.mp hentry
  | some e =>
      have hlisted : ∃ e ∈ entries, e.key = g.1 :=
        ⟨e, mem_of_entryOf? hentry, key_of_entryOf? hentry⟩
      simp only [hlisted, not_true_eq_false, iff_false]
      split <;> simp

section

variable {entries : List Entry} (hdistinct : (entries.map (·.key)).Nodup)
include hdistinct

/-- Where no network has two entries, what holds of some entry of a network holds of the one that is
found. -/
theorem exists_entry_iff {k : NetworkKey} {P : Entry → Prop} :
    (∃ e ∈ entries, e.key = k ∧ P e) ↔ ∃ e ∈ entryOf? k entries, P e := by
  constructor
  · rintro ⟨e, he, rfl, hP⟩
    exact ⟨e, entryOf?_of_mem hdistinct he, hP⟩
  · rintro ⟨e, he, hP⟩
    exact ⟨e, mem_of_entryOf? he, key_of_entryOf? he, hP⟩

variable {observations : List Observation} {k : NetworkKey} {o : Observation}
  (hfresh : freshest? k observations = some o)
include hfresh

theorem fateAmong_eq_updated_iff :
    fateAmong entries (k, o) = .updated ↔ Renews observations entries k := by
  rw [Renews, exists_entry_iff hdistinct, hfresh, fateAmong]
  cases entryOf? k entries with
  | none => simp
  | some e =>
      by_cases holder : o.observedAtMillis < e.lastSeenMillis
      · simp [holder]
      · simpa [holder] using not_lt.mp holder

theorem fateAmong_eq_ignoredOlder_iff :
    fateAmong entries (k, o) = .ignoredOlder ↔ ComesLate observations entries k := by
  rw [ComesLate, exists_entry_iff hdistinct, hfresh, fateAmong]
  cases entryOf? k entries with
  | none => simp
  | some e => by_cases holder : o.observedAtMillis < e.lastSeenMillis <;> simp [holder]

end

/-! ## The numbers of a report -/

section

variable (r : Roster) (c : Cycle)

theorem inserted_apply :
    (r.apply c).2.inserted = (placeAll (aggregate c.observations) r.entries).1.count .inserted :=
  rfl

theorem updated_apply :
    (r.apply c).2.updated = (placeAll (aggregate c.observations) r.entries).1.count .updated := rfl

theorem ignoredOlder_apply :
    (r.apply c).2.ignoredOlder =
      (placeAll (aggregate c.observations) r.entries).1.count .ignoredOlder := rfl

theorem evicted_apply :
    (r.apply c).2.evicted =
      (placeAll (aggregate c.observations) r.entries).2.length - (r.apply c).1.entries.length := rfl

theorem retained_apply : (r.apply c).2.retained = (r.apply c).1.entries.length := rfl

/-- What was there and what came in is evicted or retained. -/
theorem retained_add_evicted_apply :
    (r.apply c).2.retained + (r.apply c).2.evicted =
      r.entries.length + (r.apply c).2.inserted := by
  have hkept : (r.apply c).1.entries.length ≤
      (placeAll (aggregate c.observations) r.entries).2.length := by
    rw [entries_apply]
    exact List.length_filter_le _ _
  rw [retained_apply, evicted_apply, inserted_apply, ← length_placeAll]
  omega

theorem inserted_add_updated_add_ignoredOlder_apply :
    (r.apply c).2.inserted + (r.apply c).2.updated + (r.apply c).2.ignoredOlder =
      (networks c.observations).card := by
  rw [inserted_apply, updated_apply, ignoredOlder_apply, Fate.count_add_count_add_count,
    fates_placeAll (nodup_keys_aggregate _), List.length_map, length_aggregate]

/-- A cycle leaves entries of networks only that were there or came in with it. -/
theorem listed_placeAll :
    listed (placeAll (aggregate c.observations) r.entries).2 =
      listed r.entries ∪ networks c.observations := by
  ext k
  rw [listed, keys_placeAll (nodup_keys_aggregate _), List.mem_toFinset, List.mem_append,
    List.mem_filter, mem_keys_aggregate_iff, Finset.mem_union, mem_networks, listed,
    List.mem_toFinset]
  by_cases hold : k ∈ r.entries.map (·.key) <;> simp [hold]

theorem listed_apply_subset :
    listed (r.apply c).1.entries ⊆ listed r.entries ∪ networks c.observations := by
  rw [← listed_placeAll, entries_apply]
  intro k hk
  obtain ⟨e, he, hkey⟩ := mem_listed.mp hk
  exact mem_listed.mpr ⟨e, List.mem_of_mem_filter he, hkey⟩

theorem evicted_apply_eq_card (hdistinct : (r.entries.map (·.key)).Nodup) :
    (r.apply c).2.evicted =
      ((listed r.entries ∪ networks c.observations) \ listed (r.apply c).1.entries).card := by
  rw [Finset.card_sdiff_of_subset (listed_apply_subset r c), ← listed_placeAll,
    card_listed (nodup_keys_placeAll _ hdistinct), card_listed (nodup_keys_apply c hdistinct)]
  rfl

end

end Roster

/-- What the numbers of a report say of the networks of a cycle and of the entries before and after
it.  A network may be counted as inserted and as evicted by one cycle. -/
structure CycleReport.Accounts (report : CycleReport) (before : Store)
    (observations : List Observation) (after : Store) : Prop where
  inserted : report.inserted = (networks observations \ listed before.roster.entries).card
  updated : report.updated =
    ((networks observations).filter (Renews observations before.roster.entries)).card
  ignoredOlder : report.ignoredOlder =
    ((networks observations).filter (ComesLate observations before.roster.entries)).card
  total : report.inserted + report.updated + report.ignoredOlder = (networks observations).card
  evicted : report.evicted =
    ((listed before.roster.entries ∪ networks observations) \ listed after.roster.entries).card
  evicted_le : report.evicted ≤ before.size + report.inserted
  retained : report.retained = before.size + report.inserted - report.evicted
  published : report.retained = after.feed.snapshot.length

namespace Store

/-- The report of a cycle accounts for everything in it, whatever cycles came before. -/
theorem report_accounts (policy : AgePolicy) (earlier : List Cycle) (c : Cycle) :
    let before := (empty policy).ingestAll earlier
    (before.ingest c).2.Accounts before c.observations (before.ingest c).1 := by
  intro before
  have hdistinct : (before.roster.entries.map (·.key)).Nodup := nodup_keys_ingestAll policy earlier
  have hbalance : (before.ingest c).2.retained + (before.ingest c).2.evicted =
      before.size + (before.ingest c).2.inserted :=
    Roster.retained_add_evicted_apply before.roster c
  constructor
  case inserted =>
    rw [Finset.sdiff_eq_filter]
    exact Roster.count_fates fun k o _ => Roster.fateAmong_eq_inserted_iff _ (k, o)
  case updated =>
    exact Roster.count_fates fun k o hfresh => Roster.fateAmong_eq_updated_iff hdistinct hfresh
  case ignoredOlder =>
    exact Roster.count_fates fun k o hfresh => Roster.fateAmong_eq_ignoredOlder_iff hdistinct hfresh
  case total => exact Roster.inserted_add_updated_add_ignoredOlder_apply before.roster c
  case evicted => exact Roster.evicted_apply_eq_card before.roster c hdistinct
  case evicted_le => omega
  case retained => omega
  case published => rfl

end Store

end ScanRoster
