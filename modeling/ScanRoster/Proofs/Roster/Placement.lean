import Mathlib.Data.List.Nodup
import ScanRoster.Proofs.Aggregation
import ScanRoster.Roster

/-!
# What a cycle does to one network

Networks do not get into each other's way: as long as no network has two entries, the entry of a
network after a cycle depends on its entry before, on its freshest observation in the cycle and
on the cycle's window alone (`entryOf?_apply`).  The order of the entries is not the subject here.
-/

namespace ScanRoster

/-- The entry of a network in a list of entries. -/
def entryOf? (k : NetworkKey) (entries : List Entry) : Option Entry :=
  entries.find? (·.key = k)

/-- The entry of a network once its freshest observation has come in, before anything is
evicted. -/
def refreshed? (k : NetworkKey) : Option Entry → Option Observation → Option Entry
  | old, none => old
  | none, some o => some (.ofObservation k o)
  | some e, some o =>
    if o.observedAtMillis < e.lastSeenMillis then some e else some (.ofObservation k o)

@[simp] theorem refreshed?_none (k : NetworkKey) (old : Option Entry) :
    refreshed? k old none = old := by
  cases old <;> rfl

@[simp] theorem refreshed?_none_some (k : NetworkKey) (o : Observation) :
    refreshed? k none (some o) = some (.ofObservation k o) := rfl

theorem refreshed?_some_some (k : NetworkKey) (e : Entry) (o : Observation) :
    refreshed? k (some e) (some o) =
      if o.observedAtMillis < e.lastSeenMillis then some e else some (.ofObservation k o) := rfl

@[simp] theorem entryOf?_nil (k : NetworkKey) : entryOf? k [] = none := rfl

theorem entryOf?_cons (k : NetworkKey) (e : Entry) (rest : List Entry) :
    entryOf? k (e :: rest) = if e.key = k then some e else entryOf? k rest := by
  by_cases hkey : e.key = k <;> simp [entryOf?, hkey]

theorem key_of_entryOf? {k : NetworkKey} {entries : List Entry} {e : Entry}
    (h : entryOf? k entries = some e) : e.key = k := by
  simpa using List.find?_some h

theorem mem_of_entryOf? {k : NetworkKey} {entries : List Entry} {e : Entry}
    (h : entryOf? k entries = some e) : e ∈ entries :=
  List.mem_of_find?_eq_some h

theorem entryOf?_eq_none_iff {k : NetworkKey} {entries : List Entry} :
    entryOf? k entries = none ↔ ∀ e ∈ entries, e.key ≠ k := by
  simp [entryOf?, List.find?_eq_none]

/-- Where no network has two entries, an entry is found under its own key. -/
theorem entryOf?_of_mem {entries : List Entry} {e : Entry}
    (hnodup : (entries.map (·.key)).Nodup) (hmem : e ∈ entries) :
    entryOf? e.key entries = some e := by
  induction entries with
  | nil => simp at hmem
  | cons first rest ih =>
      rw [List.map_cons, List.nodup_cons] at hnodup
      rw [entryOf?_cons]
      rcases List.mem_cons.mp hmem with rfl | hrest
      · rw [if_pos rfl]
      · have hne : first.key ≠ e.key := by
          intro heq
          exact hnodup.1 (heq ▸ List.mem_map_of_mem hrest)
        rw [if_neg hne]
        exact ih hnodup.2 hrest

/-- Two lists that agree on every network have the same entries. -/
theorem perm_of_entryOf? {entries entries' : List Entry}
    (hnodup : (entries.map (·.key)).Nodup) (hnodup' : (entries'.map (·.key)).Nodup)
    (h : ∀ k, entryOf? k entries = entryOf? k entries') : entries.Perm entries' := by
  rw [List.perm_ext_iff_of_nodup hnodup.of_map hnodup'.of_map]
  intro e
  constructor
  · intro he
    exact mem_of_entryOf? ((h e.key).symm.trans (entryOf?_of_mem hnodup he))
  · intro he
    exact mem_of_entryOf? ((h e.key).trans (entryOf?_of_mem hnodup' he))

theorem entryOf?_filter {entries : List Entry} (hnodup : (entries.map (·.key)).Nodup)
    (k : NetworkKey) (keep : Entry → Bool) :
    entryOf? k (entries.filter keep) = (entryOf? k entries).filter keep := by
  induction entries with
  | nil => rfl
  | cons first rest ih =>
      rw [List.map_cons, List.nodup_cons] at hnodup
      rw [entryOf?_cons, List.filter_cons]
      by_cases hkey : first.key = k
      · rw [if_pos hkey]
        cases hkeep : keep first with
        | true =>
            rw [if_pos rfl, entryOf?_cons, if_pos hkey]
            simp [Option.filter, hkeep]
        | false =>
            -- the entry goes, and there was no other one of its network
            rw [if_neg Bool.false_ne_true]
            simp only [Option.filter, hkeep]
            rw [if_neg Bool.false_ne_true, entryOf?_eq_none_iff]
            intro e he heq
            have hrest : e ∈ rest := (List.mem_filter.mp he).1
            exact hnodup.1 (hkey.trans heq.symm ▸ List.mem_map_of_mem hrest)
      · rw [if_neg hkey]
        cases hkeep : keep first with
        | true =>
            rw [if_pos rfl, entryOf?_cons, if_neg hkey]
            exact ih hnodup.2
        | false =>
            rw [if_neg Bool.false_ne_true]
            exact ih hnodup.2

namespace Roster

/-! ## One group -/

/-- Placing a group keeps the order of the networks; a new one goes to the end. -/
theorem keys_place (g : Group) (entries : List Entry) :
    (place g entries).2.map (·.key) =
      if g.1 ∈ entries.map (·.key) then entries.map (·.key)
      else entries.map (·.key) ++ [g.1] := by
  induction entries with
  | nil => rfl
  | cons e rest ih =>
      unfold place
      by_cases hkey : e.key = g.1
      · rw [if_pos hkey]
        split <;> simp [hkey, Entry.ofObservation]
      · have hne : ¬ g.1 = e.key := fun h => hkey h.symm
        rw [if_neg hkey]
        simp only [List.map_cons, List.mem_cons, hne, false_or, ih]
        split <;> rfl

theorem nodup_keys_place {g : Group} {entries : List Entry}
    (hnodup : (entries.map (·.key)).Nodup) : ((place g entries).2.map (·.key)).Nodup := by
  rw [keys_place]
  exact nodup_append_new hnodup g.1

theorem mem_place {g : Group} {entries : List Entry} {e : Entry} (h : e ∈ (place g entries).2) :
    e ∈ entries ∨ e = .ofObservation g.1 g.2 := by
  induction entries with
  | nil => exact Or.inr (List.mem_singleton.mp h)
  | cons first rest ih =>
      unfold place at h
      split at h
      · split at h
        · exact Or.inl h
        · rcases List.mem_cons.mp h with hfirst | hrest
          · exact Or.inr hfirst
          · exact Or.inl (List.mem_cons_of_mem _ hrest)
      · rcases List.mem_cons.mp h with hfirst | hrest
        · exact Or.inl (hfirst ▸ List.mem_cons_self)
        · exact (ih hrest).imp_left (List.mem_cons_of_mem _)

theorem entryOf?_place (k : NetworkKey) (g : Group) (entries : List Entry) :
    entryOf? k (place g entries).2 =
      if g.1 = k then refreshed? k (entryOf? k entries) (some g.2) else entryOf? k entries := by
  induction entries with
  | nil => by_cases hg : g.1 = k <;> simp [place, entryOf?_cons, Entry.ofObservation, hg]
  | cons e rest ih =>
      unfold place
      by_cases hkey : e.key = g.1
      · rw [if_pos hkey, entryOf?_cons]
        by_cases hg : g.1 = k
        · rw [if_pos hg, if_pos (hkey.trans hg)]
          by_cases holder : g.2.observedAtMillis < e.lastSeenMillis
          · rw [if_pos holder]
            simp [refreshed?_some_some, holder, entryOf?_cons, hkey.trans hg]
          · rw [if_neg holder]
            simp [refreshed?_some_some, holder, entryOf?_cons, Entry.ofObservation, hg]
        · have hne : ¬ e.key = k := fun h => hg (hkey.symm.trans h)
          rw [if_neg hg, if_neg hne]
          split <;> simp [entryOf?_cons, Entry.ofObservation, hne, hg]
      · rw [if_neg hkey]
        simp only [entryOf?_cons, ih]
        by_cases hg : g.1 = k
        · have hne : ¬ e.key = k := fun h => hkey (h.trans hg.symm)
          simp [hg, hne]
        · simp [hg]

/-! ## All groups of a cycle -/

theorem placeAll_cons (g : Group) (groups : List Group) (entries : List Entry) :
    (placeAll (g :: groups) entries).2 = (placeAll groups (place g entries).2).2 := rfl

theorem fates_placeAll_cons (g : Group) (groups : List Group) (entries : List Entry) :
    (placeAll (g :: groups) entries).1 =
      (place g entries).1 :: (placeAll groups (place g entries).2).1 := rfl

/-- Placing groups keeps the order of the networks; new ones go to the end, in the order of their
groups. -/
theorem keys_placeAll {groups : List Group} (hnodup : (groups.map Prod.fst).Nodup)
    (entries : List Entry) :
    (placeAll groups entries).2.map (·.key) =
      entries.map (·.key) ++ (groups.map Prod.fst).filter (· ∉ entries.map (·.key)) := by
  induction groups generalizing entries with
  | nil => simp [placeAll]
  | cons g groups ih =>
      rw [List.map_cons, List.nodup_cons] at hnodup
      rw [placeAll_cons, ih hnodup.2, keys_place, List.map_cons, List.filter_cons]
      by_cases hold : g.1 ∈ entries.map (·.key)
      · simp only [hold, if_true, not_true_eq_false, decide_false, Bool.false_eq_true, if_false]
      · -- no later group is about the network that is new here
        have hothers : (groups.map Prod.fst).filter (· ∉ entries.map (·.key) ++ [g.1]) =
            (groups.map Prod.fst).filter (· ∉ entries.map (·.key)) := by
          refine List.filter_congr fun k hk => ?_
          have hne : k ≠ g.1 := fun heq => hnodup.1 (heq ▸ hk)
          simp [hne]
        simp only [hold, if_false, not_false_eq_true, decide_true, if_true, hothers,
          List.append_assoc, List.singleton_append]

theorem nodup_keys_placeAll (groups : List Group) {entries : List Entry}
    (hnodup : (entries.map (·.key)).Nodup) :
    ((placeAll groups entries).2.map (·.key)).Nodup := by
  induction groups generalizing entries with
  | nil => exact hnodup
  | cons g groups ih =>
      rw [placeAll_cons]
      exact ih (nodup_keys_place hnodup)

theorem mem_placeAll {groups : List Group} {entries : List Entry} {e : Entry}
    (h : e ∈ (placeAll groups entries).2) :
    e ∈ entries ∨ ∃ g ∈ groups, e = .ofObservation g.1 g.2 := by
  induction groups generalizing entries with
  | nil => exact Or.inl h
  | cons g groups ih =>
      rw [placeAll_cons] at h
      rcases ih h with hplaced | ⟨g', hg', heq⟩
      · rcases mem_place hplaced with hold | hnew
        · exact Or.inl hold
        · exact Or.inr ⟨g, List.mem_cons_self, hnew⟩
      · exact Or.inr ⟨g', List.mem_cons_of_mem _ hg', heq⟩

/-- A network is touched by its own group only. -/
theorem entryOf?_placeAll (k : NetworkKey) {groups : List Group}
    (hnodup : (groups.map Prod.fst).Nodup) (entries : List Entry) :
    entryOf? k (placeAll groups entries).2 =
      refreshed? k (entryOf? k entries) (groups.lookup k) := by
  induction groups generalizing entries with
  | nil => simp [placeAll]
  | cons g groups ih =>
      rw [List.map_cons, List.nodup_cons] at hnodup
      rw [placeAll_cons, ih hnodup.2, entryOf?_place]
      obtain ⟨k', o⟩ := g
      by_cases hg : k' = k
      · -- no later group is about the network
        subst hg
        have hnone : groups.lookup k' = none := by
          rw [List.lookup_eq_none_iff]
          intro p hp
          have hmem : p.1 ∈ groups.map Prod.fst := List.mem_map_of_mem hp
          exact bne_iff_ne.mpr fun heq => hnodup.1 (heq ▸ hmem)
        rw [hnone]
        simp
      · have hne : (k == k') = false := beq_eq_false_iff_ne.mpr (Ne.symm hg)
        simp [List.lookup_cons, hg, hne]

/-! ## A whole cycle -/

theorem policy_apply (r : Roster) (c : Cycle) : (r.apply c).1.policy = r.policy := rfl

theorem entries_apply (r : Roster) (c : Cycle) :
    (r.apply c).1.entries =
      (placeAll (aggregate c.observations) r.entries).2.filter fun e =>
        !isExpired c.nowMillis e.lastSeenMillis (r.policy.effectiveMaxAge c.succeeded) := rfl

theorem nodup_keys_apply {r : Roster} (c : Cycle) (hnodup : (r.entries.map (·.key)).Nodup) :
    ((r.apply c).1.entries.map (·.key)).Nodup := by
  rw [entries_apply]
  exact (List.filter_sublist.map _).nodup (nodup_keys_placeAll _ hnodup)

/-- What a cycle leaves was there before or stands for one of the cycle's observations, and is
not too old for the cycle. -/
theorem mem_apply {r : Roster} {c : Cycle} {e : Entry} (h : e ∈ (r.apply c).1.entries) :
    (e ∈ r.entries ∨ ∃ o ∈ c.observations, e = .ofObservation o.key o) ∧
      isExpired c.nowMillis e.lastSeenMillis (r.policy.effectiveMaxAge c.succeeded) = false := by
  rw [entries_apply, List.mem_filter, Bool.not_eq_true'] at h
  obtain ⟨hplaced, hfresh⟩ := h
  refine ⟨?_, hfresh⟩
  rcases mem_placeAll hplaced with hold | ⟨g, hg, heq⟩
  · exact Or.inl hold
  · obtain ⟨hmem, hkey⟩ := mem_of_mem_aggregate hg
    exact Or.inr ⟨g.2, hmem, hkey ▸ heq⟩

/-- The entry of a network after a cycle. -/
theorem entryOf?_apply {r : Roster} (hnodup : (r.entries.map (·.key)).Nodup) (c : Cycle)
    (k : NetworkKey) :
    entryOf? k (r.apply c).1.entries =
      (refreshed? k (entryOf? k r.entries) (freshest? k c.observations)).filter fun e =>
        !isExpired c.nowMillis e.lastSeenMillis (r.policy.effectiveMaxAge c.succeeded) := by
  rw [entries_apply, entryOf?_filter (nodup_keys_placeAll _ hnodup),
    entryOf?_placeAll k (nodup_keys_aggregate _), lookup_aggregate]

end Roster

end ScanRoster
