import Mathlib.Data.List.MinMax
import Mathlib.Data.List.Nodup
import ScanRoster.Aggregation
import ScanRoster.Proofs.Expiry

/-!
# What aggregation finds

The group that stands for a network holds the first of its latest observations, no network has two
groups, and groups stand in the order in which their networks were first met.  This is what the rest
of the theory knows about `aggregate`.
-/

namespace ScanRoster

/-- The first among the latest observations of a network. -/
def freshest? (k : NetworkKey) (observations : List Observation) : Option Observation :=
  (observations.filter (·.key = k)).argmax (·.observedAtMillis)

/-- The fresher one of two observations, and of equally fresh ones the first. -/
def fresher? : Option Observation → Option Observation → Option Observation
  | old, none => old
  | none, some o => some o
  | some kept, some o => if kept.observedAtMillis < o.observedAtMillis then some o else some kept

@[simp] theorem fresher?_none (old : Option Observation) : fresher? old none = old := by
  cases old <;> rfl

@[simp] theorem none_fresher? (new : Option Observation) : fresher? none new = new := by
  cases new <;> rfl

theorem fresher?_some_some (kept o : Observation) :
    fresher? (some kept) (some o) =
      if kept.observedAtMillis < o.observedAtMillis then some o else some kept := rfl

@[simp] theorem freshest?_nil (k : NetworkKey) : freshest? k [] = none := rfl

/-- One more observation counts where it is strictly later than those before it. -/
theorem freshest?_concat (k : NetworkKey) (observations : List Observation) (o : Observation) :
    freshest? k (observations ++ [o]) =
      fresher? (freshest? k observations) (if o.key = k then some o else none) := by
  unfold freshest?
  rw [List.filter_append, List.filter_singleton]
  by_cases hkey : o.key = k
  · simp only [hkey, decide_true, cond_true, if_true]
    rw [List.argmax_concat]
    cases List.argmax (·.observedAtMillis) (observations.filter (·.key = k)) <;> rfl
  · simp [hkey]

theorem freshest?_eq_none_iff {k : NetworkKey} {observations : List Observation} :
    freshest? k observations = none ↔ ∀ o ∈ observations, o.key ≠ k := by
  simp [freshest?, List.argmax_eq_none, List.filter_eq_nil_iff]

theorem mem_of_freshest? {k : NetworkKey} {observations : List Observation} {o : Observation}
    (h : freshest? k observations = some o) : o ∈ observations ∧ o.key = k := by
  have hmem : o ∈ observations.filter (·.key = k) := List.argmax_mem h
  simpa using hmem

theorem le_of_freshest? {k : NetworkKey} {observations : List Observation} {o o' : Observation}
    (h : freshest? k observations = some o) (hmem : o' ∈ observations) (hkey : o'.key = k) :
    o'.observedAtMillis ≤ o.observedAtMillis := by
  apply List.le_of_mem_argmax (f := fun o : Observation => o.observedAtMillis) _ h
  simpa using ⟨hmem, hkey⟩

/-- The freshest observation is the first of its network with its time. -/
theorem find?_of_freshest? {k : NetworkKey} {observations : List Observation} {o : Observation}
    (h : freshest? k observations = some o) :
    observations.find? (fun p => p.key = k ∧ p.observedAtMillis = o.observedAtMillis) =
      some o := by
  induction observations using List.reverseRecOn with
  | nil => simp at h
  | append_singleton observations last ih =>
      rw [freshest?_concat] at h
      rw [List.find?_append]
      by_cases hkey : last.key = k
      · rw [if_pos hkey] at h
        cases hkept : freshest? k observations with
        | none =>
            -- nothing of the network came before the last observation
            rw [hkept, none_fresher?] at h
            obtain rfl : last = o := Option.some.inj h
            have hnone : observations.find?
                (fun p => p.key = k ∧ p.observedAtMillis = last.observedAtMillis) = none := by
              rw [List.find?_eq_none]
              intro p hp
              have hne := freshest?_eq_none_iff.mp hkept p hp
              simp [hne]
            rw [hnone]
            simp [hkey]
        | some kept =>
            rw [hkept, fresher?_some_some] at h
            split at h
            · -- no earlier observation of the network has the later time
              rename_i hlater
              obtain rfl : last = o := Option.some.inj h
              have hnone : observations.find?
                  (fun p => p.key = k ∧ p.observedAtMillis = last.observedAtMillis) = none := by
                rw [List.find?_eq_none]
                intro p hp
                simp only [decide_eq_true_eq, not_and]
                intro hpk
                exact ((le_of_freshest? hkept hp hpk).trans_lt hlater).ne
              rw [hnone]
              simp [hkey]
            · rw [Option.some.inj h] at hkept
              rw [ih hkept]
              rfl
      · rw [if_neg hkey, fresher?_none] at h
        rw [ih h]
        rfl

/-- Nothing is doubled where only what is new goes to the end. -/
theorem nodup_append_new {α : Type} [DecidableEq α] {l : List α} (h : l.Nodup) (a : α) :
    (if a ∈ l then l else l ++ [a]).Nodup := by
  split
  · exact h
  · rename_i hnew
    rw [← List.concat_eq_append]
    exact h.concat hnew

/-- Without doubles, one more value counts where it is new, and then it goes to the end. -/
theorem eraseDups_concat {α : Type} [DecidableEq α] (l : List α) (a : α) :
    (l ++ [a]).eraseDups = if a ∈ l.eraseDups then l.eraseDups else l.eraseDups ++ [a] := by
  rw [List.eraseDups_append]
  by_cases hold : a ∈ l <;> simp [List.removeAll, List.eraseDups_cons, hold]

namespace Aggregation

/-- The networks of the groups: a new one goes to the end. -/
theorem keys_insert (o : Observation) (groups : List Group) :
    (insert o groups).map Prod.fst =
      if o.key ∈ groups.map Prod.fst then groups.map Prod.fst
      else groups.map Prod.fst ++ [o.key] := by
  induction groups with
  | nil => rfl
  | cons g rest ih =>
      obtain ⟨k, kept⟩ := g
      by_cases hkey : k = o.key
      · simp only [insert, if_pos hkey]
        split <;> simp [hkey]
      · have hne : ¬ o.key = k := fun h => hkey h.symm
        simp only [insert, if_neg hkey, List.map_cons, ih, List.mem_cons, hne, false_or]
        split <;> rfl

theorem mem_insert {o : Observation} {groups : List Group} {g : Group}
    (h : g ∈ insert o groups) : g = (o.key, o) ∨ g ∈ groups := by
  induction groups with
  | nil => exact Or.inl (List.mem_singleton.mp h)
  | cons first rest ih =>
      obtain ⟨k, kept⟩ := first
      unfold insert at h
      split at h
      · rename_i hkey
        split at h
        · rcases List.mem_cons.mp h with hfirst | hrest
          · exact Or.inl (hkey ▸ hfirst)
          · exact Or.inr (List.mem_cons_of_mem _ hrest)
        · exact Or.inr h
      · rcases List.mem_cons.mp h with hfirst | hrest
        · exact Or.inr (hfirst ▸ List.mem_cons_self)
        · exact (ih hrest).imp_right (List.mem_cons_of_mem _)

/-- The group of a network after one more observation. -/
theorem lookup_insert (k : NetworkKey) (o : Observation) (groups : List Group) :
    (insert o groups).lookup k =
      fresher? (groups.lookup k) (if o.key = k then some o else none) := by
  induction groups with
  | nil =>
      by_cases hkey : o.key = k
      · simp [insert, hkey]
      · have hne : (k == o.key) = false := beq_eq_false_iff_ne.mpr (Ne.symm hkey)
        simp [insert, List.lookup_cons, hkey, hne]
  | cons g rest ih =>
      obtain ⟨k', kept⟩ := g
      by_cases hkey : k' = o.key
      · simp only [insert, if_pos hkey]
        by_cases hk : o.key = k
        · subst hkey
          subst hk
          split <;> simp [fresher?_some_some, *]
        · have hne : (k == k') = false := by
            rw [hkey]
            exact beq_eq_false_iff_ne.mpr (Ne.symm hk)
          split <;> simp [List.lookup_cons, hne]
      · simp only [insert, if_neg hkey, List.lookup_cons]
        cases hk : k == k' with
        | true =>
            have hne : ¬ o.key = k := fun h => hkey ((beq_iff_eq.mp hk).symm.trans h.symm)
            simp [hne]
        | false => exact ih

end Aggregation

/-- Aggregation takes the observations one by one. -/
theorem aggregate_concat (observations : List Observation) (o : Observation) :
    aggregate (observations ++ [o]) = Aggregation.insert o (aggregate observations) := by
  simp [aggregate, List.foldl_append]

theorem nodup_keys_aggregate (observations : List Observation) :
    ((aggregate observations).map Prod.fst).Nodup := by
  induction observations using List.reverseRecOn with
  | nil => exact List.nodup_nil
  | append_singleton observations o ih =>
      rw [aggregate_concat, Aggregation.keys_insert]
      exact nodup_append_new ih o.key

/-- The groups of a cycle are its networks, each where it was first met. -/
theorem keys_aggregate (observations : List Observation) :
    (aggregate observations).map Prod.fst = (observations.map Observation.key).eraseDups := by
  induction observations using List.reverseRecOn with
  | nil => rfl
  | append_singleton observations o ih =>
      rw [aggregate_concat, Aggregation.keys_insert, List.map_append, List.map_singleton,
        eraseDups_concat, ih]

/-- The group of a network holds its freshest observation. -/
theorem lookup_aggregate (k : NetworkKey) (observations : List Observation) :
    (aggregate observations).lookup k = freshest? k observations := by
  induction observations using List.reverseRecOn with
  | nil => rfl
  | append_singleton observations o ih =>
      rw [aggregate_concat, Aggregation.lookup_insert, freshest?_concat, ih]

/-- Exactly the networks that were met have groups. -/
theorem mem_keys_aggregate_iff {k : NetworkKey} {observations : List Observation} :
    k ∈ (aggregate observations).map Prod.fst ↔ ∃ o ∈ observations, o.key = k := by
  induction observations using List.reverseRecOn with
  | nil => simp [aggregate]
  | append_singleton observations o ih =>
      rw [aggregate_concat, Aggregation.keys_insert]
      simp only [List.mem_append, List.mem_singleton, or_and_right, exists_or, exists_eq_left,
        ← ih]
      split
      · rename_i hmet
        exact ⟨Or.inl, fun h => h.elim id fun hkey => hkey ▸ hmet⟩
      · rw [List.mem_append, List.mem_singleton, eq_comm]

/-- The place at which a network is first met among some observations. -/
def firstMet (k : NetworkKey) (observations : List Observation) : Nat :=
  observations.findIdx (·.key = k)

theorem firstMet_concat_of_mem {k : NetworkKey} {observations : List Observation}
    (h : ∃ o ∈ observations, o.key = k) (o : Observation) :
    firstMet k (observations ++ [o]) = firstMet k observations := by
  have hlt : firstMet k observations < observations.length :=
    List.findIdx_lt_length_of_exists (by simpa using h)
  unfold firstMet at hlt ⊢
  rw [List.findIdx_append, if_pos hlt]

/-- Groups stand in the order in which their networks were first met. -/
theorem pairwise_firstMet_aggregate (observations : List Observation) :
    ((aggregate observations).map Prod.fst).Pairwise fun k k' =>
      firstMet k observations < firstMet k' observations := by
  induction observations using List.reverseRecOn with
  | nil => exact List.Pairwise.nil
  | append_singleton observations o ih =>
      have hkept : ((aggregate observations).map Prod.fst).Pairwise fun k k' =>
          firstMet k (observations ++ [o]) < firstMet k' (observations ++ [o]) := by
        refine ih.imp_of_mem fun hk hk' hlt => ?_
        rwa [firstMet_concat_of_mem (mem_keys_aggregate_iff.mp hk),
          firstMet_concat_of_mem (mem_keys_aggregate_iff.mp hk')]
      rw [aggregate_concat, Aggregation.keys_insert]
      split
      · exact hkept
      · rename_i hnew
        rw [mem_keys_aggregate_iff] at hnew
        refine List.pairwise_append.mpr ⟨hkept, List.pairwise_singleton _ _, fun k hk k' hk' => ?_⟩
        -- a network that was not met before is met behind all that were
        have hlast : observations.length ≤ firstMet o.key (observations ++ [o]) := by
          have hmissing : observations.findIdx (·.key = o.key) = observations.length := by
            rw [List.findIdx_eq_length]
            simpa using hnew
          unfold firstMet
          rw [List.findIdx_append, hmissing, if_neg (Nat.lt_irrefl _)]
          exact Nat.le_add_left _ _
        have hmet := mem_keys_aggregate_iff.mp hk
        rw [List.mem_singleton.mp hk', firstMet_concat_of_mem hmet]
        exact Nat.lt_of_lt_of_le (List.findIdx_lt_length_of_exists (by simpa using hmet)) hlast

/-- A group holds an observation of its own network. -/
theorem mem_of_mem_aggregate {observations : List Observation} {g : Group}
    (h : g ∈ aggregate observations) : g.2 ∈ observations ∧ g.2.key = g.1 := by
  induction observations using List.reverseRecOn with
  | nil => simp [aggregate] at h
  | append_singleton observations o ih =>
      rw [aggregate_concat] at h
      rcases Aggregation.mem_insert h with rfl | hold
      · simp
      · obtain ⟨hmem, hkey⟩ := ih hold
        exact ⟨List.mem_append_left _ hmem, hkey⟩

end ScanRoster
