import ScanRoster.Proofs.Aggregation

/-!
# Aggregation in parts

Observations may be aggregated piece by piece: of a prefix or a suffix only those observations are
needed that stand for its networks.  The groups are fixed by the order in which the networks are
first met and by the freshest observation of each (`aggregate_eq`), and a piece gives both in the
same way as its representatives do.
-/

namespace ScanRoster

/-- Removing the doubles of a suffix first makes no difference. -/
theorem eraseDups_append_eraseDups {α : Type} [DecidableEq α] (l m : List α) :
    (l ++ m.eraseDups).eraseDups = (l ++ m).eraseDups := by
  induction m using List.reverseRecOn with
  | nil => rfl
  | append_singleton m a ih =>
      rw [eraseDups_concat, ← List.append_assoc, eraseDups_concat, ← ih]
      split
      · rename_i hmet
        simp [hmet]
      · rw [← List.append_assoc, eraseDups_concat]

/-! ## The freshest observation of two lists -/

theorem fresher?_assoc (first second third : Option Observation) :
    fresher? (fresher? first second) third = fresher? first (fresher? second third) := by
  cases first with
  | none => simp
  | some a =>
      cases second with
      | none => simp
      | some b =>
          cases third with
          | none => simp
          | some c =>
              simp only [fresher?_some_some]
              by_cases hab : a.observedAtMillis < b.observedAtMillis
              · by_cases hbc : b.observedAtMillis < c.observedAtMillis
                · simp [fresher?_some_some, hab, hbc, hab.trans hbc]
                · simp [fresher?_some_some, hab, hbc]
              · by_cases hbc : b.observedAtMillis < c.observedAtMillis
                · simp [fresher?_some_some, hab, hbc]
                · have hac : ¬ a.observedAtMillis < c.observedAtMillis :=
                    not_lt.mpr ((not_lt.mp hbc).trans (not_lt.mp hab))
                  simp [fresher?_some_some, hab, hbc, hac]

/-- The freshest observation of two lists is the fresher one of theirs. -/
theorem freshest?_append (k : NetworkKey) (observations more : List Observation) :
    freshest? k (observations ++ more) =
      fresher? (freshest? k observations) (freshest? k more) := by
  induction more using List.reverseRecOn with
  | nil => simp
  | append_singleton more o ih =>
      rw [← List.append_assoc, freshest?_concat, ih, fresher?_assoc, ← freshest?_concat]

/-! ## Groups and their representatives -/

/-- The observations that stand for the networks of a list, in the order of the groups. -/
def representatives (observations : List Observation) : List Observation :=
  (aggregate observations).map Prod.snd

/-- A group holds the freshest observation of its network. -/
theorem freshest?_of_mem_aggregate {observations : List Observation} {g : Group}
    (h : g ∈ aggregate observations) : freshest? g.1 observations = some g.2 := by
  obtain ⟨before, after, hsplit⟩ := List.append_of_mem h
  have hnodup := nodup_keys_aggregate observations
  rw [← lookup_aggregate, List.lookup_eq_some_iff]
  refine ⟨before, after, hsplit, fun g' hg' => ?_⟩
  -- no group before it is about the same network
  rw [hsplit, List.map_append, List.map_cons] at hnodup
  have hne := (List.nodup_append.mp hnodup).2.2 g'.1 (List.mem_map_of_mem hg') g.1
    List.mem_cons_self
  exact bne_iff_ne.mpr hne.symm

/-- The groups, told by the networks in the order in which they were first met, and by the freshest
observation of each. -/
theorem aggregate_eq (observations : List Observation) :
    aggregate observations = (observations.map Observation.key).eraseDups.filterMap
      fun k => (freshest? k observations).map (Prod.mk k) := by
  have hgroup : ∀ g ∈ aggregate observations,
      (freshest? g.1 observations).map (Prod.mk g.1) = some g := by
    intro g hg
    rw [freshest?_of_mem_aggregate hg]
    rfl
  rw [← keys_aggregate, List.filterMap_map]
  exact ((List.filterMap_congr hgroup).trans List.filterMap_some).symm

theorem keys_representatives (observations : List Observation) :
    (representatives observations).map Observation.key =
      (observations.map Observation.key).eraseDups := by
  rw [← keys_aggregate, representatives, List.map_map]
  exact List.map_congr_left fun g hg => (mem_of_mem_aggregate hg).2

/-- The representatives of a list have the freshest observations that the list has. -/
theorem freshest?_representatives (k : NetworkKey) (observations : List Observation) :
    freshest? k (representatives observations) = freshest? k observations := by
  cases hfresh : freshest? k (representatives observations) with
  | some o =>
      obtain ⟨hmem, rfl⟩ := mem_of_freshest? hfresh
      obtain ⟨g, hg, rfl⟩ := List.mem_map.mp hmem
      rw [← freshest?_of_mem_aggregate hg, (mem_of_mem_aggregate hg).2]
  | none =>
      symm
      rw [freshest?_eq_none_iff] at hfresh ⊢
      intro o ho hkey
      have hmet : k ∈ (representatives observations).map Observation.key := by
        rw [keys_representatives, List.mem_eraseDups]
        exact List.mem_map.mpr ⟨o, ho, hkey⟩
      obtain ⟨o', ho', hkey'⟩ := List.mem_map.mp hmet
      exact hfresh o' ho' hkey'

theorem aggregate_append (observations more : List Observation) :
    aggregate (observations ++ more) =
      more.foldl (fun groups o => Aggregation.insert o groups) (aggregate observations) :=
  List.foldl_append

/-- Only the representatives of a suffix count. -/
theorem aggregate_append_representatives (observations more : List Observation) :
    aggregate (observations ++ representatives more) = aggregate (observations ++ more) := by
  have hfresh : ∀ k, freshest? k (observations ++ representatives more) =
      freshest? k (observations ++ more) := by
    intro k
    rw [freshest?_append, freshest?_representatives, freshest?_append]
  simp only [aggregate_eq, hfresh, List.map_append, keys_representatives,
    eraseDups_append_eraseDups]

/-- Aggregation may be done in parts.  The groups of a list are its networks in the order in which
they are first met, each with the first among its latest observations.  A prefix or a suffix may be
replaced by the observations that stand for its networks, and so may the whole list. -/
theorem aggregation_in_parts (a b : List Observation) :
    (aggregate a).map Prod.fst = (a.map Observation.key).eraseDups ∧
    (∀ g ∈ aggregate a,
      (∀ o ∈ a, o.key = g.1 → o.observedAtMillis ≤ g.2.observedAtMillis) ∧
      a.find? (fun o => o.key = g.1 ∧ o.observedAtMillis = g.2.observedAtMillis) = some g.2) ∧
    aggregate ((aggregate a).map Prod.snd ++ b) = aggregate (a ++ b) ∧
    aggregate (a ++ (aggregate b).map Prod.snd) = aggregate (a ++ b) ∧
    aggregate ((aggregate a).map Prod.snd) = aggregate a := by
  -- a whole list is a suffix of itself, and a prefix is aggregated before what follows it
  have hwhole : aggregate (representatives a) = aggregate a :=
    aggregate_append_representatives [] a
  refine ⟨keys_aggregate a, fun g hg => ?_, ?_, aggregate_append_representatives a b, hwhole⟩
  · have hfresh := freshest?_of_mem_aggregate hg
    exact ⟨fun o ho hkey => le_of_freshest? hfresh ho hkey, find?_of_freshest? hfresh⟩
  · change aggregate (representatives a ++ b) = aggregate (a ++ b)
    rw [aggregate_append, hwhole, ← aggregate_append]

/-- Two networks with doubles and equal times, of which one is met again with nothing newer and the
other with something newer, and a network that is met in the second part only. -/
theorem aggregation_in_parts_ties :
    let seen (ssid bssid : String) (time : Int64) : Observation :=
      ⟨ssid, bssid, "", .openAccess, time, none, none⟩
    let a := [seen "Cafe" "a" 10, seen "Bar" "b" 5, seen "Cafe" "c" 20, seen "Bar" "d" 5,
      seen "Cafe" "e" 20]
    let b := [seen "Dock" "f" 1, seen "Cafe" "g" 20, seen "Bar" "h" 6, seen "Dock" "i" 1]
    let g : Group := ((seen "Cafe" "c" 20).key, seen "Cafe" "c" 20)
    g ∈ aggregate a ∧ seen "Cafe" "e" 20 ∈ a ∧
      a.find? (fun o => o.key = g.1 ∧ o.observedAtMillis = g.2.observedAtMillis) = some g.2 ∧
      (aggregate ((aggregate a).map Prod.snd ++ b)).map Prod.snd =
        [seen "Cafe" "c" 20, seen "Bar" "h" 6, seen "Dock" "f" 1] ∧
      aggregate (a ++ (aggregate b).map Prod.snd) =
        aggregate ((aggregate a).map Prod.snd ++ b) := by
  intro seen a b g
  have hmem : g ∈ aggregate a := by decide
  have hparts := aggregation_in_parts a b
  refine ⟨hmem, by decide, (hparts.2.1 g hmem).2, ?_, ?_⟩
  · rw [hparts.2.2.1]
    decide
  · exact hparts.2.2.2.1.trans hparts.2.2.1.symm

end ScanRoster
