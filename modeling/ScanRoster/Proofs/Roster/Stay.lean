import ScanRoster.Proofs.Roster.History

/-!
# Stays

An entry stays from the cycle that inserts it until one evicts it, also through cycles in which it
would have been too old without the observation that they bring.  The observations of its stay decide
what it says, and the cycle in which its stay began decides where it stands: entries are listed by
that cycle, and by the place at which their networks were first met in it.  Times may go back; what
an entry says does not, and no two entries change places while both stay.
-/

namespace ScanRoster

namespace History

section

variable (policy : AgePolicy)

/-- The list that readers of a store see after some cycles. -/
def shown (cycles : List Cycle) : Snapshot :=
  ((Store.empty policy).ingestAll cycles).feed.snapshot

/-- The networks that readers see after some cycles, in their order. -/
def keysShown (cycles : List Cycle) : List NetworkKey :=
  (shown policy cycles).map (·.key)

/-- Whether a network is listed, and its stay began with the cycle number `j`, counted from 0: it was
not listed before that cycle, and after every cycle since it was. -/
structure StaysSince (cycles : List Cycle) (k : NetworkKey) (j : Nat) : Prop where
  lt : j < cycles.length
  absent : k ∉ keysShown policy (cycles.take j)
  listed : ∀ n, j < n → n ≤ cycles.length → k ∈ keysShown policy (cycles.take n)

end

/-- Whether the stay of a network, since cycle `j`, began before that of another, since cycle `j'`:
in an earlier cycle, or in the same one, where its network was met first. -/
def BeganBefore (cycles : List Cycle) (k k' : NetworkKey) (j j' : Nat) : Prop :=
  j < j' ∨ j = j' ∧ ∃ c ∈ cycles[j]?, firstMet k c.observations < firstMet k' c.observations

theorem BeganBefore.asymm {cycles : List Cycle} {k k' : NetworkKey} {j j' : Nat}
    (h : BeganBefore cycles k k' j j') : ¬ BeganBefore cycles k' k j' j := by
  rcases h with hlt | ⟨rfl, c, hc, hmet⟩
  · rintro (hlt' | ⟨rfl, -⟩)
    · exact Nat.lt_asymm hlt hlt'
    · exact Nat.lt_irrefl _ hlt
  · rintro (hlt' | ⟨-, c', hc', hmet'⟩)
    · exact Nat.lt_irrefl _ hlt'
    · obtain rfl := Option.some.inj (hc.symm.trans hc')
      exact Nat.lt_asymm hmet hmet'

theorem beganBefore_congr {cycles cycles' : List Cycle} {j j' : Nat}
    (hcycle : cycles[j]? = cycles'[j]?) (k k' : NetworkKey) :
    BeganBefore cycles k k' j j' ↔ BeganBefore cycles' k k' j j' := by
  rw [BeganBefore, BeganBefore, hcycle]

/-- In a list without doubles whose order is that of a relation, the relation says what stands
first. -/
theorem idxOf_lt_idxOf_iff {α : Type} [DecidableEq α] {l : List α} {R : α → α → Prop}
    (hsorted : l.Pairwise R) (hasymm : ∀ a b, R a b → ¬ R b a) {a b : α} (ha : a ∈ l) (hb : b ∈ l) :
    l.idxOf a < l.idxOf b ↔ R a b := by
  have hfirst : ∀ {x y : α}, x ∈ l → y ∈ l → l.idxOf x < l.idxOf y → R x y := by
    intro x y hx hy hlt
    have hget := List.pairwise_iff_getElem.mp hsorted _ _ (List.idxOf_lt_length_iff.mpr hx)
      (List.idxOf_lt_length_iff.mpr hy) hlt
    rwa [List.getElem_idxOf, List.getElem_idxOf] at hget
  refine ⟨hfirst ha hb, fun hR => ?_⟩
  rcases Nat.lt_trichotomy (l.idxOf a) (l.idxOf b) with hlt | heq | hgt
  · exact hlt
  · rw [(List.idxOf_inj ha).mp heq] at hR
    exact absurd hR (hasymm _ _ hR)
  · exact absurd hR (hasymm _ _ (hfirst hb ha hgt))

section

variable (policy : AgePolicy) (cycles : List Cycle)

theorem shown_eq_entries :
    shown policy cycles = ((Store.empty policy).ingestAll cycles).roster.entries :=
  Store.snapshot_ingestAll_empty policy cycles

theorem nodup_keysShown : (keysShown policy cycles).Nodup := by
  rw [keysShown, shown_eq_entries]
  exact Store.nodup_keys_ingestAll policy cycles

theorem shown_concat (c : Cycle) :
    shown policy (cycles ++ [c]) =
      (Roster.placeAll (aggregate c.observations) (shown policy cycles)).2.filter fun e =>
        !isExpired c.nowMillis e.lastSeenMillis (policy.effectiveMaxAge c.succeeded) := by
  rw [shown_eq_entries, shown_eq_entries, Store.ingestAll_concat, Store.roster_ingest,
    Roster.entries_apply, Store.policy_ingestAll_empty]

/-- The networks that are listed after one more cycle are some of those listed before and of those
that are new in it, in this order. -/
theorem keysShown_concat_sublist (c : Cycle) :
    (keysShown policy (cycles ++ [c])).Sublist (keysShown policy cycles ++
      ((aggregate c.observations).map Prod.fst).filter (· ∉ keysShown policy cycles)) := by
  unfold keysShown
  rw [shown_concat, ← Roster.keys_placeAll (nodup_keys_aggregate _)]
  exact List.filter_sublist.map _

variable {policy cycles}

theorem mem_keysShown_iff {k : NetworkKey} :
    k ∈ keysShown policy cycles ↔ ∃ e ∈ shown policy cycles, e.key = k :=
  List.mem_map

theorem entryOf?_shown {e : Entry} (he : e ∈ shown policy cycles) :
    entryOf? e.key (shown policy cycles) = some e :=
  entryOf?_of_mem (nodup_keysShown policy cycles) he

theorem entryOf?_shown_eq_none_iff {k : NetworkKey} :
    entryOf? k (shown policy cycles) = none ↔ k ∉ keysShown policy cycles := by
  rw [entryOf?_eq_none_iff, mem_keysShown_iff]
  simp

/-- A network that is listed after a cycle has the entry that its observations have left. -/
theorem entryOf?_shown_concat {c : Cycle} {k : NetworkKey}
    (hlisted : k ∈ keysShown policy (cycles ++ [c])) :
    entryOf? k (shown policy (cycles ++ [c])) =
      refreshed? k (entryOf? k (shown policy cycles)) (freshest? k c.observations) := by
  obtain ⟨e, he, rfl⟩ := mem_keysShown_iff.mp hlisted
  have hfound := entryOf?_shown he
  rw [shown_eq_entries, Store.ingestAll_concat, Store.roster_ingest,
    Roster.entryOf?_apply (Store.nodup_keys_ingestAll policy _), ← shown_eq_entries] at hfound ⊢
  rw [hfound, (Option.mem_filter_iff.mp hfound).1]

/-! ## When a stay began -/

/-- A stay goes on, or begins with the last cycle. -/
theorem staysSince_concat_iff {c : Cycle} {k : NetworkKey} {j : Nat} :
    StaysSince policy (cycles ++ [c]) k j ↔
      k ∈ keysShown policy (cycles ++ [c]) ∧
        (StaysSince policy cycles k j ∨ j = cycles.length ∧ k ∉ keysShown policy cycles) := by
  -- of the prefixes that a stay looks at, only the last one has the new cycle
  have hlength : (cycles ++ [c]).length = cycles.length + 1 := List.length_append
  have hwhole : (cycles ++ [c]).take (cycles.length + 1) = cycles ++ [c] :=
    List.take_of_length_le (Nat.le_of_eq hlength)
  have hearlier {n : Nat} (hn : n ≤ cycles.length) : (cycles ++ [c]).take n = cycles.take n :=
    List.take_append_of_le_length hn
  constructor
  · rintro ⟨hlt, habsent, hlisted⟩
    rw [hlength] at hlt hlisted
    have hlast := hlisted _ hlt le_rfl
    rw [hwhole] at hlast
    rw [hearlier (Nat.le_of_lt_succ hlt)] at habsent
    refine ⟨hlast, ?_⟩
    rcases Nat.lt_succ_iff_lt_or_eq.mp hlt with hbefore | rfl
    · refine Or.inl ⟨hbefore, habsent, fun n hjn hn => ?_⟩
      have hkept := hlisted n hjn (Nat.le_succ_of_le hn)
      rwa [hearlier hn] at hkept
    · rw [List.take_length] at habsent
      exact Or.inr ⟨rfl, habsent⟩
  · rintro ⟨hlast, ⟨hlt, habsent, hlisted⟩ | ⟨rfl, habsent⟩⟩
    · refine ⟨by omega, ?_, fun n hjn hn => ?_⟩
      · rwa [hearlier (Nat.le_of_lt hlt)]
      · rcases Nat.lt_succ_iff_lt_or_eq.mp (Nat.lt_succ_of_le (hlength ▸ hn)) with hbefore | rfl
        · rw [hearlier (Nat.le_of_lt_succ hbefore)]
          exact hlisted n hjn (Nat.le_of_lt_succ hbefore)
        · rwa [hwhole]
    · refine ⟨by omega, ?_, fun n hjn hn => ?_⟩
      · rwa [hearlier le_rfl, List.take_length]
      · obtain rfl : n = cycles.length + 1 := by omega
        rwa [hwhole]

theorem StaysSince.mem {k : NetworkKey} {j : Nat} (h : StaysSince policy cycles k j) :
    k ∈ keysShown policy cycles := by
  have hlast := h.listed cycles.length h.lt le_rfl
  rwa [List.take_length] at hlast

/-- The part of a stay up to an earlier cycle. -/
theorem StaysSince.take {k : NetworkKey} {j : Nat} (h : StaysSince policy cycles k j) {m : Nat}
    (hjm : j < m) (hm : m ≤ cycles.length) : StaysSince policy (cycles.take m) k j where
  lt := by rwa [List.length_take, Nat.min_eq_left hm]
  absent := by
    rw [List.take_take, Nat.min_eq_left (Nat.le_of_lt hjm)]
    exact h.absent
  listed n hjn hn := by
    rw [List.length_take, Nat.min_eq_left hm] at hn
    rw [List.take_take, Nat.min_eq_left hn]
    exact h.listed n hjn (hn.trans hm)

/-- Every network that is listed has a stay. -/
theorem exists_staysSince {k : NetworkKey} (h : k ∈ keysShown policy cycles) :
    ∃ j, StaysSince policy cycles k j := by
  induction cycles using List.reverseRecOn with
  | nil => exact absurd h List.not_mem_nil
  | append_singleton cycles c ih =>
      by_cases hbefore : k ∈ keysShown policy cycles
      · obtain ⟨j, hstays⟩ := ih hbefore
        exact ⟨j, staysSince_concat_iff.mpr ⟨h, Or.inl hstays⟩⟩
      · exact ⟨_, staysSince_concat_iff.mpr ⟨h, Or.inr ⟨rfl, hbefore⟩⟩⟩

/-- A network has no second stay at the same time. -/
theorem StaysSince.unique {k : NetworkKey} {j j' : Nat} (h : StaysSince policy cycles k j)
    (h' : StaysSince policy cycles k j') : j = j' := by
  rcases Nat.lt_trichotomy j j' with hlt | heq | hgt
  · exact absurd (h.listed j' hlt h'.lt.le) h'.absent
  · exact heq
  · exact absurd (h'.listed j hgt h.lt.le) h.absent

/-! ## What an entry says -/

/-- While a network stays, a store that evicts nothing would say the same of it from the observations
of its stay. -/
theorem entryOf?_of_staysSince {k : NetworkKey} {j : Nat} (h : StaysSince policy cycles k j) :
    entryOf? k (shown policy cycles) = remembered? k (cycles.drop j) := by
  induction cycles using List.reverseRecOn with
  | nil => exact absurd h.lt (Nat.not_lt_zero _)
  | append_singleton cycles c ih =>
      obtain ⟨hlisted, hbefore | ⟨rfl, hnew⟩⟩ := staysSince_concat_iff.mp h
      · rw [List.drop_append_of_le_length hbefore.lt.le, remembered?_concat, ← ih hbefore]
        exact entryOf?_shown_concat hlisted
      · rw [entryOf?_shown_concat hlisted, entryOf?_shown_eq_none_iff.mpr hnew, List.drop_left]
        rfl

theorem tells_of_staysSince {e : Entry} {j : Nat} (he : e ∈ shown policy cycles)
    (h : StaysSince policy cycles e.key j) : Tells e.key (cycles.drop j) e := by
  refine tells_of_remembered? e.key ?_
  rw [← entryOf?_of_staysSince h]
  exact entryOf?_shown he

/-- The observations up to an earlier cycle are among those up to the last. -/
theorem mem_observationsOf_of_take {k : NetworkKey} {j m : Nat} {o : Observation}
    (h : o ∈ observationsOf k ((cycles.take m).drop j)) : o ∈ observationsOf k (cycles.drop j) := by
  have hsplit : cycles.drop j =
      (cycles.take m).drop j ++ (cycles.drop m).drop (j - (cycles.take m).length) := by
    rw [← List.drop_append, List.take_append_drop]
  rw [hsplit, observationsOf, List.flatMap_append, List.filter_append]
  exact List.mem_append_left _ h

/-- While a network stays, the time of its entry does not go back. -/
theorem lastSeenMillis_le_of_staysSince {k : NetworkKey} {j m : Nat}
    (h : StaysSince policy cycles k j) (hjm : j < m) (hm : m ≤ cycles.length) {e e' : Entry}
    (he : e ∈ shown policy (cycles.take m)) (hkey : e.key = k) (he' : e' ∈ shown policy cycles)
    (hkey' : e'.key = k) : e.lastSeenMillis ≤ e'.lastSeenMillis := by
  subst hkey
  have htells := tells_of_staysSince he (h.take hjm hm)
  have htells' := tells_of_staysSince he' (hkey' ▸ h)
  have htime : e.lastSeenMillis = e.representative.observedAtMillis := by
    rw [htells.entry_eq]
    rfl
  rw [htime]
  rw [hkey'] at htells'
  exact htells'.le _ (mem_observationsOf_of_take htells.mem)

/-! ## Where an entry stands -/

/-- Networks are listed in the order in which their stays began. -/
theorem pairwise_keysShown :
    (keysShown policy cycles).Pairwise fun k k' => ∀ j j', StaysSince policy cycles k j →
      StaysSince policy cycles k' j' → BeganBefore cycles k k' j j' := by
  induction cycles using List.reverseRecOn with
  | nil => exact List.Pairwise.nil
  | append_singleton cycles c ih =>
      -- a network that was listed before did not begin with this cycle, and a new one did
      have hold {k : NetworkKey} {j : Nat} (hk : k ∈ keysShown policy cycles)
          (h : StaysSince policy (cycles ++ [c]) k j) : StaysSince policy cycles k j :=
        (staysSince_concat_iff.mp h).2.resolve_right fun hnew => hnew.2 hk
      have hnew {k : NetworkKey} {j : Nat} (hk : k ∉ keysShown policy cycles)
          (h : StaysSince policy (cycles ++ [c]) k j) : j = cycles.length :=
        ((staysSince_concat_iff.mp h).2.resolve_left fun hstays => hk hstays.mem).1
      refine List.Pairwise.sublist (keysShown_concat_sublist policy cycles c) ?_
      refine List.pairwise_append.mpr ⟨?_, ?_, ?_⟩
      · refine ih.imp_of_mem fun hk hk' hbefore j j' hstays hstays' => ?_
        have hstays := hold hk hstays
        rw [beganBefore_congr (List.getElem?_append_left hstays.lt)]
        exact hbefore j j' hstays (hold hk' hstays')
      · refine ((pairwise_firstMet_aggregate c.observations).filter _).imp_of_mem
          fun hk hk' hmet j j' hstays hstays' => ?_
        obtain rfl := hnew (by simpa using (List.mem_filter.mp hk).2) hstays
        obtain rfl := hnew (by simpa using (List.mem_filter.mp hk').2) hstays'
        exact Or.inr ⟨rfl, c, List.getElem?_concat_length, hmet⟩
      · intro k hk k' hk' j j' hstays hstays'
        rw [hnew (by simpa using (List.mem_filter.mp hk').2) hstays']
        exact Or.inl (hold hk hstays).lt

/-- Of two networks that are listed, that one stands first whose stay began first. -/
theorem idxOf_keysShown_lt_iff {k k' : NetworkKey} {j j' : Nat} (h : StaysSince policy cycles k j)
    (h' : StaysSince policy cycles k' j') :
    (keysShown policy cycles).idxOf k < (keysShown policy cycles).idxOf k' ↔
      BeganBefore cycles k k' j j' := by
  have hsorted : (keysShown policy cycles).Pairwise fun k k' => ∃ j j',
      StaysSince policy cycles k j ∧ StaysSince policy cycles k' j' ∧ BeganBefore cycles k k' j j' := by
    refine pairwise_keysShown.imp_of_mem fun hk hk' hbefore => ?_
    obtain ⟨j, hstays⟩ := exists_staysSince hk
    obtain ⟨j', hstays'⟩ := exists_staysSince hk'
    exact ⟨j, j', hstays, hstays', hbefore j j' hstays hstays'⟩
  rw [idxOf_lt_idxOf_iff hsorted ?_ h.mem h'.mem]
  · constructor
    · rintro ⟨i, i', hi, hi', hbefore⟩
      rwa [h.unique hi, h'.unique hi']
    · exact fun hbefore => ⟨j, j', h, h', hbefore⟩
  · rintro a b ⟨i, i', hi, hi', hbefore⟩ ⟨l', l, hl', hl, hafter⟩
    rw [← hi.unique hl, ← hi'.unique hl'] at hafter
    exact hbefore.asymm hafter

/-- While two networks stay, the one that stands before the other keeps standing before it. -/
theorem idxOf_keysShown_take_lt_iff {k k' : NetworkKey} {j j' m : Nat}
    (h : StaysSince policy cycles k j) (h' : StaysSince policy cycles k' j') (hjm : j < m)
    (hjm' : j' < m) (hm : m ≤ cycles.length) :
    (keysShown policy (cycles.take m)).idxOf k < (keysShown policy (cycles.take m)).idxOf k' ↔
      (keysShown policy cycles).idxOf k < (keysShown policy cycles).idxOf k' := by
  rw [idxOf_keysShown_lt_iff (h.take hjm hm) (h'.take hjm' hm), idxOf_keysShown_lt_iff h h']
  exact beganBefore_congr (List.getElem?_take_of_lt hjm) k k'

end

/-- After any cycles, whatever their times, every entry has one stay.  It was seen last at the latest
time of the observations of its network since the cycle in which its stay began, and is represented
by the first observation with this time in the latest of these cycles that has one.  Entries are
listed in the order in which their stays began, those of one cycle in the order in which their
networks were met first in it.  So while an entry stays its time does not go back, and while two stay
they do not change places. -/
theorem stay_decides_entry_and_place (policy : AgePolicy) (cycles : List Cycle) :
    (∀ e ∈ shown policy cycles, ∃! j, StaysSince policy cycles e.key j) ∧
    (∀ e ∈ shown policy cycles, ∀ j, StaysSince policy cycles e.key j →
      Tells e.key (cycles.drop j) e) ∧
    (shown policy cycles).Pairwise (fun e e' => ∃ j j', StaysSince policy cycles e.key j ∧
      StaysSince policy cycles e'.key j' ∧ BeganBefore cycles e.key e'.key j j') ∧
    (∀ k j, StaysSince policy cycles k j → ∀ m, j < m → m ≤ cycles.length →
      ∀ e ∈ shown policy (cycles.take m), ∀ e' ∈ shown policy cycles, e.key = k → e'.key = k →
      e.lastSeenMillis ≤ e'.lastSeenMillis) ∧
    (∀ k k' j j', StaysSince policy cycles k j → StaysSince policy cycles k' j' →
      ∀ m, j < m → j' < m → m ≤ cycles.length →
      ((keysShown policy (cycles.take m)).idxOf k < (keysShown policy (cycles.take m)).idxOf k' ↔
        (keysShown policy cycles).idxOf k < (keysShown policy cycles).idxOf k')) := by
  have hstay : ∀ e ∈ shown policy cycles, ∃ j, StaysSince policy cycles e.key j :=
    fun e he => exists_staysSince (mem_keysShown_iff.mpr ⟨e, he, rfl⟩)
  refine ⟨fun e he => ?_, fun e he j h => tells_of_staysSince he h, ?_, ?_, ?_⟩
  · obtain ⟨j, h⟩ := hstay e he
    exact ⟨j, h, fun j' h' => h'.unique h⟩
  · refine (List.pairwise_map.mp pairwise_keysShown).imp_of_mem fun he he' hbefore => ?_
    obtain ⟨j, h⟩ := hstay _ he
    obtain ⟨j', h'⟩ := hstay _ he'
    exact ⟨j, j', h, h', hbefore j j' h h'⟩
  · intro k j h m hjm hm e he e' he' hkey hkey'
    exact lastSeenMillis_le_of_staysSince h hjm hm he hkey he' hkey'
  · intro k k' j j' h h' m hjm hjm' hm
    exact idxOf_keysShown_take_lt_iff h h' hjm hjm' hm

/-- A network that is seen again in the cycle that would have evicted it keeps its place; one that
comes back after its eviction goes to the end. -/
example :
    let seen (ssid : String) (time : Int64) : Observation :=
      ⟨ssid, "a", "", .openAccess, time, none, none⟩
    let shown := shown ⟨.ofSeconds 15, .ofSeconds 10⟩
      [⟨[seen "Bar" 0, seen "Cafe" 0], true, 0⟩,
        ⟨[seen "Pier" 20000, seen "Cafe" 20000], true, 20000⟩, ⟨[seen "Bar" 21000], true, 21000⟩]
    shown.map (·.key.ssid) = ["Cafe", "Pier", "Bar"] := by
  decide +kernel

end History

end ScanRoster
