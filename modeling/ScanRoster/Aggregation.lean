import ScanRoster.Record

/-!
# Aggregation

One cycle's observations are grouped by network. Of each network the freshest observation is
kept, of two equally fresh ones the first, and networks stand in the order in which they were
first met.
-/

namespace ScanRoster

/-- One network of a cycle with the observation that stands for it. -/
abbrev Group := NetworkKey × Observation

namespace Aggregation

/-- The groups after one more observation: it takes the place of a strictly older one of its
network, and a network not met before goes to the end. -/
def insert (o : Observation) : List Group → List Group
  | [] => [(o.key, o)]
  | (k, kept) :: rest =>
    if k = o.key then
      if kept.observedAtMillis < o.observedAtMillis then (k, o) :: rest else (k, kept) :: rest
    else (k, kept) :: insert o rest

end Aggregation

/-- The networks of a cycle, each with its freshest observation. -/
def aggregate (observations : List Observation) : List Group :=
  observations.foldl (fun groups o => Aggregation.insert o groups) []

end ScanRoster
