import SearchWire.Aggregate.Pipeline

/-!
# Refinement of hybrid results

What happens to the results once their scores are fused.

* `Refinement`, with the steps that add to it;
* `Refinement.tokens`: load, group, apply, sort, filter, limit, in whatever order they were given.
-/

namespace SearchWire

/-- The steps after fusion, each at most once. -/
structure Refinement where
  load : Option Load := none
  groupBy : Option (List String × List Reducer) := none
  /-- Expressions under names, each after its name. -/
  apply : List (String × String) := []
  sortBy : List (String × SortOrder) := []
  filter : Option String := none
  limit : Option (Nat × Nat) := none
deriving DecidableEq, Repr

namespace Refinement

/-- Load some fields; no field at all means everything. -/
def loadFields (r : Refinement) (names : List String) : Refinement :=
  { r with load := some (.ofFields names) }

/-- One more expression under a name. -/
def addApply (r : Refinement) (name expression : String) : Refinement :=
  { r with apply := r.apply ++ [(name, expression)] }

/-- One more field to sort by, after those before it. -/
def addSort (r : Refinement) (field : String) (order : SortOrder) : Refinement :=
  { r with sortBy := r.sortBy ++ [(field, order)] }

def orderTokens (key : String × SortOrder) : Command := [key.1, key.2.keyword]

/-- Two tokens for each key. -/
theorem length_flatMap_orderTokens (keys : List (String × SortOrder)) :
    (keys.flatMap orderTokens).length = keys.length * 2 := by
  simp [List.length_flatMap, orderTokens, List.map_const']

/-- The fields to sort by after twice their number, if there are any. -/
def sortTokens (keys : List (String × SortOrder)) : Command :=
  if keys.isEmpty then [] else "SORTBY" :: .ofNat (keys.length * 2) :: keys.flatMap orderTokens

theorem sortTokens_eq_listing (keys : List (String × SortOrder)) :
    sortTokens keys = Command.listing "SORTBY" (keys.flatMap orderTokens) := by
  cases keys with
  | nil => rfl
  | cons k keys =>
    rw [sortTokens, ← length_flatMap_orderTokens]
    rfl

def tokens (r : Refinement) : Command :=
  Command.part Load.tokens r.load ++
  Command.part (fun g => groupTokens g.1 g.2) r.groupBy ++
  r.apply.flatMap applyTokens ++
  sortTokens r.sortBy ++
  Command.text "FILTER" r.filter ++
  Command.part limitTokens r.limit

end Refinement

end SearchWire
