import SearchWire.Query.Call

/-!
# Overrides

What one search changes about its query. All that is given here wins over the query.

* `Overrides`, `Overrides.param`, `Overrides.apply`.
-/

namespace SearchWire

/-- Changes to a query for one search. -/
structure Overrides where
  dialect : Option Nat := none
  params : List (String × Token) := []
  sortBy : Option (String × Option SortOrder) := none
  limit : Option (Nat × Nat) := none
  returned : Option (List String) := none
  ids : Option (List String) := none
  timeout : Option Nat := none
  language : Option String := none
  scorer : Option String := none
deriving DecidableEq, Repr

def Overrides.param (o : Overrides) (name : String) (value : Token) : Overrides :=
  { o with params := o.params ++ [(name, value)] }

/-- The query with the changes made. Lists are replaced whole, and parameters are bound again. -/
def Overrides.apply (o : Overrides) (q : Query) : Query :=
  { q with
    returned := (o.returned.map fun fields => fields.map (·, none)).getD q.returned
    inKeys := o.ids.getD q.inKeys
    params := Bindings.bindAll q.params o.params
    dialect := o.dialect <|> q.dialect
    sortBy := o.sortBy <|> q.sortBy
    limit := o.limit <|> q.limit
    timeout := o.timeout <|> q.timeout
    language := o.language <|> q.language
    scorer := o.scorer <|> q.scorer }

end SearchWire
