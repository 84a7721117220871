import SearchWire.Query.Basic

/-!
# Building queries

The steps that build a query, as data, so that a sequence of them is a list.

* `Query.Call`: one step; `within` opens a collection, runs steps and closes it;
* `Query.call`, `Query.callAll`.
-/

namespace SearchWire

/-- A step that builds a query. -/
inductive Query.Call where
  /-- Add a predicate or a collection to the innermost open collection. -/
  | predicate (t : PredicateTree)
  | enter (c : Connective)
  | leave
  /-- Steps inside a new collection. -/
  | within (c : Connective) (calls : List Query.Call)
  | noContent
  | verbatim
  | noStopwords
  | withPayloads
  | withScores
  | inOrder
  | scorer (name : String)
  | inFields (fields : List String)
  | limitIds (ids : List String)
  | filter (f : NumericFilter)
  | geoFilter (g : GeoFilter)
  | returnField (field : String)
  | returnAs (field asName : String)
  | returnFields (fields : List String)
  | summarize (s : Summary)
  | highlight (h : Highlight)
  | slop (n : Nat)
  | timeout (millis : Nat)
  | language (name : String)
  | expander (name : String)
  | sortBy (field : String) (order : Option SortOrder)
  | limit (offset count : Nat)
  | param (name : String) (value : Token)
  | dialect (n : Nat)
deriving Inhabited

namespace Query

/-- Open a collection. -/
def enter (q : Query) (c : Connective) : Query := { q with scopes := q.scopes.enter c }

/-- Close the innermost open collection. Where none is open the query stays as it is, but for the
mark that it is unbalanced. -/
def leave (q : Query) : Query :=
  match q.scopes.leave with
  | .ok scopes => { q with scopes }
  | .error _ => { q with unbalanced := true }

/-- Return more fields. -/
def addReturned (q : Query) (fields : List (String × Option String)) : Query :=
  { q with returned := q.returned ++ fields }

mutual

/-- The query after one step. -/
def call (q : Query) : Call → Query
  | .predicate t => { q with scopes := q.scopes.add t }
  | .enter c => q.enter c
  | .leave => q.leave
  | .within c calls => (callAll (q.enter c) calls).leave
  | .noContent => { q with noContent := true }
  | .verbatim => { q with verbatim := true }
  | .noStopwords => { q with noStopwords := true }
  | .withPayloads => { q with withPayloads := true }
  | .withScores => { q with withScores := true }
  | .inOrder => { q with inOrder := true }
  | .scorer name => { q with scorer := some name }
  | .inFields fields => { q with inFields := q.inFields ++ fields }
  | .limitIds ids => { q with inKeys := q.inKeys ++ ids }
  | .filter f => { q with filters := q.filters ++ [f] }
  | .geoFilter g => { q with geoFilters := q.geoFilters ++ [g] }
  | .returnField field => q.addReturned [(field, none)]
  | .returnAs field asName => q.addReturned [(field, some asName)]
  | .returnFields fields => q.addReturned (fields.map (·, none))
  | .summarize s => { q with summary := some s }
  | .highlight h => { q with highlight := some h }
  | .slop n => { q with slop := some n }
  | .timeout millis => { q with timeout := some millis }
  | .language name => { q with language := some name }
  | .expander name => { q with expander := some name }
  | .sortBy field order => { q with sortBy := some (field, order) }
  | .limit offset count => { q with limit := some (offset, count) }
  | .param name value => { q with params := .bind name value q.params }
  | .dialect n => { q with dialect := some n }

/-- The query after some steps. -/
def callAll (q : Query) : List Call → Query
  | [] => q
  | c :: calls => callAll (call q c) calls

end

end Query

end SearchWire
