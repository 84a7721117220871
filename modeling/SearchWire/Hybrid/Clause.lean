import SearchWire.Command

/-!
# Halves of a hybrid query

A hybrid query searches text and vectors at once.

* `TextClause`: the search in text;
* `VectorMethod`, `VectorClause`: the search by similarity of vectors.
-/

namespace SearchWire

/-- The search in text. -/
structure TextClause where
  query : String
  scorer : Option String := none
  /-- The name under which the score is given. -/
  scoreAlias : Option String := none
deriving DecidableEq, Repr

def TextClause.tokens (c : TextClause) : Command :=
  "SEARCH" :: c.query ::
    (Command.text "SCORER" c.scorer ++ Command.text "YIELD_SCORE_AS" c.scoreAlias)

inductive VectorMethod where
  | knn
  | range
deriving DecidableEq, Repr

def VectorMethod.keyword : VectorMethod → String
  | .knn => "KNN"
  | .range => "RANGE"

/-- The search by similarity of vectors. -/
structure VectorClause where
  field : String
  /-- A vector, or the name of a parameter that holds one. -/
  vector : Token
  /-- The method and its parameters. -/
  method : Option (VectorMethod × List (String × Token)) := none
  filter : Option String := none
  /-- The name under which the score is given. -/
  scoreAlias : Option String := none
deriving DecidableEq, Repr

namespace VectorClause

/-- A clause with a method, which counts only if its parameters are given too. -/
def withMethod (field : String) (vector : Token) (method : Option VectorMethod)
    (params : Option (List (String × Token))) : VectorClause where
  field
  vector
  method := match method, params with
    | some method, some params => some (method, params)
    | _, _ => none

def methodTokens (m : VectorMethod × List (String × Token)) : Command :=
  Command.table m.1.keyword m.2

def tokens (c : VectorClause) : Command :=
  "VSIM" :: c.field :: c.vector ::
    (Command.part methodTokens c.method ++
      Command.text "FILTER" c.filter ++
      Command.text "YIELD_SCORE_AS" c.scoreAlias)

end VectorClause

end SearchWire
