import SearchWire.Hybrid.Clause
import SearchWire.Hybrid.Fusion
import SearchWire.Hybrid.Refinement

/-!
# Hybrid queries

* `HybridQuery`, `HybridQuery.compile`: the arguments of a hybrid search, the name of the index
  first.
-/

namespace SearchWire

/-- A search in text and vectors at once. -/
structure HybridQuery where
  text : TextClause
  vector : VectorClause
  fusion : Option Fusion := none
  refinement : Option Refinement := none
  params : Bindings Token := []
  /-- Milliseconds. -/
  timeout : Option Nat := none
  cursor : Option CursorOptions := none
deriving DecidableEq, Repr

namespace HybridQuery

def param (q : HybridQuery) (name : String) (value : Token) : HybridQuery :=
  { q with params := .bind name value q.params }

/-- The arguments of a hybrid search, the name of the index first. -/
def compile (q : HybridQuery) (index : String) : Command :=
  (index : Token) ::
    (q.text.tokens ++
      q.vector.tokens ++
      Command.part Fusion.tokens q.fusion ++
      Command.part Refinement.tokens q.refinement ++
      Command.params q.params ++
      Command.number "TIMEOUT" q.timeout ++
      Command.part CursorOptions.tokens q.cursor)

end HybridQuery

end SearchWire
