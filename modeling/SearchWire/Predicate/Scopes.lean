import SearchWire.Fault
import SearchWire.Predicate.Basic

/-!
# Open collections

A predicate tree under construction: a root collection and the collections opened inside it that
are not closed yet. A new member goes to the innermost open collection, and closing a collection
makes it the last member of the one around it.

* `Scopes`, `Scopes.add`, `Scopes.enter`, `Scopes.leave`;
* `Scopes.depth`, `Scopes.root?`.
-/

namespace SearchWire

/-- A root collection and the open collections inside it, the innermost first. -/
structure Scopes where
  root : Collection := ⟨.all, []⟩
  inner : List Collection := []
deriving Repr

namespace Scopes

/-- Add a member to the innermost open collection. -/
def add (s : Scopes) (t : PredicateTree) : Scopes :=
  match s.inner with
  | [] => { s with root := s.root.add t }
  | c :: outer => { s with inner := c.add t :: outer }

def enter (s : Scopes) (c : Connective) : Scopes := { s with inner := ⟨c, []⟩ :: s.inner }

/-- Close the innermost open collection. -/
def leave (s : Scopes) : Except QueryFault Scopes :=
  match s.inner with
  | [] => .error .nothingToClose
  | c :: outer => .ok ({ s with inner := outer }.add c.tree)

/-- The number of open collections inside the root. -/
def depth (s : Scopes) : Nat := s.inner.length

/-- The root collection, once nothing is open inside it. -/
def root? (s : Scopes) : Except QueryFault Collection :=
  if s.depth = 0 then .ok s.root else .error (.leftOpen s.depth)

end Scopes

end SearchWire
