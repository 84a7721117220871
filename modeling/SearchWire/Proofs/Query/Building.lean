import SearchWire.Proofs.Predicate.Scopes
import SearchWire.Proofs.Steps
import SearchWire.Query.Call

/-!
# Building a query

What the steps that build a query do to its predicates. Opening and closing collections moves
predicates between collections and never loses or reorders them.

* `Query.Call.leaves`: the predicates that a step adds;
* **`Query.leaves_callAll`**, `Query.base_callAll`: all steps;
* `Query.text_eq_ok_iff`: when a query has a text, and which.
-/

namespace SearchWire

/-! ## Steps -/

namespace Query

mutual

/-- The predicates that a step adds, from left to right. -/
def Call.leaves : Call → List Predicate
  | .predicate t => t.leaves
  | .within _ calls => Call.leavesAll calls
  | _ => []

/-- The predicates that some steps add, from left to right. -/
def Call.leavesAll : List Call → List Predicate
  | [] => []
  | c :: calls => c.leaves ++ Call.leavesAll calls

end

theorem leaves_leave (q : Query) : q.leave.scopes.leaves = q.scopes.leaves := by
  unfold leave
  cases h : q.scopes.leave with
  | ok s => exact Scopes.leaves_leave h
  | error e => rfl

theorem base_leave (q : Query) : q.leave.base = q.base := by
  unfold leave
  cases q.scopes.leave <;> rfl

mutual

theorem leaves_call (q : Query) (c : Call) :
    (q.call c).scopes.leaves = q.scopes.leaves ++ c.leaves := by
  cases c with
  | predicate t => exact Scopes.leaves_add q.scopes t
  | enter c => exact (Scopes.leaves_enter q.scopes c).trans (List.append_nil _).symm
  | leave => exact q.leaves_leave.trans (List.append_nil _).symm
  | within c calls =>
    rw [call, leaves_leave, leaves_callAll, Call.leaves]
    exact congrArg (· ++ _) (Scopes.leaves_enter q.scopes c)
  | _ => exact (List.append_nil _).symm

/-- **A query holds exactly the predicates that were added to it,** in the order in which they were
added, whatever was opened and closed in between. -/
theorem leaves_callAll (q : Query) (calls : List Call) :
    (q.callAll calls).scopes.leaves = q.scopes.leaves ++ Call.leavesAll calls := by
  cases calls with
  | nil => exact (List.append_nil _).symm
  | cons c calls =>
    rw [callAll, leaves_callAll, leaves_call, Call.leavesAll, List.append_assoc]

end

mutual

theorem base_call (q : Query) (c : Call) : (q.call c).base = q.base := by
  cases c with
  | leave => exact q.base_leave
  | within c calls =>
    rw [call, base_leave, base_callAll]
    rfl
  | _ => rfl

theorem base_callAll (q : Query) (calls : List Call) : (q.callAll calls).base = q.base := by
  cases calls with
  | nil => rfl
  | cons c calls => rw [callAll, base_callAll, base_call]

end

/-! ## The query string -/

/-- The query string of a root collection that refines a text. -/
def textOver (base : Option String) (root : Collection) : String :=
  match base, root.isEmpty with
  | some base, false => base ++ " " ++ root.render
  | base, _ => root.queryText base

theorem text_eq_ok_iff (q : Query) (s : String) : q.text = .ok s ↔
    q.unbalanced = false ∧ q.scopes.inner = [] ∧ textOver q.base q.scopes.root = s := by
  unfold text
  cases q.unbalanced with
  | true => simp
  | false =>
    simp only [Bool.false_eq_true, if_false, bind_eq_ok_iff, Scopes.root?_eq_ok_iff]
    cases q.base <;> cases he : q.scopes.root.isEmpty <;>
      simp [he, textOver, pure, Except.pure]

end Query

end SearchWire
