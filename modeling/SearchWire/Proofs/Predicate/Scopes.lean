import Mathlib.Data.List.ModifyLast
import SearchWire.Predicate.Scopes
import SearchWire.Proofs.Predicate.Tree

/-!
# The stack of open collections

A root collection and the collections open inside it behave as a list from which the root is never
taken. Opening and closing collections moves predicates between them and never loses or reorders
them.

* `Scopes.leaves`: the predicates of a root collection and of the collections open inside it;
  `Scopes.leaves_add`, `Scopes.leaves_enter`, `Scopes.leaves_leave`;
* `Scopes.Op`, `Scopes.step`, `Scopes.after`: operations as data, where a close that fails is
  passed over;
* `Scopes.stack`, `Scopes.Op.onList`: the same on a bare list of collections;
  `Scopes.stack_step` (one operation), `Scopes.stack_after` (a run);
* **`Scopes.accounted_after`**.
-/

namespace SearchWire

namespace Scopes

/-! ## One operation -/

/-- The predicates of the root collection and of the open ones, the innermost last. -/
def leaves (s : Scopes) : List Predicate :=
  s.root.tree.leaves ++ s.inner.reverse.flatMap fun c => c.tree.leaves

theorem leaves_tree_add (c : Collection) (t : PredicateTree) :
    (c.add t).tree.leaves = c.tree.leaves ++ t.leaves := by
  simp [Collection.add, Collection.tree]

theorem leaves_add (s : Scopes) (t : PredicateTree) : (s.add t).leaves = s.leaves ++ t.leaves := by
  obtain ⟨root, _ | ⟨c, outer⟩⟩ := s
  · simp [add, leaves, leaves_tree_add]
  · simp [add, leaves, leaves_tree_add]

theorem leaves_enter (s : Scopes) (c : Connective) : (s.enter c).leaves = s.leaves := by
  simp [enter, leaves, Collection.tree]

theorem leaves_leave {s s' : Scopes} (h : s.leave = .ok s') : s'.leaves = s.leaves := by
  obtain ⟨root, _ | ⟨c, outer⟩⟩ := s
  · cases h
  · cases h
    rw [leaves_add]
    simp [leaves]

theorem depth_add (s : Scopes) (t : PredicateTree) : (s.add t).depth = s.depth := by
  obtain ⟨root, _ | ⟨c, outer⟩⟩ := s <;> rfl

theorem depth_leave {s s' : Scopes} (h : s.leave = .ok s') : s.depth = s'.depth + 1 := by
  obtain ⟨root, _ | ⟨c, outer⟩⟩ := s
  · cases h
  · cases h
    rw [depth_add]
    rfl

theorem leave_eq_error_iff {s : Scopes} {fault : QueryFault} :
    s.leave = .error fault ↔ s.inner = [] ∧ fault = .nothingToClose := by
  obtain ⟨root, _ | ⟨c, outer⟩⟩ := s <;> simp [leave, eq_comm]

theorem root?_eq_ok_iff {s : Scopes} {root : Collection} :
    s.root? = .ok root ↔ s.inner = [] ∧ s.root = root := by
  obtain ⟨root', _ | ⟨c, outer⟩⟩ := s
  · simp [root?, depth]
  · simp [root?, depth]

/-! ## Operations as data -/

/-- An operation on open collections. -/
inductive Op where
  /-- Add a member to the innermost open collection. -/
  | add (t : PredicateTree)
  | enter (c : Connective)
  | leave

namespace Op

/-- The collections after an operation, unless it fails. -/
def perform (s : Scopes) : Op → Except QueryFault Scopes
  | add t => .ok (s.add t)
  | enter c => .ok (s.enter c)
  | leave => s.leave

def leaves : Op → List Predicate
  | add t => t.leaves
  | _ => []

def opened : Op → Nat
  | enter _ => 1
  | _ => 0

/-- The number of collections that an operation closes; a close that fails closes none. -/
def closed (s : Scopes) : Op → Nat
  | leave =>
    match s.leave with
    | .ok _ => 1
    | .error _ => 0
  | _ => 0

/-- An operation on a bare list of collections, the innermost last. A close takes the last
collection off and adds it to the one before; it leaves the list as it is if that would empty it. -/
def onList (cs : List Collection) : Op → List Collection
  | add t => cs.modifyLast (·.add t)
  | enter c => cs ++ [⟨c, []⟩]
  | leave =>
    if cs.length < 2 then cs
    else match cs.getLast? with
      | none => cs
      | some finished => cs.dropLast.modifyLast (·.add finished.tree)

end Op

/-- The collections after an operation; one that fails is passed over. -/
def step (s : Scopes) (op : Op) : Scopes :=
  match op.perform s with
  | .ok s' => s'
  | .error _ => s

def after (s : Scopes) (ops : List Op) : Scopes := ops.foldl step s

def openings (ops : List Op) : Nat := ops.foldr (fun op n => op.opened + n) 0

/-- The number of collections that some operations close. -/
def closings (s : Scopes) : List Op → Nat
  | [] => 0
  | op :: ops => op.closed s + closings (s.step op) ops

theorem leaves_step (s : Scopes) (op : Op) : (s.step op).leaves = s.leaves ++ op.leaves := by
  cases op with
  | add t => exact s.leaves_add t
  | enter c => exact (s.leaves_enter c).trans (List.append_nil _).symm
  | leave =>
    cases h : s.leave with
    | ok s' =>
      rw [step, Op.perform, h]
      exact (leaves_leave h).trans (List.append_nil _).symm
    | error fault =>
      rw [step, Op.perform, h]
      exact (List.append_nil _).symm

theorem depth_step (s : Scopes) (op : Op) :
    (s.step op).depth + op.closed s = s.depth + op.opened := by
  cases op with
  | add t => exact s.depth_add t
  | enter c => rfl
  | leave =>
    cases h : s.leave with
    | ok s' =>
      have hdepth := depth_leave h
      simp [step, Op.perform, h, Op.closed, Op.opened, hdepth]
    | error fault =>
      have hdepth : s.depth = 0 := congrArg List.length (leave_eq_error_iff.mp h).1
      simp [step, Op.perform, h, Op.closed, Op.opened, hdepth]

/-- **No predicate is lost, repeated or moved past another one.** -/
theorem leaves_after (s : Scopes) (ops : List Op) :
    (s.after ops).leaves = s.leaves ++ ops.flatMap Op.leaves := by
  induction ops generalizing s with
  | nil => exact (List.append_nil _).symm
  | cons op ops ih =>
    rw [after, List.foldl_cons, ← after, ih, leaves_step, List.flatMap_cons, List.append_assoc]

theorem depth_after (s : Scopes) (ops : List Op) :
    (s.after ops).depth + s.closings ops = s.depth + openings ops := by
  induction ops generalizing s with
  | nil => rfl
  | cons op ops ih =>
    have hop := s.depth_step op
    have hops := ih (s.step op)
    rw [after, List.foldl_cons, ← after, closings, openings, List.foldr_cons, ← openings]
    omega

/-! ## A bare list -/

/-- The root collection and the open ones inside it, the innermost last. -/
def stack (s : Scopes) : List Collection := s.root :: s.inner.reverse

theorem stack_ne_nil (s : Scopes) : s.stack ≠ [] := List.cons_ne_nil _ _

theorem length_stack (s : Scopes) : s.stack.length = s.depth + 1 := by simp [stack, depth]

theorem leaves_eq_flatMap (s : Scopes) : s.leaves = s.stack.flatMap fun c => c.tree.leaves := rfl

theorem stack_of_inner (root c : Collection) (outer : List Collection) :
    (⟨root, c :: outer⟩ : Scopes).stack = (⟨root, outer⟩ : Scopes).stack ++ [c] := by
  simp [stack]

theorem stack_add (s : Scopes) (t : PredicateTree) :
    (s.add t).stack = s.stack.modifyLast (·.add t) := by
  obtain ⟨root, _ | ⟨c, outer⟩⟩ := s
  · exact (List.modifyLast_concat (·.add t) root []).symm
  · rw [stack_of_inner, List.modifyLast_concat, add, stack_of_inner]

/-- **An operation does to the open collections what it does to a bare list.** -/
theorem stack_step (s : Scopes) (op : Op) : (s.step op).stack = op.onList s.stack := by
  cases op with
  | add t => exact s.stack_add t
  | enter c => exact stack_of_inner s.root ⟨c, []⟩ s.inner
  | leave =>
    obtain ⟨root, _ | ⟨c, outer⟩⟩ := s
    · rfl
    · have hlength : ¬ ((⟨root, outer⟩ : Scopes).stack ++ [c]).length < 2 := by
        rw [List.length_append, length_stack, List.length_singleton]
        omega
      rw [stack_of_inner, Op.onList, if_neg hlength, List.getLast?_concat, List.dropLast_concat]
      exact stack_add ⟨root, outer⟩ c.tree

theorem stack_after (s : Scopes) (ops : List Op) :
    (s.after ops).stack = ops.foldl Op.onList s.stack := by
  induction ops generalizing s with
  | nil => rfl
  | cons op ops ih =>
    rw [after, List.foldl_cons, ← after, ih, stack_step, List.foldl_cons]

/-! ## The account of a run -/

/-- How the collections that are open after some operations on a root collection come about. -/
structure Accounted (root : Collection) (ops : List Op) (s : Scopes) : Prop where
  stack_eq : s.stack = ops.foldl Op.onList [root]
  /-- There is always one, so one can be taken from their number, and the outermost is the root. -/
  not_empty : s.stack ≠ [] ∧ s.stack.length = s.depth + 1 ∧ s.stack.head? = some s.root
  depth_eq : s.depth + (⟨root, []⟩ : Scopes).closings ops = openings ops
  leave_fails : (∃ fault, s.leave = .error fault) ↔ s.depth = 0
  leave_keeps : s.depth = 0 → s.step .leave = s
  has_root : (∃ c, s.root? = .ok c) ↔ s.depth = 0
  root_eq : ∀ c, s.root? = .ok c → s.stack.head? = some c
  /-- From the outermost to the innermost they hold the predicates that the root had at first, and
  then those that were added, in order. -/
  leaves_eq : (s.stack.flatMap fun c => c.tree.leaves) = root.tree.leaves ++ ops.flatMap Op.leaves

/-- **The open collections never run out, and every predicate is kept in its place.** -/
theorem accounted_after (root : Collection) (ops : List Op) :
    Accounted root ops ((⟨root, []⟩ : Scopes).after ops) := by
  have hfails : ∀ s : Scopes, (∃ fault, s.leave = .error fault) ↔ s.depth = 0 := fun s => by
    simp [leave_eq_error_iff, depth]
  refine ⟨stack_after _ ops, ⟨stack_ne_nil _, length_stack _, rfl⟩, ?_, hfails _, fun h => ?_, ?_,
    fun c hc => ?_, ?_⟩
  · rw [depth_after]
    exact Nat.zero_add _
  · obtain ⟨fault, hfault⟩ := (hfails _).mpr h
    rw [step, Op.perform, hfault]
  · simp [root?_eq_ok_iff, depth]
  · rw [← (root?_eq_ok_iff.mp hc).2]
    rfl
  · rw [← leaves_eq_flatMap, leaves_after]
    simp [leaves]

end Scopes

end SearchWire
