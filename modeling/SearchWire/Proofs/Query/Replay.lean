import SearchWire.Proofs.Query.Balance

/-!
# Trees built step by step

Opening a collection, building its members one after another and closing it gives what adding the
finished collection gives, however deep it is and whatever is open around it.

* `PredicateTree.ops`: the operations that build a tree;
* `PredicateTree.performAll_ops`, `PredicateTree.performAll_opsAll`: what they do, by induction on
  the tree from any open collections;
* `Query.Call.ofOp`, `Query.callAll_map_ofOp`: the same operations on a query;
* `PredicateTree.nested`, `Query.Replays`: trees built by steps inside collections, and by both
  kinds of steps in any mixture;
* **`Query.replayed`**.
-/

namespace SearchWire

/-! ## Operations that build a tree -/

namespace PredicateTree

mutual

/-- The operations that build a tree member by member. -/
def ops : PredicateTree → List Scopes.Op
  | leaf p => [.add (leaf p)]
  | group c children => .enter c :: (opsAll children ++ [.leave])

def opsAll : List PredicateTree → List Scopes.Op
  | [] => []
  | t :: rest => ops t ++ opsAll rest

end

end PredicateTree

namespace Scopes

/-- The collections after some operations, unless one of them fails. -/
def performAll (s : Scopes) (ops : List Op) : Except QueryFault Scopes := ops.foldlM Op.perform s

theorem performAll_append {s s' : Scopes} {ops : List Op} (h : s.performAll ops = .ok s')
    (ops' : List Op) : s.performAll (ops ++ ops') = s'.performAll ops' := by
  rw [performAll, List.foldlM_append, ← performAll, h]
  rfl

theorem performAll_cons {s s' : Scopes} {op : Op} (h : op.perform s = .ok s') (ops : List Op) :
    s.performAll (op :: ops) = s'.performAll ops := by
  rw [performAll, List.foldlM_cons, h]
  rfl

def addAll (s : Scopes) (ts : List PredicateTree) : Scopes := ts.foldl add s

theorem addAll_inner (root c : Collection) (outer : List Collection) (ts : List PredicateTree) :
    (⟨root, c :: outer⟩ : Scopes).addAll ts =
      ⟨root, ⟨c.connective, c.children ++ ts⟩ :: outer⟩ := by
  induction ts generalizing c with
  | nil => simp [addAll]
  | cons t ts ih =>
    rw [addAll, List.foldl_cons, ← addAll, add, ih]
    simp [Collection.add]

theorem addAll_root (root : Collection) (ts : List PredicateTree) :
    (⟨root, []⟩ : Scopes).addAll ts = ⟨⟨root.connective, root.children ++ ts⟩, []⟩ := by
  induction ts generalizing root with
  | nil => simp [addAll]
  | cons t ts ih =>
    rw [addAll, List.foldl_cons, ← addAll, add, ih]
    simp [Collection.add]

end Scopes

namespace PredicateTree

open Scopes

mutual

/-- **The operations of a tree add the tree,** to the innermost collection that is open before. -/
theorem performAll_ops (t : PredicateTree) (s : Scopes) :
    s.performAll t.ops = .ok (s.add t) := by
  cases t with
  | leaf p => rfl
  | group c children =>
    have henter : (Op.enter c).perform s = .ok (s.enter c) := rfl
    -- The collection that was opened holds the members, and closing it takes it off again.
    have hmembers : (s.enter c).performAll (opsAll children) =
        .ok ⟨s.root, ⟨c, children⟩ :: s.inner⟩ := by
      rw [performAll_opsAll, Scopes.enter, addAll_inner]
      rfl
    rw [ops, performAll_cons henter, performAll_append hmembers]
    rfl

theorem performAll_opsAll (ts : List PredicateTree) (s : Scopes) :
    s.performAll (opsAll ts) = .ok (s.addAll ts) := by
  cases ts with
  | nil => rfl
  | cons t ts =>
    rw [opsAll, performAll_append (performAll_ops t s), performAll_opsAll]
    rfl

end

end PredicateTree

/-! ## Queries -/

namespace Query

/-- An operation as a step that builds a query. -/
def Call.ofOp : Scopes.Op → Call
  | .add t => .predicate t
  | .enter c => .enter c
  | .leave => .leave

theorem callAll_map_ofOp (q : Query) {ops : List Scopes.Op} {s : Scopes}
    (h : q.scopes.performAll ops = .ok s) :
    q.callAll (ops.map Call.ofOp) = { q with scopes := s } := by
  induction ops generalizing q with
  | nil =>
    cases h
    rfl
  | cons op ops ih =>
    obtain ⟨s', hop, hops⟩ := bind_eq_ok_iff.mp h
    have hcall : q.call (Call.ofOp op) = { q with scopes := s' } := by
      cases op with
      | add t => cases hop; rfl
      | enter c => cases hop; rfl
      | leave =>
        change q.leave = _
        rw [leave, show q.scopes.leave = .ok s' from hop]
    rw [List.map_cons, callAll, hcall]
    exact ih { q with scopes := s' } hops

end Query

namespace PredicateTree

open Query

mutual

/-- A tree as one step: its members are built inside a new collection. -/
def nested : PredicateTree → Call
  | leaf p => .predicate (leaf p)
  | group c children => .within c (nestedAll children)

def nestedAll : List PredicateTree → List Call
  | [] => []
  | t :: rest => nested t :: nestedAll rest

end

mutual

theorem expand_nested (t : PredicateTree) : t.nested.expand = t.ops.map Call.ofOp := by
  cases t with
  | leaf p => rfl
  | group c children =>
    rw [nested, Call.expand, expandAll_nestedAll, ops, List.map_cons, List.map_append]
    rfl

theorem expandAll_nestedAll (ts : List PredicateTree) :
    Call.expandAll (nestedAll ts) = (opsAll ts).map Call.ofOp := by
  cases ts with
  | nil => rfl
  | cons t ts =>
    rw [nestedAll, Call.expandAll, expand_nested, expandAll_nestedAll, opsAll, List.map_append]

end

end PredicateTree

namespace Query

/-- Steps that build some trees member by member. A collection in a tree is opened and closed, or
its members are built by steps inside it. -/
def Replays (ts : List PredicateTree) (calls : List Call) : Prop :=
  Call.expandAll calls = (PredicateTree.opsAll ts).map Call.ofOp

theorem replays_nestedAll (ts : List PredicateTree) : Replays ts (PredicateTree.nestedAll ts) :=
  PredicateTree.expandAll_nestedAll ts

theorem replays_map_ofOp (ts : List PredicateTree) :
    Replays ts ((PredicateTree.opsAll ts).map Call.ofOp) := by
  unfold Replays
  generalize PredicateTree.opsAll ts = ops
  induction ops with
  | nil => rfl
  | cons op ops ih =>
    rw [List.map_cons, Call.expandAll, ih]
    cases op <;> rfl

/-- A query without predicates holds some trees once it was built from them step by step. -/
theorem callAll_of_replays {q : Query} (hq : q.scopes = {}) {ts : List PredicateTree}
    {calls : List Call} (h : Replays ts calls) :
    q.callAll calls = { q with scopes := { root := ⟨.all, ts⟩ } } := by
  have hscopes : q.scopes.performAll (PredicateTree.opsAll ts) = .ok ⟨⟨.all, ts⟩, []⟩ := by
    rw [hq, PredicateTree.performAll_opsAll]
    exact congrArg Except.ok (Scopes.addAll_root ⟨.all, []⟩ ts)
  rw [← callAll_expandAll, h, callAll_map_ofOp _ hscopes]

/-- What building a collection member by member gives. -/
structure Replayed (c : Connective) (children : List PredicateTree) : Prop where
  performs : ∀ s : Scopes, s.performAll (PredicateTree.group c children).ops =
    .ok (s.add (.group c children))
  keeps : ∀ s : Scopes, (s.add (.group c children)).stack =
    s.stack.modifyLast fun top => ⟨top.connective, top.children ++ [.group c children]⟩
  opens : Replays children ((PredicateTree.opsAll children).map Call.ofOp)
  nests : Replays children (PredicateTree.nestedAll children)
  /-- Either way, or in any mixture, the query has the text and the arguments of the query whose
  root collection has these members. -/
  agrees : ∀ calls, Replays children calls →
    (matchAll.callAll calls).text = (ofCollection ⟨.all, children⟩).text ∧
      (matchAll.callAll calls).compile = (ofCollection ⟨.all, children⟩).compile

/-- **A collection built member by member is the collection itself.** -/
theorem replayed (c : Connective) (children : List PredicateTree) : Replayed c children where
  performs := PredicateTree.performAll_ops (.group c children)
  keeps s := s.stack_add (.group c children)
  opens := replays_map_ofOp children
  nests := replays_nestedAll children
  agrees calls h := by
    rw [callAll_of_replays rfl h]
    exact ⟨rfl, rfl⟩

end Query

end SearchWire
