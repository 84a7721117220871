import SearchWire.Predicate.Basic

/-!
# Trees of predicates

* `PredicateTree.induct`: induction on trees, with the hypothesis for every member of a group;
* `PredicateTree.leaves`: the predicates of a tree in their order;
* `PredicateTree.filled`: that every collection in a tree has members;
  `PredicateTree.induct_filled`: induction on such trees;
* `PredicateTree.render_group`, `Connective.toList_wrap_cons`: the text of a collection.
-/

namespace SearchWire

namespace Connective

theorem toList_wrap_cons (c : Connective) (s : String) (ss : List String) :
    (c.wrap (s :: ss)).toList =
      '(' :: (s.toList ++ (ss.flatMap fun t => c.separator.toList ++ t.toList) ++ [')']) := by
  have hjoin : ∀ (ss : List String) (s : String), (c.separator.intercalate (s :: ss)).toList =
      s.toList ++ ss.flatMap fun t => c.separator.toList ++ t.toList := by
    intro ss
    induction ss with
    | nil => intro s; simp
    | cons t ss ih =>
      intro s
      rw [String.intercalate_cons_cons, String.toList_append, String.toList_append, ih,
        List.flatMap_cons, List.append_assoc, List.append_assoc]
  have hw : c.wrap (s :: ss) = "(" ++ c.separator.intercalate (s :: ss) ++ ")" := rfl
  rw [hw, String.toList_append, String.toList_append, hjoin]
  rfl

theorem wrap_cons_ne_empty (c : Connective) (s : String) (ss : List String) :
    c.wrap (s :: ss) ≠ "" := by
  intro h
  have hl := congrArg String.toList h
  rw [toList_wrap_cons] at hl
  cases hl

end Connective

namespace PredicateTree

@[elab_as_elim, induction_eliminator]
theorem induct {P : PredicateTree → Prop} (leaf : ∀ p, P (leaf p))
    (group : ∀ c children, (∀ t ∈ children, P t) → P (group c children)) (t : PredicateTree) :
    P t :=
  t.rec (motive_2 := fun ts => ∀ t ∈ ts, P t) leaf group (fun _ ht => nomatch ht)
    fun _ _ ht hts => List.forall_mem_cons.mpr ⟨ht, hts⟩

theorem renderAll_eq_map (ts : List PredicateTree) : renderAll ts = ts.map render := by
  induction ts with
  | nil => rfl
  | cons t ts ih => rw [renderAll, ih, List.map_cons]

theorem render_group (c : Connective) (children : List PredicateTree) :
    (group c children).render = c.wrap (children.map render) := by
  rw [render, renderAll_eq_map]

/-! ## Leaves -/

mutual

/-- The predicates of a tree, from left to right. -/
def leaves : PredicateTree → List Predicate
  | leaf p => [p]
  | group _ children => leavesAll children

def leavesAll : List PredicateTree → List Predicate
  | [] => []
  | t :: rest => leaves t ++ leavesAll rest

end

theorem leavesAll_eq_flatMap (ts : List PredicateTree) : leavesAll ts = ts.flatMap leaves := by
  induction ts with
  | nil => rfl
  | cons t ts ih => rw [leavesAll, ih, List.flatMap_cons]

@[simp] theorem leaves_group (c : Connective) (children : List PredicateTree) :
    (group c children).leaves = children.flatMap leaves := leavesAll_eq_flatMap children

/-! ## Trees without empty collections -/

mutual

/-- Whether every collection in a tree has members. -/
def filled : PredicateTree → Bool
  | leaf _ => true
  | group _ children => !children.isEmpty && allFilled children

/-- Whether every collection in some trees has members. -/
def allFilled : List PredicateTree → Bool
  | [] => true
  | t :: rest => filled t && allFilled rest

end

theorem allFilled_eq_all (ts : List PredicateTree) : allFilled ts = ts.all filled := by
  induction ts with
  | nil => rfl
  | cons t ts ih => rw [allFilled, ih, List.all_cons]

theorem filled_group (c : Connective) (children : List PredicateTree) :
    (group c children).filled = true ↔ children ≠ [] ∧ ∀ t ∈ children, t.filled = true := by
  rw [filled, allFilled_eq_all, Bool.and_eq_true, List.all_eq_true]
  cases children <;> simp

/-- Induction on trees without empty collections, whose leaves have a property. -/
@[elab_as_elim]
theorem induct_filled {P : PredicateTree → Prop} {L : Predicate → Prop}
    (leaf : ∀ p, L p → P (leaf p))
    (group : ∀ c first rest, P first → (∀ t ∈ rest, P t) → P (group c (first :: rest)))
    (t : PredicateTree) (hf : t.filled = true) (hp : ∀ p ∈ t.leaves, L p) : P t := by
  induction t with
  | leaf p => exact leaf p (hp p List.mem_cons_self)
  | group c children ih =>
    obtain ⟨hne, hchildren⟩ := (filled_group c children).mp hf
    have hmembers : ∀ t ∈ children, P t := by
      refine fun t ht => ih t ht (hchildren t ht) fun p hpt => hp p ?_
      rw [leaves_group]
      exact List.mem_flatMap.mpr ⟨t, ht, hpt⟩
    obtain ⟨first, rest, rfl⟩ := List.exists_cons_of_ne_nil hne
    obtain ⟨hfirst, hrest⟩ := List.forall_mem_cons.mp hmembers
    exact group c first rest hfirst hrest

end PredicateTree

end SearchWire
