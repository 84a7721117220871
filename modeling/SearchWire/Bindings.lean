/-!
# Bindings

Names bound to values. Binding a name again replaces its value and keeps its place, so the names
stand in the order of their first binding and each holds its last value.

* `Bindings.bind`, `Bindings.bindAll`, `Bindings.ofList`;
* `Bindings.find?`, `Bindings.names`.
-/

namespace SearchWire

/-- Values under names, in the order of first binding. -/
abbrev Bindings (α : Type) := List (String × α)

namespace Bindings

variable {α : Type}

/-- Bind `name`: in its place if it is bound already, at the end if not. -/
def bind (name : String) (value : α) : Bindings α → Bindings α
  | [] => [(name, value)]
  | (n, v) :: rest => if n = name then (n, value) :: rest else (n, v) :: bind name value rest

/-- Bind the pairs of a list from left to right. -/
def bindAll (b : Bindings α) (pairs : List (String × α)) : Bindings α :=
  pairs.foldl (fun b p => bind p.1 p.2 b) b

/-- The bindings that a list of pairs makes. -/
def ofList (pairs : List (String × α)) : Bindings α := bindAll [] pairs

def find? (b : Bindings α) (name : String) : Option α := b.lookup name

/-- The bound names, in the order of first binding. -/
def names (b : Bindings α) : List String := b.map (·.1)

@[simp] theorem bindAll_nil (b : Bindings α) : bindAll b [] = b := rfl

@[simp] theorem bindAll_cons (b : Bindings α) (p : String × α) (ps : List (String × α)) :
    bindAll b (p :: ps) = bindAll (bind p.1 p.2 b) ps := rfl

theorem bindAll_append (b : Bindings α) (ps qs : List (String × α)) :
    bindAll b (ps ++ qs) = bindAll (bindAll b ps) qs := List.foldl_append

end Bindings

end SearchWire
