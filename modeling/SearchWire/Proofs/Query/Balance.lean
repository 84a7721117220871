import Mathlib.Combinatorics.Enumerative.DyckWord
import SearchWire.Proofs.Query.Building
import SearchWire.Proofs.Query.Reading

/-!
# Balanced queries

The collections that a run of building steps opens and closes decide whether the query compiles:
it does just if they are balanced. A close that finds nothing open marks the query for good and
changes nothing else.

* `Query.Call.expand`, `Query.callAll_expandAll`: steps inside a collection as steps between an
  opening and a closing one; `Query.Call.word`: what they open and close;
* `depthAfter`: counting along a word; `depthAfter_eq_some_iff`, `exists_dyckWord_iff`;
* `Query.depth?`: the number of open collections unless a close has failed; `Query.depth?_call`
  (one step), `Query.depth?_callAll` (a run), `Query.exists_compile_iff`;
* **`Query.scopesDecide`**.
-/

namespace SearchWire

open DyckStep

/-! ## Counting along a word -/

/-- The number of collections that are open after a word, if none is closed that is not open. -/
def depthAfter : List DyckStep → Nat → Option Nat
  | [], d => some d
  | U :: w, d => depthAfter w (d + 1)
  | D :: _, 0 => none
  | D :: w, d + 1 => depthAfter w d

theorem depthAfter_append (v w : List DyckStep) (d : Nat) :
    depthAfter (v ++ w) d = (depthAfter v d).bind (depthAfter w) := by
  fun_induction depthAfter v d with
  | case1 d => rfl
  | case2 d v ih => rw [List.cons_append, depthAfter, ih]
  | case3 v => rfl
  | case4 d v ih => rw [List.cons_append, depthAfter, ih]

theorem bind_depthAfter_nil (o : Option Nat) : o.bind (depthAfter []) = o := by
  cases o <;> rfl

theorem bind_depthAfter_append (o : Option Nat) (v w : List DyckStep) :
    o.bind (depthAfter (v ++ w)) = (o.bind (depthAfter v)).bind (depthAfter w) := by
  cases o with
  | none => rfl
  | some d => exact depthAfter_append v w d

theorem depthAfter_eq_some_iff {w : List DyckStep} {d e : Nat} : depthAfter w d = some e ↔
    (∀ i, (w.take i).count D ≤ d + (w.take i).count U) ∧ e + w.count D = d + w.count U := by
  fun_induction depthAfter w d with
  | case1 d => simp [eq_comm]
  | case2 d w ih =>
    rw [ih]
    refine and_congr ⟨fun h i => ?_, fun h i => ?_⟩ ?_
    · cases i with
      | zero => simp
      | succ i => simpa [Nat.add_assoc, Nat.add_comm 1] using h i
    · simpa [Nat.add_assoc, Nat.add_comm 1] using h (i + 1)
    · simp [Nat.add_assoc, Nat.add_comm 1]
  | case3 w => simpa using fun h => absurd (h 1) (by simp)
  | case4 d w ih =>
    rw [ih]
    refine and_congr ⟨fun h i => ?_, fun h i => ?_⟩ ?_
    · cases i with
      | zero => simp
      | succ i =>
        have := h i
        simp
        omega
    · have := h (i + 1)
      simp at this
      omega
    · simp
      omega

/-- The words that close all they open, and nothing else, are the balanced ones. -/
theorem exists_dyckWord_iff {w : List DyckStep} :
    (∃ p : DyckWord, p.toList = w) ↔ depthAfter w 0 = some 0 := by
  rw [depthAfter_eq_some_iff]
  constructor
  · rintro ⟨p, rfl⟩
    exact ⟨fun i => by simpa using p.count_D_le_count_U i, by simpa using p.count_U_eq_count_D.symm⟩
  · rintro ⟨hle, heq⟩
    exact ⟨⟨w, by simpa using heq.symm, fun i => by simpa using hle i⟩, rfl⟩

namespace Query

/-! ## Opening and closing -/

/-- What a query is built from. -/
inductive Start where
  | text (base : String)
  | matchAll
  | collection (root : Collection)

/-- The query of a start, before any step. -/
def Start.query : Start → Query
  | text base => ofText base
  | matchAll => Query.matchAll
  | collection root => ofCollection root

namespace Call

mutual

/-- A step, with the steps inside a collection between an opening and a closing one. -/
def expand : Call → List Call
  | within c calls => enter c :: (expandAll calls ++ [leave])
  | c => [c]

/-- Some steps, with the steps inside collections between opening and closing ones. -/
def expandAll : List Call → List Call
  | [] => []
  | c :: calls => expand c ++ expandAll calls

end

/-- What a step opens or closes. -/
def bracket? : Call → Option DyckStep
  | enter _ => some U
  | leave => some D
  | _ => none

/-- What some steps open and close, in order. -/
def word (calls : List Call) : List DyckStep := (expandAll calls).filterMap bracket?

end Call

theorem callAll_append (q : Query) (cs ds : List Call) :
    q.callAll (cs ++ ds) = (q.callAll cs).callAll ds := by
  induction cs generalizing q with
  | nil => rfl
  | cons c cs ih => rw [List.cons_append, callAll, callAll, ih]

mutual

theorem callAll_expand (q : Query) (c : Call) : q.callAll c.expand = q.call c := by
  cases c with
  | within c calls =>
    rw [Call.expand, callAll, callAll_append, callAll_expandAll, callAll, callAll, call, call, call]
  | _ => rfl

/-- Steps inside a collection build what they build between an opening and a closing step. -/
theorem callAll_expandAll (q : Query) (calls : List Call) :
    q.callAll (Call.expandAll calls) = q.callAll calls := by
  cases calls with
  | nil => rfl
  | cons c calls => rw [Call.expandAll, callAll_append, callAll_expand, callAll_expandAll, callAll]

end

/-! ## The number of open collections -/

/-- The number of open collections, unless a close has failed. -/
def depth? (q : Query) : Option Nat := if q.unbalanced then none else some q.scopes.depth

theorem depth?_eq_none_iff {q : Query} : q.depth? = none ↔ q.unbalanced = true := by
  simp [depth?]

theorem depth?_enter (q : Query) (c : Connective) :
    (q.enter c).depth? = q.depth?.bind (depthAfter [U]) := by
  cases hq : q.unbalanced <;> simp [enter, depth?, hq, Scopes.enter, Scopes.depth, depthAfter]

theorem leave_of_error {q : Query} {fault : QueryFault} (h : q.scopes.leave = .error fault) :
    q.leave = { q with unbalanced := true } := by
  rw [leave, h]

theorem depth?_leave (q : Query) : q.leave.depth? = q.depth?.bind (depthAfter [D]) := by
  cases h : q.scopes.leave with
  | error fault =>
    have hdepth : q.scopes.depth = 0 := congrArg List.length (Scopes.leave_eq_error_iff.mp h).1
    rw [leave_of_error h]
    cases hq : q.unbalanced <;> simp [depth?, hq, hdepth, depthAfter]
  | ok s =>
    have hdepth := Scopes.depth_leave h
    rw [leave, h]
    cases hq : q.unbalanced <;> simp [depth?, hq, hdepth, depthAfter]

mutual

theorem depth?_call (q : Query) (c : Call) :
    (q.call c).depth? = q.depth?.bind (depthAfter (c.expand.filterMap Call.bracket?)) := by
  cases c with
  | predicate t =>
    have hadd := q.scopes.depth_add t
    rw [call, depth?, hadd]
    exact (bind_depthAfter_nil _).symm
  | enter c => exact q.depth?_enter c
  | leave => exact q.depth?_leave
  | within c calls =>
    have hword : (Call.within c calls).expand.filterMap Call.bracket? =
        [U] ++ (Call.word calls ++ [D]) := by
      simp [Call.expand, Call.bracket?, Call.word]
    rw [call, depth?_leave, depth?_callAll, depth?_enter, hword, bind_depthAfter_append,
      bind_depthAfter_append]
  | _ => exact (bind_depthAfter_nil _).symm

/-- **A run moves the number of open collections along what it opens and closes.** -/
theorem depth?_callAll (q : Query) (calls : List Call) :
    (q.callAll calls).depth? = q.depth?.bind (depthAfter (Call.word calls)) := by
  cases calls with
  | nil => exact (bind_depthAfter_nil _).symm
  | cons c calls =>
    rw [callAll, depth?_callAll, depth?_call, Call.word, Call.word, Call.expandAll,
      List.filterMap_append, bind_depthAfter_append]

end

/-! ## Compiling -/

/-- A query compiles once no collection is open, unless a close has failed. -/
theorem exists_compile_iff (q : Query) : (∃ args, q.compile = .ok args) ↔ q.depth? = some 0 := by
  simp only [exists_compile_iff_text, text_eq_ok_iff]
  simp [depth?, Scopes.depth]

theorem compile_of_unbalanced {q : Query} (h : q.unbalanced = true) :
    q.compile = .error .unbalanced := by
  rw [compile, text, h]
  rfl

theorem unbalanced_callAll {q : Query} (h : q.unbalanced = true) (calls : List Call) :
    (q.callAll calls).unbalanced = true := by
  rw [← depth?_eq_none_iff] at h ⊢
  rw [depth?_callAll, h]
  rfl

/-- A close that fails: it is the next step after the steps `before` of a run, and nothing is open
when it comes. -/
structure FailedClose (q : Query) (calls before : List Call) : Prop where
  next : before ++ [.leave] <+: Call.expandAll calls
  fails : ∃ fault, (q.callAll before).scopes.leave = .error fault

theorem FailedClose.unbalanced {q : Query} {calls before : List Call}
    (h : FailedClose q calls before) : (q.callAll calls).unbalanced = true := by
  obtain ⟨⟨after, hafter⟩, fault, hfault⟩ := h
  rw [← callAll_expandAll, ← hafter, callAll_append, callAll_append]
  refine unbalanced_callAll ?_ after
  rw [callAll, callAll, call, leave_of_error hfault]

/-- What the collections that a run opens and closes decide. -/
structure ScopesDecide (q : Query) (calls : List Call) : Prop where
  compiles : (∃ args, (q.callAll calls).compile = .ok args) ↔
    ∃ p : DyckWord, p.toList = Call.word calls
  expands : q.callAll (Call.expandAll calls) = q.callAll calls
  /-- A close that fails changes nothing but the mark. -/
  keeps : ∀ before, FailedClose q calls before →
    q.callAll (before ++ [.leave]) = { q.callAll before with unbalanced := true }
  lasts : ∀ before, FailedClose q calls before →
    ∀ later, (q.callAll (calls ++ later)).compile = .error .unbalanced

/-- **A query compiles exactly when its collections are opened and closed in balance.** -/
theorem scopesDecide (start : Start) (calls : List Call) : ScopesDecide start.query calls where
  compiles := by
    have hstart : start.query.depth? = some 0 := by cases start <;> rfl
    rw [exists_compile_iff, depth?_callAll, hstart, Option.bind_some, exists_dyckWord_iff]
  expands := callAll_expandAll start.query calls
  keeps before h := by
    obtain ⟨fault, hfault⟩ := h.fails
    rw [callAll_append, callAll, callAll, call, leave_of_error hfault]
  lasts before h later := by
    rw [callAll_append]
    exact compile_of_unbalanced (unbalanced_callAll h.unbalanced later)

/-- A close too many is not made good by a collection that is opened and closed after it. -/
example : (matchAll.callAll [.leave, .enter .any, .leave]).compile = .error .unbalanced ∧
    (matchAll.callAll [.enter .any, .leave]).compile = .ok ["()", "DIALECT", "2"] := by
  constructor <;> rfl

end Query

end SearchWire
