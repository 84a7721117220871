import Mathlib.Data.List.Induction
import SearchWire.Hybrid.Refinement

/-!
# A refinement is a pipeline

What happens to hybrid results after fusion is written by a writer of its own, and the steps of an
aggregation by another. Both write the same: load, group, apply, sort, filter, limit, each if it was
asked for.

* `Refinement.Call`, `Refinement.built`: a refinement is built call by call;
  **`Refinement.built_eq_asked`**: of some calls the last one counts, of others all do;
* `Refinement.steps`: a refinement as the steps of a pipeline; `Refinement.filter_isLoad_steps`,
  `Refinement.filter_not_isLoad_steps`;
* `Refinement.tokens_sortBy_directed`: a sum of what keys take, and twice their number;
  **`Refinement.compile_steps`**: both writers agree;
* **`Refinement.built_isPipeline`**.
-/

namespace SearchWire.Refinement

open Command

/-! ## Calls -/

/-- A call that adds to a refinement. -/
inductive Call where
  | load (names : List String)
  | groupBy (fields : List String) (reducers : List Reducer)
  | apply (name expression : String)
  | sortBy (field : String) (order : SortOrder)
  | filter (expression : String)
  | limit (offset count : Nat)

def call (r : Refinement) : Call → Refinement
  | .load names => r.loadFields names
  | .groupBy fields reducers => { r with groupBy := some (fields, reducers) }
  | .apply name expression => r.addApply name expression
  | .sortBy field order => r.addSort field order
  | .filter expression => { r with filter := some expression }
  | .limit offset count => { r with limit := some (offset, count) }

/-- The refinement that some calls build. -/
def built (calls : List Call) : Refinement := calls.foldl call {}

theorem built_concat (calls : List Call) (c : Call) :
    built (calls ++ [c]) = (built calls).call c := List.foldl_append

namespace Call

def load? : Call → Option Load
  | load names => some (.ofFields names)
  | _ => none

def groupBy? : Call → Option (List String × List Reducer)
  | groupBy fields reducers => some (fields, reducers)
  | _ => none

def applied? : Call → Option (String × String)
  | apply name expression => some (name, expression)
  | _ => none

def sortBy? : Call → Option (String × SortOrder)
  | sortBy field order => some (field, order)
  | _ => none

def filter? : Call → Option String
  | filter expression => some expression
  | _ => none

def limit? : Call → Option (Nat × Nat)
  | limit offset count => some (offset, count)
  | _ => none

end Call

/-- Where each call replaces what was there, the last one counts. -/
theorem last_built {α : Type} (part : Refinement → Option α) (given? : Call → Option α)
    (hnone : part {} = none) (hcall : ∀ r c, part (r.call c) = (given? c).or (part r))
    (calls : List Call) : part (built calls) = (calls.filterMap given?).getLast? := by
  induction calls using List.reverseRecOn with
  | nil => exact hnone
  | append_singleton calls c ih =>
    rw [built_concat, hcall, ih, List.filterMap_append, List.getLast?_append]
    cases h : given? c <;> simp [h]

/-- Where each call adds to what was there, all of them count, in order. -/
theorem all_built {α : Type} (part : Refinement → List α) (given? : Call → Option α)
    (hnil : part {} = []) (hcall : ∀ r c, part (r.call c) = part r ++ (given? c).toList)
    (calls : List Call) : part (built calls) = calls.filterMap given? := by
  induction calls using List.reverseRecOn with
  | nil => exact hnil
  | append_singleton calls c ih =>
    rw [built_concat, hcall, ih, List.filterMap_append]
    cases h : given? c <;> simp [h]

/-- The refinement that says what some calls ask for: the last load, grouping, filter and limit, and
all expressions and keys to sort by. -/
def asked (calls : List Call) : Refinement where
  load := (calls.filterMap Call.load?).getLast?
  groupBy := (calls.filterMap Call.groupBy?).getLast?
  apply := calls.filterMap Call.applied?
  sortBy := calls.filterMap Call.sortBy?
  filter := (calls.filterMap Call.filter?).getLast?
  limit := (calls.filterMap Call.limit?).getLast?

/-- A refinement is built from what its calls ask for, in whatever order they come. -/
theorem built_eq_asked (calls : List Call) : built calls = asked calls := by
  have hload := last_built load Call.load? rfl (fun _ c => by cases c <;> rfl) calls
  have hgroup := last_built groupBy Call.groupBy? rfl (fun _ c => by cases c <;> rfl) calls
  have happly := all_built apply Call.applied? rfl
    (fun _ c => by cases c <;> first | rfl | exact (List.append_nil _).symm) calls
  have hsort := all_built sortBy Call.sortBy? rfl
    (fun _ c => by cases c <;> first | rfl | exact (List.append_nil _).symm) calls
  have hfilter := last_built filter Call.filter? rfl (fun _ c => by cases c <;> rfl) calls
  have hlimit := last_built limit Call.limit? rfl (fun _ c => by cases c <;> rfl) calls
  generalize hr : built calls = r at *
  cases r
  simp only [asked, mk.injEq]
  exact ⟨hload, hgroup, happly, hsort, hfilter, hlimit⟩

/-! ## Steps -/

/-- Fields to sort by with their directions, as the keys of a pipeline. -/
def directed (keys : List (String × SortOrder)) : List SortKey :=
  keys.map fun k => .directed k.1 k.2

variable (r : Refinement)

/-- The steps of a refinement after its load. -/
def stages : List Step :=
  (r.groupBy.map fun g => Step.groupBy g.1 g.2).toList ++
    ((if r.apply = [] then [] else [.apply r.apply]) ++
      ((if r.sortBy = [] then [] else [.sortBy (directed r.sortBy) none]) ++
        ((r.filter.map Step.filter).toList ++ (r.limit.map fun l => Step.limit l.1 l.2).toList)))

/-- A refinement as the steps of a pipeline. What was not asked for is no step. -/
def steps : List Step := (r.load.map Step.load).toList ++ r.stages

theorem isLoad_of_mem_stages {s : Step} (h : s ∈ r.stages) : s.isLoad = false := by
  simp only [stages, List.mem_append, Option.mem_toList, Option.map_eq_some_iff] at h
  rcases h with ⟨_, -, rfl⟩ | h | h | ⟨_, -, rfl⟩ | ⟨_, -, rfl⟩
  · rfl
  · split at h
    · cases h
    · rw [List.mem_singleton.mp h]
      rfl
  · split at h
    · cases h
    · rw [List.mem_singleton.mp h]
      rfl
  · rfl
  · rfl

theorem filter_isLoad_steps : r.steps.filter Step.isLoad = (r.load.map Step.load).toList := by
  have hstages : r.stages.filter Step.isLoad = [] :=
    List.filter_eq_nil_iff.mpr fun s hs => by simp [r.isLoad_of_mem_stages hs]
  rw [steps, List.filter_append, hstages, List.append_nil]
  cases r.load <;> rfl

theorem filter_not_isLoad_steps : r.steps.filter (!·.isLoad) = r.stages := by
  have hstages : r.stages.filter (!·.isLoad) = r.stages :=
    List.filter_eq_self.mpr fun s hs => by simp [r.isLoad_of_mem_stages hs]
  rw [steps, List.filter_append, hstages]
  cases r.load <;> rfl

/-! ## Tokens -/

theorem flatMap_directed (keys : List (String × SortOrder)) :
    (directed keys).flatMap SortKey.tokens = keys.flatMap orderTokens := by
  rw [directed, List.flatMap_map]
  rfl

theorem argCounts_directed (keys : List (String × SortOrder)) :
    SortKey.argCounts (directed keys) = keys.length * 2 := by
  rw [← SortKey.length_flatMap_tokens, flatMap_directed, length_flatMap_orderTokens]

/-- A pipeline adds up what its keys take, a refinement doubles their number. -/
theorem tokens_sortBy_directed (keys : List (String × SortOrder)) :
    (Step.sortBy (directed keys) none).tokens =
      ("SORTBY" : Token) :: .ofNat (2 * keys.length) :: keys.flatMap orderTokens := by
  have htokens : (Step.sortBy (directed keys) none).tokens = ("SORTBY" : Token) ::
      .ofNat (SortKey.argCounts (directed keys)) ::
        ((directed keys).flatMap SortKey.tokens ++ Command.number "MAX" none) := rfl
  rw [htokens, flatMap_directed, argCounts_directed, Nat.mul_comm]
  simp [Command.number, Command.part]

theorem flatMap_tokens_load (l : Option Load) :
    ((l.map Step.load).toList).flatMap Step.tokens = part Load.tokens l := by
  cases l with
  | none => rfl
  | some l => exact List.append_nil _

theorem sortTokens_eq_flatMap (keys : List (String × SortOrder)) : sortTokens keys =
    (if keys = [] then [] else [Step.sortBy (directed keys) none]).flatMap Step.tokens := by
  cases keys with
  | nil => rfl
  | cons k keys =>
    rw [if_neg (List.cons_ne_nil k keys), List.flatMap_singleton, tokens_sortBy_directed,
      Nat.mul_comm]
    rfl

theorem flatMap_tokens_stages : r.stages.flatMap Step.tokens =
    part (fun g => groupTokens g.1 g.2) r.groupBy ++ (r.apply.flatMap applyTokens ++
      (sortTokens r.sortBy ++
        (Command.text "FILTER" r.filter ++ part limitTokens r.limit))) := by
  have hgroup : ((r.groupBy.map fun g => Step.groupBy g.1 g.2).toList).flatMap Step.tokens =
      part (fun g => groupTokens g.1 g.2) r.groupBy := by
    cases r.groupBy with
    | none => rfl
    | some g => exact List.append_nil _
  have happly : (if r.apply = [] then [] else [Step.apply r.apply]).flatMap Step.tokens =
      r.apply.flatMap applyTokens := by
    by_cases h : r.apply = []
    · rw [if_pos h, h]
      rfl
    · rw [if_neg h]
      exact List.append_nil _
  have hfilter : ((r.filter.map Step.filter).toList).flatMap Step.tokens =
      Command.text "FILTER" r.filter := by
    cases r.filter <;> rfl
  have hlimit : ((r.limit.map fun l => Step.limit l.1 l.2).toList).flatMap Step.tokens =
      part limitTokens r.limit := by
    cases r.limit <;> rfl
  rw [stages, List.flatMap_append, List.flatMap_append, List.flatMap_append, List.flatMap_append,
    hgroup, happly, ← sortTokens_eq_flatMap, hfilter, hlimit]

/-- **Both writers give the same tokens.** -/
theorem compile_steps (query : String) :
    ({ query, steps := r.steps } : Pipeline).compile = (query : Token) :: r.tokens := by
  have hcompile : ({ query, steps := r.steps } : Pipeline).compile = (query : Token) ::
      ((r.steps.filter Step.isLoad).flatMap Step.tokens ++
        (r.steps.filter (!·.isLoad)).flatMap Step.tokens) := by
    simp [Pipeline.compile, Pipeline.loads, Pipeline.stages, Command.part, Command.flag,
      Command.number, Command.params]
  rw [hcompile, filter_isLoad_steps, filter_not_isLoad_steps, flatMap_tokens_load,
    flatMap_tokens_stages]
  simp only [tokens, List.append_assoc]

/-- **A refinement that is built call by call is written like a pipeline.** Its steps are the last
load, the last grouping, all expressions as one step, all keys as one step without a maximum, the last
filter and the last limit, each if it was asked for; its keys are counted as two tokens each. -/
theorem built_isPipeline (calls : List Call) (query : String) :
    ({ query, steps := (built calls).steps } : Pipeline).compile =
        (query : Token) :: (built calls).tokens ∧
      built calls = asked calls ∧
      (Step.sortBy (directed (built calls).sortBy) none).tokens = ("SORTBY" : Token) ::
        .ofNat (2 * (built calls).sortBy.length) :: (built calls).sortBy.flatMap orderTokens :=
  ⟨compile_steps _ query, built_eq_asked calls, tokens_sortBy_directed _⟩

/-- A load comes first whenever it is asked for, and no field at all means everything. -/
example : ({ query := "*", steps := (built [.sortBy "@price" .descending, .load []]).steps } :
    Pipeline).compile = (["*", "LOAD", "*", "SORTBY", "2", "@price", "DESC"] : Command) := by
  rfl

end SearchWire.Refinement
