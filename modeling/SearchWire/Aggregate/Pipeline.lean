import SearchWire.Aggregate.Cursor
import SearchWire.Aggregate.Reducer

/-!
# Pipelines

An aggregation: a query whose results go through steps. The engine wants all loads before the
dialect and all other steps after it; each of the two groups keeps its order.

* `Load`, `SortKey`, `Step`, `Step.tokens`; `Step.tokens_sortBy`: the keys stand after the number of
  their tokens;
* `Pipeline`, `Pipeline.compile`: the arguments of an aggregation after the name of the index.
-/

namespace SearchWire

/-- What is loaded from documents. -/
inductive Load where
  | everything
  | fields (names : List String)
deriving DecidableEq, Repr

/-- Load some fields; no field at all means everything. -/
def Load.ofFields (names : List String) : Load :=
  if names.isEmpty then .everything else .fields names

/-- What rows are sorted by. -/
inductive SortKey where
  | plain (field : String)
  | directed (field : String) (order : SortOrder)
deriving DecidableEq, Repr

/-- The tokens of a key: a direction takes one more. -/
def SortKey.tokens : SortKey → Command
  | .plain field => [field]
  | .directed field order => [field, order.keyword]

/-- The number of tokens that a key is said to take. -/
def SortKey.argCount : SortKey → Nat
  | .plain _ => 1
  | .directed .. => 2

/-- The number of tokens that keys are said to take together. -/
def SortKey.argCounts : List SortKey → Nat
  | [] => 0
  | k :: keys => k.argCount + argCounts keys

theorem SortKey.length_tokens (k : SortKey) : k.tokens.length = k.argCount := by
  cases k <;> rfl

theorem SortKey.length_flatMap_tokens (keys : List SortKey) :
    (keys.flatMap tokens).length = argCounts keys := by
  induction keys with
  | nil => rfl
  | cons k keys ih => rw [List.flatMap_cons, List.length_append, length_tokens, ih, argCounts]

/-- A step of a pipeline. -/
inductive Step where
  | load (l : Load)
  | groupBy (fields : List String) (reducers : List Reducer)
  | sortBy (keys : List SortKey) (max : Option Nat)
  /-- Expressions under names, each after its name. -/
  | apply (pairs : List (String × String))
  | limit (offset count : Nat)
  | filter (expression : String)
deriving DecidableEq, Repr

def Load.tokens : Load → Command
  | .everything => ["LOAD", "*"]
  | .fields names => "LOAD" :: Command.counted (Command.words names)

/-- Groups by some fields and what they are reduced to. -/
def groupTokens (fields : List String) (reducers : List Reducer) : Command :=
  "GROUPBY" :: (Command.counted (Command.words fields) ++ reducers.flatMap Reducer.tokens)

def applyTokens (pair : String × String) : Command := ["APPLY", pair.2, "AS", pair.1]

namespace Step

def isLoad : Step → Bool
  | load _ => true
  | _ => false

def tokens : Step → Command
  | load l => l.tokens
  | groupBy fields reducers => groupTokens fields reducers
  | sortBy keys max =>
    "SORTBY" :: .ofNat (SortKey.argCounts keys) ::
      (keys.flatMap SortKey.tokens ++ Command.number "MAX" max)
  | apply pairs => pairs.flatMap applyTokens
  | limit offset count => limitTokens (offset, count)
  | filter expression => ["FILTER", expression]

theorem tokens_sortBy (keys : List SortKey) (max : Option Nat) :
    (sortBy keys max).tokens = ("SORTBY" : Token) ::
      (Command.counted (keys.flatMap SortKey.tokens) ++ Command.number "MAX" max) := by
  rw [Command.counted, SortKey.length_flatMap_tokens]
  rfl

end Step

/-- An aggregation. -/
structure Pipeline where
  query : String := "*"
  steps : List Step := []
  cursor : Option CursorOptions := none
  addScores : Bool := false
  /-- Milliseconds. -/
  timeout : Option Nat := none
  params : Bindings Token := []
  dialect : Option Nat := none
deriving DecidableEq, Repr

namespace Pipeline

def step (p : Pipeline) (s : Step) : Pipeline := { p with steps := p.steps ++ [s] }

/-- Load some fields; no field at all means everything. -/
def loadFields (p : Pipeline) (names : List String) : Pipeline := p.step (.load (.ofFields names))

def param (p : Pipeline) (name : String) (value : Token) : Pipeline :=
  { p with params := .bind name value p.params }

/-- The loads, in order. -/
def loads (p : Pipeline) : List Step := p.steps.filter Step.isLoad

/-- The other steps, in order. -/
def stages (p : Pipeline) : List Step := p.steps.filter (!·.isLoad)

/-- The arguments of an aggregation after the name of the index. -/
def compile (p : Pipeline) : Command :=
  (p.query : Token) ::
    (Command.part CursorOptions.tokens p.cursor ++
      Command.flag "ADDSCORES" p.addScores ++
      Command.number "TIMEOUT" p.timeout ++
      p.loads.flatMap Step.tokens ++
      Command.params p.params ++
      Command.number "DIALECT" p.dialect ++
      p.stages.flatMap Step.tokens)

end Pipeline

end SearchWire
