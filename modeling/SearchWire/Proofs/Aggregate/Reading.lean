import SearchWire.Aggregate.Pipeline
import SearchWire.Proofs.Query.Reading

/-!
# Aggregations are read back

The arguments of an aggregation tell its loads in order and its other steps in order, but not how
the two were mixed, nor which expressions were applied in one step.

* clauses of the parts: `CursorOptions.clause`, `Reducer.clause`, `groupClause`, `Load.clause`;
* `Stage`, `Step.stages`: what a step that does not load does;
* `Pipeline.Plan`, `Pipeline.plan`, **`Pipeline.compile_eq_tokens`**;
* `Pipeline.read?`, **`Pipeline.compile_eq_iff_plan_eq`**.
-/

namespace SearchWire

open Command

/-! ## Parts of an aggregation -/

namespace CursorOptions

def clause : Clause CursorOptions :=
  (Clause.word "WITHCURSOR"
    ((Block.number "COUNT").andThen (Block.number "MAXIDLE")).toCodec).convert
    (fun o => (o.count, o.maxIdle)) (fun (count, maxIdle) => some ⟨count, maxIdle⟩) fun _ => rfl

end CursorOptions

namespace ReducerFunction

def keywords : Keywords ReducerFunction :=
  ⟨keyword, [count, countDistinct, countDistinctish, sum, min, max, avg, stddev, quantile, toList,
    firstValue, randomSample], fun a => by cases a <;> decide⟩

end ReducerFunction

namespace Reducer

/-- A function with its arguments and the name of its result. -/
def clause : Clause Reducer :=
  (Clause.word "REDUCE" (ReducerFunction.keywords.item.pair
    (Item.counted.toCodec.andThen (Block.text "AS")))).convert
    (fun r => (r.function, r.args, r.asName)) (fun (function, args, asName) =>
      some ⟨function, args, asName⟩) fun _ => rfl

end Reducer

/-- Fields to group by and what the groups are reduced to. -/
def groupClause : Clause (List String × List Reducer) :=
  .word "GROUPBY" (Item.words.toCodec.andThen Reducer.clause.many)

/-- A name and the expression under it; the expression is written first. -/
def applyClause : Clause (String × String) :=
  (Clause.word "APPLY" (Item.text.pair (Clause.word "AS" Item.text).toCodec)).convert
    (fun p => (p.2, p.1)) (fun p => some (p.2, p.1)) fun _ => rfl

def filterClause : Clause String := .word "FILTER" Item.text

theorem Token.ofNat_ne_ofString {s : String} (h : Numeral.digitsValue? s.toList = none) (n : Nat) :
    Token.ofNat n ≠ Token.ofString s := by
  intro hn
  have hv := congrArg Token.natural? hn
  rw [Token.natural?_ofNat, Token.natural?, Token.text_ofString, h] at hv
  cases hv

namespace Load

/-- What is loaded: a star, or fields after their number. -/
def operand : Load → Command
  | everything => ["*"]
  | fields names => Item.words.tokens names

/-- What is loaded according to the front of a command. -/
def readOperand (c : Command) : Option (Load × Command) :=
  if BeginsWith ["*"] c then some (everything, c.tail)
  else (Item.words.read c).map fun p => (fields p.1, p.2)

theorem readOperand_operand_append (l : Load) (rest : Command) :
    readOperand (l.operand ++ rest) = some (l, rest) := by
  cases l with
  | everything => exact if_pos (beginsWith_cons List.mem_cons_self _)
  | fields names =>
    have hb : ¬ BeginsWith ["*"] (Item.words.tokens names ++ rest) := by
      rintro ⟨w, hw, hc⟩
      rw [List.mem_singleton] at hw
      subst hw
      exact Token.ofNat_ne_ofString (by decide) _ (Option.some.inj hc)
    rw [readOperand, operand, if_neg hb, Item.words.read_tokens_append, Option.map_some]

def clause : Clause Load :=
  .word "LOAD" (Item.ofRead operand readOperand readOperand_operand_append)

theorem tokens_eq_clause : Load.tokens = clause.tokens := by
  funext l
  cases l <;> rfl

end Load

/-! ## Stages -/

/-- What a step does that does not load; expressions are applied one by one, and the keys to sort
by are the tokens they are written in. -/
inductive Stage where
  | group (fields : List String) (reducers : List Reducer)
  | sort (keys : Command) (max : Option Nat)
  | apply (asName expression : String)
  | limit (offset count : Nat)
  | filter (expression : String)

namespace Stage

def tokens : Stage → Command
  | group fields reducers => groupTokens fields reducers
  | sort keys max => "SORTBY" :: (Command.counted keys ++ Command.number "MAX" max)
  | apply asName expression => applyTokens (asName, expression)
  | limit offset count => limitTokens (offset, count)
  | filter expression => ["FILTER", expression]

def sortClause : Clause (Command × Option Nat) :=
  .word "SORTBY" (Item.counted.toCodec.andThen (Block.number "MAX"))

def clause : Clause Stage :=
  (groupClause.either <| sortClause.either <| applyClause.either <|
    limitClause.either filterClause).convert
    (fun
      | group fields reducers => .inl (fields, reducers)
      | sort keys max => .inr (.inl (keys, max))
      | apply asName expression => .inr (.inr (.inl (asName, expression)))
      | limit offset count => .inr (.inr (.inr (.inl (offset, count))))
      | filter expression => .inr (.inr (.inr (.inr expression))))
    (fun
      | .inl (fields, reducers) => some (group fields reducers)
      | .inr (.inl (keys, max)) => some (sort keys max)
      | .inr (.inr (.inl (asName, expression))) => some (apply asName expression)
      | .inr (.inr (.inr (.inl (offset, count)))) => some (limit offset count)
      | .inr (.inr (.inr (.inr expression))) => some (filter expression))
    fun s => by cases s <;> rfl

theorem tokens_eq_clause : Stage.tokens = clause.tokens := by
  funext s
  cases s <;> rfl

end Stage

namespace Step

/-- What a step loads, if it loads. -/
def load? : Step → Option Load
  | load l => some l
  | _ => none

def stages : Step → List Stage
  | load _ => []
  | groupBy fields reducers => [.group fields reducers]
  | sortBy keys max => [.sort (keys.flatMap SortKey.tokens) max]
  | apply pairs => pairs.map fun p => .apply p.1 p.2
  | limit offset count => [.limit offset count]
  | filter expression => [.filter expression]

theorem tokens_eq_stages {s : Step} (h : s.isLoad = false) :
    s.tokens = s.stages.flatMap Stage.tokens := by
  cases s with
  | load l => cases h
  | apply pairs =>
    rw [stages, List.flatMap_map]
    rfl
  | groupBy fields reducers => exact (List.append_nil _).symm
  | sortBy keys max =>
    rw [tokens_sortBy]
    exact (List.append_nil _).symm
  | limit offset count => rfl
  | filter expression => rfl

end Step

theorem filter_isLoad_flatMap_tokens (steps : List Step) :
    (steps.filter Step.isLoad).flatMap Step.tokens =
      (steps.filterMap Step.load?).flatMap Load.tokens := by
  induction steps with
  | nil => rfl
  | cons s steps ih =>
    cases s with
    | load l =>
      rw [List.filter_cons_of_pos rfl, List.flatMap_cons, ih,
        List.filterMap_cons_some (f := Step.load?) rfl, List.flatMap_cons]
      rfl
    | _ => rw [List.filter_cons_of_neg Bool.false_ne_true, ih, List.filterMap_cons_none rfl]

theorem filter_not_isLoad_flatMap_tokens (steps : List Step) :
    (steps.filter (!·.isLoad)).flatMap Step.tokens =
      (steps.flatMap Step.stages).flatMap Stage.tokens := by
  induction steps with
  | nil => rfl
  | cons s steps ih =>
    rw [List.flatMap_cons, List.flatMap_append, ← ih]
    cases hs : s.isLoad with
    | true =>
      rw [List.filter_cons_of_neg (by rw [hs]; decide)]
      cases s with
      | load l => rfl
      | _ => cases hs
    | false =>
      rw [List.filter_cons_of_pos (by rw [hs]; decide), List.flatMap_cons,
        Step.tokens_eq_stages hs]

/-! ## A whole aggregation -/

namespace Pipeline

/-- What an aggregation says. -/
structure Plan where
  query : String
  cursor : Option CursorOptions
  addScores : Bool
  timeout : Option Nat
  loads : List Load
  params : Bindings Token
  dialect : Option Nat
  stages : List Stage

/-- What an aggregation says: its loads and its other steps, each in order. -/
def plan (p : Pipeline) : Plan where
  query := p.query
  cursor := p.cursor
  addScores := p.addScores
  timeout := p.timeout
  loads := p.steps.filterMap Step.load?
  params := p.params
  dialect := p.dialect
  stages := p.steps.flatMap Step.stages

/-- The query string of an aggregation and its blocks in their order. -/
def Plan.codec : Codec Plan :=
  (Item.text.pair
    (CursorOptions.clause.optional.andThen <|
      (Block.flag "ADDSCORES").andThen <|
      (Block.number "TIMEOUT").andThen <|
      Load.clause.many.andThen <|
      Block.params.andThen <|
      (Block.number "DIALECT").andThen Stage.clause.many).toCodec).convert
    (fun p => (p.query, p.cursor, p.addScores, p.timeout, p.loads, p.params, p.dialect, p.stages))
    (fun (query, cursor, addScores, timeout, loads, params, dialect, stages) =>
      some ⟨query, cursor, addScores, timeout, loads, params, dialect, stages⟩)
    fun _ => rfl

/-- **All loads stand before the parameters and the dialect, all other steps after them.** -/
theorem compile_eq_blocks (p : Pipeline) :
    p.compile = (p.query : Token) ::
      (part CursorOptions.tokens p.cursor ++ flag "ADDSCORES" p.addScores ++
        number "TIMEOUT" p.timeout ++ p.plan.loads.flatMap Load.tokens ++ Command.params p.params ++
        number "DIALECT" p.dialect ++ p.plan.stages.flatMap Stage.tokens) := by
  unfold compile loads stages
  rw [filter_isLoad_flatMap_tokens, filter_not_isLoad_flatMap_tokens]
  rfl

theorem compile_eq_tokens (p : Pipeline) : p.compile = Plan.codec.tokens p.plan := by
  rw [compile_eq_blocks, Load.tokens_eq_clause, Stage.tokens_eq_clause, params_eq_tokens]
  simp only [List.append_assoc]
  rfl

/-- What the arguments of an aggregation say. -/
def read? (c : Command) : Option Plan := Plan.codec.readAll c

/-- **Aggregations have the same arguments just if they have the same plan.** Reading the arguments
from left to right gives the plan, whose loads stand before the parameters and the dialect and whose
stages stand after them. -/
theorem compile_eq_iff_plan_eq (p p' : Pipeline) :
    (p.compile = p'.compile ↔ p.plan = p'.plan) ∧ read? p.compile = some p.plan ∧
      p.compile = (p.query : Token) ::
        (part CursorOptions.tokens p.cursor ++ flag "ADDSCORES" p.addScores ++
          number "TIMEOUT" p.timeout ++ p.plan.loads.flatMap Load.tokens ++
          Command.params p.params ++ number "DIALECT" p.dialect ++
          p.plan.stages.flatMap Stage.tokens) := by
  refine ⟨?_, ?_, compile_eq_blocks p⟩
  · rw [compile_eq_tokens, compile_eq_tokens]
    exact Plan.codec.tokens_inj
  · rw [compile_eq_tokens]
    exact Codec.readAll_tokens _ _

end Pipeline

end SearchWire
