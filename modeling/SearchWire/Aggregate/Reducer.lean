import SearchWire.Query.Basic

/-!
# Reducers

What a group of rows is reduced to.

* `ReducerFunction`, `Reducer`, `Reducer.tokens`: the number of arguments is that of the list;
* `Reducer.unary`, `Reducer.quantile`, `Reducer.firstValue`, `Reducer.randomSample`.
-/

namespace SearchWire

inductive ReducerFunction where
  | count
  | countDistinct
  | countDistinctish
  | sum
  | min
  | max
  | avg
  | stddev
  | quantile
  | toList
  | firstValue
  | randomSample
deriving DecidableEq, Repr

def ReducerFunction.keyword : ReducerFunction → String
  | .count => "COUNT"
  | .countDistinct => "COUNT_DISTINCT"
  | .countDistinctish => "COUNT_DISTINCTISH"
  | .sum => "SUM"
  | .min => "MIN"
  | .max => "MAX"
  | .avg => "AVG"
  | .stddev => "STDDEV"
  | .quantile => "QUANTILE"
  | .toList => "TOLIST"
  | .firstValue => "FIRST_VALUE"
  | .randomSample => "RANDOM_SAMPLE"

/-- A function with its arguments, and the name of its result. -/
structure Reducer where
  function : ReducerFunction
  args : List Token := []
  asName : Option String := none
deriving DecidableEq, Repr

namespace Reducer

def unary (function : ReducerFunction) (property : String) : Reducer := ⟨function, [property], none⟩

def count : Reducer := ⟨.count, [], none⟩

def quantile (property : String) (q : Binary64) : Reducer :=
  ⟨.quantile, [property, .ofReal q], none⟩

def randomSample (property : String) (size : Nat) : Reducer :=
  ⟨.randomSample, [property, .ofNat size], none⟩

/-- The first value of a property, in the order of another one if it is given. -/
def firstValue (property : String) : Option (String × SortOrder) → Reducer
  | none => ⟨.firstValue, [property], none⟩
  | some (field, order) => ⟨.firstValue, [property, "BY", field, order.keyword], none⟩

def named (r : Reducer) (name : String) : Reducer := { r with asName := some name }

def tokens (r : Reducer) : Command :=
  "REDUCE" :: r.function.keyword :: (Command.counted r.args ++ Command.text "AS" r.asName)

end Reducer

end SearchWire
