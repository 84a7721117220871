import SearchWire.Fault

/-!
# Metrics

What is counted and measured while commands are sent.

* `Metric`, `Metric.name`, `Metric.labels`, `Metric.sample`.
-/

namespace SearchWire

/-- One record of a metric. -/
inductive Metric where
  /-- A command was sent, and a reply came or not. -/
  | command (name : String) (success : Bool)
  /-- The time that a command took. -/
  | latency (command : String)
  /-- A call was refused before anything was sent. -/
  | rejection (kind : Fault.Kind)
  /-- How many documents a search brought. -/
  | documents (count : Nat)
deriving DecidableEq, Repr

/-- What a record adds to its metric. -/
inductive Sample where
  | increment (n : Nat)
  | value (x : Binary64)
  /-- A duration, which no calculation fixes. -/
  | elapsed
deriving DecidableEq, Repr

namespace Metric

def name : Metric → String
  | .command .. => "redisearch_builder_commands_total"
  | .latency _ => "redisearch_builder_command_seconds"
  | .rejection _ => "redisearch_builder_validation_failures_total"
  | .documents _ => "redisearch_builder_search_results"

def status (success : Bool) : String := if success then "success" else "error"

def labels : Metric → List (String × String)
  | .command word success => [("command", word), ("status", status success)]
  | .latency word => [("command", word)]
  | .rejection kind => [("kind", kind.label)]
  | .documents _ => []

/-- What a record adds. -/
def sample : Metric → Sample
  | .command .. | .rejection _ => .increment 1
  | .latency _ => .elapsed
  | .documents count => .value (.ofInt count)

end Metric

end SearchWire
