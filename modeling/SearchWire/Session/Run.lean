import SearchWire.Session.Call
import SearchWire.Session.Metric
import SearchWire.Session.Wire

/-!
# Sessions

Calls on one index over one wire. A call that is refused sends nothing; any other call is exactly
one exchange. The schema follows the alterations that the server agreed to.

* `Session`, `Session.reject`, `Session.exchange`, `Session.accept`;
* `Session.call`, `Session.callAll`.
-/

namespace SearchWire

/-- An index, its wire, and what was recorded so far. -/
structure Session where
  index : Index
  wire : Wire := {}
  /-- The records, the oldest first. -/
  metrics : List Metric := []

/-- The name of a command: its first token. -/
def Command.name (c : Command) : String := (c.head?.map Token.text).getD ""

namespace Session

/-- More records. -/
def record (s : Session) (ms : List Metric) : Session := { s with metrics := s.metrics ++ ms }

/-- Note that a call was refused. -/
def reject (s : Session) (fault : Fault) : Session := s.record [.rejection fault.kind]

/-- Send a command and take the answer. -/
def exchange (s : Session) (c : Command) : Session × Except Fault Reply :=
  let (wire, answer) := s.wire.send c
  ({ s with wire }.record [.command c.name answer.isOk, .latency c.name], answer)

/-- What an answer changes: a field that was added joins the schema, and the documents of a search
are counted. -/
def accept (s : Session) : Call → Answer → Session
  | .alter f _, _ => { s with index := { s.index with schema := s.index.schema.push f } }
  | .search .., .results r => s.record [.documents r.documents.length]
  | _, _ => s

/-- One call: the session after it, and its answer. -/
def call (s : Session) (c : Call) : Session × Except Fault Answer :=
  match c.command s.index with
  | .error fault => (s.reject fault, .error fault)
  | .ok command =>
    let (sent, answer) := s.exchange command
    match answer.bind (c.read s.index) with
    | .error fault => (sent, .error fault)
    | .ok a => (sent.accept c a, .ok a)

/-- Some calls: the session after them, and their answers. -/
def callAll (s : Session) : List Call → Session × List (Except Fault Answer)
  | [] => (s, [])
  | c :: rest =>
    let (s, answer) := s.call c
    let (s, answers) := s.callAll rest
    (s, answer :: answers)

end Session

end SearchWire
