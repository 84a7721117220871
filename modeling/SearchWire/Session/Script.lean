import SearchWire.Session.Run

/-!
# Scripts

Calls on one index, with answers queued on its wire between them.

* `Event`, `Session.after`, `Session.afterAll`;
* `Turn`: a call in the session in which it is made; `Session.turns`.
-/

namespace SearchWire

/-- What happens in a script: a reply or a failure is queued, or a call is made. -/
inductive Event where
  | reply (r : Reply)
  | failure (message : String)
  | call (c : Call)

/-- The answer that an event queues. -/
def Event.queued? : Event → Option (Except String Reply)
  | .reply r => some (.ok r)
  | .failure message => some (.error message)
  | .call _ => none

/-- A call in the session in which it is made. -/
structure Turn where
  before : Session
  call : Call

namespace Turn

variable (t : Turn)

/-- The session after the call. -/
def after : Session := (t.before.call t.call).1

/-- What the call gives. -/
def outcome : Except Fault Answer := (t.before.call t.call).2

end Turn

namespace Session

/-- The session after an event. -/
def after (s : Session) : Event → Session
  | .reply r => { s with wire := s.wire.queueReply r }
  | .failure message => { s with wire := s.wire.queueFailure message }
  | .call c => (s.call c).1

/-- The session after a script. -/
def afterAll (s : Session) (events : List Event) : Session := events.foldl after s

/-- The calls of a script, in order. -/
def turns (s : Session) : List Event → List Turn
  | [] => []
  | .reply r :: rest => (s.after (.reply r)).turns rest
  | .failure message :: rest => (s.after (.failure message)).turns rest
  | .call c :: rest => ⟨s, c⟩ :: (s.after (.call c)).turns rest

end Session

end SearchWire
