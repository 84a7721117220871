import SearchWire.Command
import SearchWire.Fault

/-!
# The wire

A connection in memory: it keeps the commands that were sent, and answers from a queue of replies.

* `Wire`, `Wire.send`, `Wire.queueReply`, `Wire.queueFailure`.
-/

namespace SearchWire

/-- A connection in memory. -/
structure Wire where
  /-- The commands that were sent, the oldest first. -/
  sent : List Command := []
  /-- The answers to come, the next first: a reply, or the message of a failure. -/
  queue : List (Except String Reply) := []

namespace Wire

def queueReply (w : Wire) (r : Reply) : Wire := { w with queue := w.queue ++ [.ok r] }

def queueFailure (w : Wire) (message : String) : Wire :=
  { w with queue := w.queue ++ [.error message] }

/-- The next answer: `OK` once the queue is empty. -/
def answer (w : Wire) : Except Fault Reply :=
  match w.queue with
  | [] => .ok .okay
  | .ok r :: _ => .ok r
  | .error message :: _ => .error (.transport message)

/-- Send a command: it is kept, and the next answer is taken off the queue. -/
def send (w : Wire) (command : Command) : Wire × Except Fault Reply :=
  (⟨w.sent ++ [command], w.queue.tail⟩, w.answer)

end Wire

end SearchWire
