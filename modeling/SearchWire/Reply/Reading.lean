import SearchWire.Bindings
import SearchWire.Fault
import SearchWire.Number.Numeral

/-!
# Reading replies

The readers of scalars, lists and tables. Each is given the name of the command, which the fault
of a reply of the wrong shape names.

* `Reply.natural?`, `Reply.real?`: scalars as numbers;
* `Reply.string`, `Reply.integer`, `Reply.expectOk`, `Reply.items`, `Reply.strings`;
* `Reply.entries`: the keys and values of a table in any of its forms.
-/

namespace SearchWire.Reply

/-- A scalar as a natural number of at most 64 bits. -/
def natural? : Reply → Option Nat
  | .int n => if 0 ≤ n then some n.toNat else none
  | r => r.text?.bind Numeral.natural?

/-- A scalar as a binary number. -/
def real? : Reply → Option Binary64
  | .double x => some x
  | .int n => some (.ofInt n)
  | r => r.text?.bind Numeral.real?

variable (command : String)

/-- The text of a scalar. -/
def string (r : Reply) : Except Fault String :=
  match r.text? with
  | some s => .ok s
  | none => .error (.reply command (.notString r))

/-- A scalar as an integer. -/
def integer : Reply → Except Fault Int
  | .int n => .ok n
  | r =>
    match r.text?.bind Numeral.integer? with
    | some n => .ok n
    | none => .error (.reply command (.notInteger r))

/-- The status `OK`, in letters of either case. -/
def expectOk : Reply → Except Fault Unit
  | .okay => .ok ()
  | r@(.simple s) => if Text.upper s = "OK" then .ok () else .error (.reply command (.notOk r))
  | r => .error (.reply command (.notOk r))

/-- The items of an array or a set; nil has none. -/
def items : Reply → Except Fault (List Reply)
  | .array items | .set items => .ok items
  | .nil => .ok []
  | r => .error (.reply command (.notArray r))

/-- The texts of a list of scalars. -/
def strings (r : Reply) : Except Fault (List String) := do
  (← items command r).mapM (string command)

/-! ## Tables -/

/-- An array of two. -/
def couple? : Reply → Option (Reply × Reply)
  | .array [key, value] => some (key, value)
  | _ => none

/-- A non-empty list of arrays of two. -/
def couples? : List Reply → Option (List (Reply × Reply))
  | [] => none
  | items => items.mapM couple?

/-- Keys and values in turn, if their number is even. -/
def inTurn? : List Reply → Option (List (Reply × Reply))
  | [] => some []
  | [_] => none
  | key :: value :: rest => (inTurn? rest).map ((key, value) :: ·)

/-- The keys and values of a list: arrays of two, or keys and values in turn. -/
def entriesOfItems (items : List Reply) : Except Fault (List (Reply × Reply)) :=
  match couples? items <|> inTurn? items with
  | some entries => .ok entries
  | none => .error (.reply command (.oddLength items.length))

/-- The keys and values of a table: a map, arrays of two, or keys and values in turn. -/
def entries : Reply → Except Fault (List (Reply × Reply))
  | .map entries => .ok entries
  | r => do entriesOfItems command (← items command r)

/-- A table with its keys as text and its values read; the last value of a key counts. -/
def table {α : Type} (read : Reply → Except Fault α) (r : Reply) : Except Fault (Bindings α) := do
  let pairs ← (← entries command r).mapM fun e => do
    let key ← string command e.1
    let value ← read e.2
    return (key, value)
  return .ofList pairs

/-- The text of a scalar; what has none counts as empty. -/
def stringOrEmpty (r : Reply) : String := r.text?.getD ""

end SearchWire.Reply
