import SearchWire.Bindings
import SearchWire.Token

/-!
# Commands

A command is a flat list of tokens, put together from blocks. A block that is not wanted is empty,
and a list in a command stands after the number of its items.

* `Command.part`, `Command.flag`, `Command.text`, `Command.number`, `Command.real`;
* `Command.counted`, `Command.listing`, `Command.table`, `Command.params`;
* `Command.table_eq_counted`: the number in a table is that of the tokens after it.
-/

namespace SearchWire

/-- The tokens of a command or of a part of one. -/
abbrev Command := List Token

namespace Command

/-- The tokens of a part, if there is one. -/
def part {α : Type} (tokens : α → Command) : Option α → Command
  | none => []
  | some a => tokens a

/-- A word that stands if `on`. -/
def flag (word : String) (on : Bool) : Command := if on then [word] else []

@[simp] theorem flag_false (word : String) : flag word false = [] := rfl

/-- A word and the text after it, if there is one. -/
def text (word : String) : Option String → Command := part fun s => [word, s]

/-- A word and the natural number after it, if there is one. -/
def number (word : String) : Option Nat → Command := part fun n => [word, .ofNat n]

/-- A word and the binary number after it, if there is one. -/
def real (word : String) : Option Binary64 → Command := part fun x => [word, .ofReal x]

def words (texts : List String) : Command := texts.map .ofString

/-- Items after their number. -/
def counted (items : Command) : Command := .ofNat items.length :: items

/-- A word and the items after it with their number, if there are any. -/
def listing (word : String) (items : Command) : Command :=
  if items.isEmpty then [] else word :: counted items

def entries (pairs : List (String × Token)) : Command := pairs.flatMap fun p => [p.1, p.2]

theorem length_entries (pairs : List (String × Token)) :
    (entries pairs).length = 2 * pairs.length := by
  induction pairs with
  | nil => rfl
  | cons p pairs ih =>
    have hlength : (entries (p :: pairs)).length = (entries pairs).length + 2 := rfl
    rw [hlength, ih, List.length_cons, Nat.mul_succ]

/-- A word, then names and values in turn after twice the number of the pairs. -/
def table (word : String) (pairs : List (String × Token)) : Command :=
  word :: .ofNat (pairs.length * 2) :: entries pairs

theorem table_eq_counted (word : String) (pairs : List (String × Token)) :
    table word pairs = (word : Token) :: counted (entries pairs) := by
  rw [table, counted, length_entries, Nat.mul_comm]

/-- The parameters of a query, if there are any. -/
def params (b : Bindings Token) : Command := if b.isEmpty then [] else table "PARAMS" b

end Command

end SearchWire
