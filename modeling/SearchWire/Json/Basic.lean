import SearchWire.Bindings
import SearchWire.Number.Binary

/-!
# JSON values

Values of option objects, documents and settings. The members of an object keep their order, and
a whole number is told apart from a binary number.

* `Json`, `Json.Kind`, `Json.kind`;
* `Json.real?`, `Json.member?`.
-/

namespace SearchWire

/-- A JSON value. No name occurs twice among the members of an object. -/
inductive Json where
  | null
  | bool (b : Bool)
  /-- A whole number of at most 64 bits. -/
  | int (n : Int)
  /-- Any other number. -/
  | real (x : Binary64)
  | string (s : String)
  | array (items : List Json)
  | object (members : List (String × Json))
deriving Repr, Inhabited

namespace Json

inductive Kind where
  | null
  | boolean
  | number
  | string
  | array
  | object
deriving DecidableEq, Repr

def Kind.word : Kind → String
  | .null => "null"
  | .boolean => "boolean"
  | .number => "number"
  | .string => "string"
  | .array => "array"
  | .object => "object"

def kind : Json → Kind
  | .null => .null
  | .bool _ => .boolean
  | .int _ | .real _ => .number
  | .string _ => .string
  | .array _ => .array
  | .object _ => .object

/-- The number that a value is, as a binary number. -/
def real? : Json → Option Binary64
  | .int n => some (.ofInt n)
  | .real x => some x
  | _ => none

/-- The member of an object under a name; what is no object has none, and a null member counts as
absent. -/
def member? (name : String) : Json → Option Json
  | .object members =>
    match Bindings.find? members name with
    | some .null => none
    | found => found
  | _ => none

end Json

end SearchWire
