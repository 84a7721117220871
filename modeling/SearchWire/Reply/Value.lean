import SearchWire.Number.Notation
import SearchWire.Text.Utf8

/-!
# Replies

What a server answers, in the richest form of the protocol.

* `Reply`, `Reply.text?`: the text of a scalar.
-/

namespace SearchWire

/-- The markup of a verbatim string. -/
inductive Markup where
  | plain
  | markdown
  | other (name : String)
deriving DecidableEq, Repr

/-- A reply of the server. -/
inductive Reply where
  | nil
  | okay
  | boolean (b : Bool)
  | int (n : Int)
  | double (x : Binary64)
  | bigNumber (n : Int)
  | bulk (octets : List UInt8)
  | simple (s : String)
  | verbatim (markup : Markup) (s : String)
  | array (items : List Reply)
  | set (items : List Reply)
  | push (items : List Reply)
  | map (entries : List (Reply × Reply))
  /-- A reply with attributes beside it. -/
  | attribute (data : Reply) (attributes : List (Reply × Reply))
  | serverError (code : String) (details : Option String)
deriving Repr, Inhabited

namespace Reply

def ofString (s : String) : Reply := .bulk (Text.octets s)

/-- The text of a scalar. Aggregates, nil, big numbers and errors have none. -/
def text? : Reply → Option String
  | .bulk octets => some (Text.ofOctets octets)
  | .simple s => some s
  | .okay => some "OK"
  | .int n => some (toString n)
  | .double x => some (Notation.plain.write x)
  | .boolean b => some (toString b)
  | .verbatim _ s => some s
  | _ => none

@[simp] theorem text?_ofString (s : String) : (ofString s).text? = some s := by
  simp [ofString, text?]

end Reply

end SearchWire
