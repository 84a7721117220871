import SearchWire.Reply.Value
import SearchWire.Text.Quoted

/-!
# Descriptions of replies

How a reply is shown in the message of a fault.

* `Reply.describe`.
-/

namespace SearchWire

def Markup.describe : Markup → String
  | .plain => "Text"
  | .markdown => "Markdown"
  | .other name => "Unknown(" ++ Text.quote name ++ ")"

namespace Reply

/-- Parts in square brackets. -/
def bracketed (parts : List String) : String := "[" ++ String.intercalate ", " parts ++ "]"

/-- A bulk string: its text, or its octets if it is no text. -/
def describeOctets (octets : List UInt8) : String :=
  match Text.ofOctets? octets with
  | some s => "bulk-string('" ++ Text.quote s ++ "')"
  | none => "binary-data(" ++ bracketed (octets.map fun b => toString b.toNat) ++ ")"

/-- An error of the server. -/
def describeError (code : String) (details : Option String) : String :=
  "Server error: \x60" ++ code ++ (details.map (": " ++ ·)).getD "" ++ "\x60"

mutual

/-- The description of a reply; attributes are not shown. -/
def describe : Reply → String
  | .nil => "nil"
  | .okay => "ok"
  | .boolean b => "boolean(" ++ toString b ++ ")"
  | .int n => "int(" ++ toString n ++ ")"
  | .double x => "double(" ++ Notation.literal.write x ++ ")"
  | .bigNumber n => "big-number(" ++ toString n ++ ")"
  | .bulk octets => describeOctets octets
  | .simple s => "simple-string(" ++ Text.quote s ++ ")"
  | .verbatim markup s => "verbatim-string(" ++ markup.describe ++ "," ++ Text.quote s ++ ")"
  | .array items => "array(" ++ bracketed (describeItems items) ++ ")"
  | .set items => "set(" ++ bracketed (describeItems items) ++ ")"
  | .push items => "push(Message, " ++ bracketed (describeItems items) ++ ")"
  | .map entries => "map(" ++ bracketed (describeEntries entries) ++ ")"
  | .attribute data _ => "attribute(" ++ describe data ++ ")"
  | .serverError code details => describeError code details

def describeItems : List Reply → List String
  | [] => []
  | item :: rest => describe item :: describeItems rest

def describeEntries : List (Reply × Reply) → List String
  | [] => []
  | (key, value) :: rest =>
    ("(" ++ describe key ++ ", " ++ describe value ++ ")") :: describeEntries rest

end

end Reply

end SearchWire
