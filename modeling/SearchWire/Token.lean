import SearchWire.Number.Notation
import SearchWire.Text.Utf8

/-!
# Tokens

One argument of a command: a string of octets, so that vectors travel beside keywords and names.

* `Token.ofString`, `Token.ofNat`, `Token.ofInt`, `Token.ofReal`, `Token.ofVector`;
* `Token.text`: a token as text, for labels and display.
-/

namespace SearchWire

/-- One argument of a command. -/
structure Token where
  octets : List UInt8
deriving DecidableEq, Repr

namespace Token

def ofString (s : String) : Token := ⟨Text.octets s⟩

instance : Coe String Token := ⟨ofString⟩

/-- The token of a natural number, in decimal. -/
def ofNat (n : Nat) : Token := ofString (toString n)

/-- The token of an integer, in decimal. -/
def ofInt (n : Int) : Token := ofString (toString n)

/-- The text of a number inside a command. -/
def realText (x : Binary64) : String := Notation.token.write x

def ofReal (x : Binary64) : Token := ofString (realText x)

/-- The token of a vector: four octets for each component, the lowest first. -/
def ofVector (v : List Binary32) : Token := ⟨v.flatMap Binary32.bytes⟩

/-- The token as text; octets that are no text are repaired. -/
def text (t : Token) : String := Text.ofOctets t.octets

/-- The number of octets. -/
def size (t : Token) : Nat := t.octets.length

@[simp] theorem ofString_inj {s t : String} : ofString s = ofString t ↔ s = t := by
  simp [ofString, Text.octets_inj]

@[simp] theorem text_ofString (s : String) : (ofString s).text = s := Text.ofOctets_octets s

end Token

end SearchWire
