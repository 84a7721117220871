import SearchWire.Text.GraphemeExtend
import SearchWire.Text.Unprintable

/-!
# Quoted text

Text between double quotes, as descriptions show it: quotes and backslashes are escaped, and so is
every character that could not be seen as itself.

* `isCombining`, `isHidden`: the characters that are escaped by their code points;
* `escape`, `quote`.
-/

namespace SearchWire.Text

def hex (n : Nat) : List Char := Nat.toDigits 16 n

/-- Whether a character changes the shape of the one before it. The half-width marks do not: they
belong to the character before them and yet stand in a place of their own. -/
def isCombining (c : Char) : Bool := graphemeExtend.holds c && !halfwidthMarks.holds c

/-- Whether a character could not be seen as itself: it has no shape of its own, or it changes that
of the character before it. -/
def isHidden (c : Char) : Bool := isCombining c || unprintable.holds c

/-- A character as it stands between the quotes. -/
def escape (c : Char) : List Char :=
  match c with
  | '"' => ['\\', '"']
  | '\\' => ['\\', '\\']
  | '\t' => ['\\', 't']
  | '\r' => ['\\', 'r']
  | '\n' => ['\\', 'n']
  | '\x00' => ['\\', '0']
  | c => if isHidden c then '\\' :: 'u' :: '\x7b' :: (hex c.toNat ++ ['\x7d']) else [c]

def quote (s : String) : String := String.ofList ('"' :: (s.toList.flatMap escape ++ ['"']))

end SearchWire.Text
