/-!
# Letter case

* `upper`, `lower`: text with its ASCII letters in one case; all else stays.
-/

namespace SearchWire.Text

/-- The text with its ASCII letters in upper case. -/
def upper (s : String) : String := String.ofList (s.toList.map Char.toUpper)

/-- The text with its ASCII letters in lower case. -/
def lower (s : String) : String := String.ofList (s.toList.map Char.toLower)

end SearchWire.Text
