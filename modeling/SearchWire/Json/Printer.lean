import SearchWire.Json.Basic
import SearchWire.Number.Notation
import SearchWire.Text.Quoted

/-!
# Compact JSON text

The text of a JSON value without blanks, the members of an object in their order.

* `Json.escape`, `Json.quote`: strings; only quotes, backslashes and characters below the blank
  are escaped;
* `Json.print`.
-/

namespace SearchWire.Json

/-- A character as it stands inside a JSON string. -/
def escape (c : Char) : List Char :=
  match c with
  | '"' => ['\\', '"']
  | '\\' => ['\\', '\\']
  | '\x08' => ['\\', 'b']
  | '\x0c' => ['\\', 'f']
  | '\n' => ['\\', 'n']
  | '\r' => ['\\', 'r']
  | '\t' => ['\\', 't']
  | c =>
    if c.toNat < 0x20 then
      let digits := Text.hex c.toNat
      '\\' :: 'u' :: '0' :: '0' :: (if c.toNat < 0x10 then '0' :: digits else digits)
    else [c]

def quote (s : String) : List Char := '"' :: (s.toList.flatMap escape ++ ['"'])

/-- Items between commas. -/
def joinItems : List (List Char) → List Char
  | [] => []
  | [item] => item
  | item :: rest => item ++ ',' :: joinItems rest

mutual

def chars : Json → List Char
  | .null => "null".toList
  | .bool b => (toString b).toList
  | .int n => (toString n).toList
  | .real x => (Notation.json.write x).toList
  | .string s => quote s
  | .array items => '[' :: (joinItems (itemChars items) ++ [']'])
  | .object members => '\x7b' :: (joinItems (memberChars members) ++ ['\x7d'])

def itemChars : List Json → List (List Char)
  | [] => []
  | item :: rest => chars item :: itemChars rest

def memberChars : List (String × Json) → List (List Char)
  | [] => []
  | (name, value) :: rest => (quote name ++ ':' :: chars value) :: memberChars rest

end

def print (j : Json) : String := String.ofList j.chars

end SearchWire.Json
