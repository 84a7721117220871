import SearchWire.Json.Basic
import SearchWire.Number.Numeral

/-!
# Reading JSON text

* `Json.number?`: a literal without point or exponent that fits 64 bits is whole, any other is the
  nearest binary number, and `-0` is negative zero;
* `Json.stringBody?`: the rest of a string with its escapes;
* `Json.ofChars?`, `Json.parse?`: a repeated name keeps its first place and its last value.
-/

namespace SearchWire.Json

/-- Drop blanks. -/
def skip (cs : List Char) : List Char :=
  cs.dropWhile fun c => c == ' ' || c == '\t' || c == '\n' || c == '\r'

/-- Whether a character can stand in a number. -/
def inNumber (c : Char) : Bool :=
  c.isDigit || c == '-' || c == '+' || c == '.' || c == 'e' || c == 'E'

/-- Whether digits are a whole part: no zero stands before another digit. -/
def wholePart : List Char → Bool
  | ['0'] => true
  | '0' :: _ => false
  | cs => !cs.isEmpty && cs.all Char.isDigit

def number? (cs : List Char) : Option Json := do
  let (negative, body) := match cs with
    | '-' :: rest => (true, rest)
    | cs => (false, cs)
  let whole := body.takeWhile Char.isDigit
  guard (wholePart whole)
  if whole.length = body.length then
    let n ← Numeral.digitsValue? whole
    let value : Int := if negative then -n else n
    if negative ∧ n = 0 then return .real (.zero true)
    else if -(Numeral.halfWords : Int) ≤ value ∧ value < Numeral.words then return .int value
    else return .real (.ofDecimal negative ⟨n, 0⟩)
  else
    let (significand, power) := Numeral.cut (fun c => c == 'e' || c == 'E') body
    let (_, places) := Numeral.cut (· == '.') significand
    guard (places ≠ some [] ∧ power ≠ some [])
    let d ← Numeral.decimal? body
    return .real (.ofDecimal negative d)

def hexDigit? (c : Char) : Option Nat :=
  if c.isDigit then some (c.toNat - '0'.toNat)
  else if 'a' ≤ c ∧ c ≤ 'f' then some (c.toNat - 'a'.toNat + 10)
  else if 'A' ≤ c ∧ c ≤ 'F' then some (c.toNat - 'A'.toNat + 10)
  else none

def unit? (a b c d : Char) : Option Nat := do
  return (((← hexDigit? a) * 16 + (← hexDigit? b)) * 16 + (← hexDigit? c)) * 16 + (← hexDigit? d)

/-- The character of an escape of one letter. -/
def shortEscape? : Char → Option Char
  | '"' => some '"'
  | '\\' => some '\\'
  | '/' => some '/'
  | 'b' => some '\x08'
  | 'f' => some '\x0c'
  | 'n' => some '\n'
  | 'r' => some '\r'
  | 't' => some '\t'
  | _ => none

/-- The characters of a string up to its closing quote, and what follows it. A character above the
basic plane is escaped as two units, the high one first; a unit alone is refused. -/
def stringBody? : List Char → Option (List Char × List Char)
  | '"' :: rest => some ([], rest)
  | '\\' :: 'u' :: a :: b :: c :: d :: rest => do
    let high ← unit? a b c d
    if high < 0xD800 ∨ 0xE000 ≤ high then
      let (s, rest) ← stringBody? rest
      return (Char.ofNat high :: s, rest)
    else
      match rest with
      | '\\' :: 'u' :: e :: f :: g :: h :: rest => do
        let low ← unit? e f g h
        guard (high < 0xDC00 ∧ 0xDC00 ≤ low ∧ low < 0xE000)
        let (s, rest) ← stringBody? rest
        return (Char.ofNat (0x10000 + (high - 0xD800) * 0x400 + (low - 0xDC00)) :: s, rest)
      | _ => none
  | '\\' :: c :: rest => do
    let e ← shortEscape? c
    let (s, rest) ← stringBody? rest
    return (e :: s, rest)
  | c :: rest =>
    if c.toNat < 0x20 ∨ c = '\\' then none
    else do
      let (s, rest) ← stringBody? rest
      return (c :: s, rest)
  | [] => none

mutual

/-- A value at the head of a text, and what follows it. Every call takes one unit of fuel, and no
more calls are needed than the text has characters. -/
def value? : Nat → List Char → Option (Json × List Char)
  | 0, _ => none
  | fuel + 1, cs =>
    match skip cs with
    | 'n' :: 'u' :: 'l' :: 'l' :: rest => some (.null, rest)
    | 't' :: 'r' :: 'u' :: 'e' :: rest => some (.bool true, rest)
    | 'f' :: 'a' :: 'l' :: 's' :: 'e' :: rest => some (.bool false, rest)
    | '"' :: rest => do
      let (s, rest) ← stringBody? rest
      return (.string (String.ofList s), rest)
    | '[' :: rest =>
      match skip rest with
      | ']' :: rest => some (.array [], rest)
      | _ => do
        let (items, rest) ← items? fuel rest
        return (.array items, rest)
    | '\x7b' :: rest =>
      match skip rest with
      | '\x7d' :: rest => some (.object [], rest)
      | _ => do
        let (members, rest) ← members? fuel rest
        return (.object (Bindings.ofList members), rest)
    | cs => do
      let n ← number? (cs.takeWhile inNumber)
      return (n, cs.dropWhile inNumber)

/-- The items of an array up to its closing bracket. -/
def items? : Nat → List Char → Option (List Json × List Char)
  | 0, _ => none
  | fuel + 1, cs => do
    let (item, rest) ← value? fuel cs
    match skip rest with
    | ',' :: rest => do
      let (items, rest) ← items? fuel rest
      return (item :: items, rest)
    | ']' :: rest => return ([item], rest)
    | _ => none

/-- The members of an object up to its closing brace. -/
def members? : Nat → List Char → Option (List (String × Json) × List Char)
  | 0, _ => none
  | fuel + 1, cs => do
    match skip cs with
    | '"' :: rest => do
      let (name, rest) ← stringBody? rest
      match skip rest with
      | ':' :: rest => do
        let (value, rest) ← value? fuel rest
        let member := (String.ofList name, value)
        match skip rest with
        | ',' :: rest => do
          let (members, rest) ← members? fuel rest
          return (member :: members, rest)
        | '\x7d' :: rest => return ([member], rest)
        | _ => none
      | _ => none
    | _ => none

end

/-- The value that a text holds, with nothing but blanks around it. -/
def ofChars? (cs : List Char) : Option Json := do
  let (j, rest) ← value? (cs.length + 1) cs
  guard (skip rest).isEmpty
  return j

def parse? (s : String) : Option Json := ofChars? s.toList

end SearchWire.Json
