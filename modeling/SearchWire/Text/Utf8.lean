/-!
# UTF-8

Text as octets and octets as text. Octets that are no UTF-8 are repaired: each longest run that
could have begun a character, and each octet that could not, becomes one replacement character.

* `octets`, `ofOctets?`: the text that octets spell;
* `State`, `step`, `repair`: a machine that reads one octet at a time;
* `ofOctets`, `ofOctets_octets`.
-/

namespace SearchWire.Text

def octets (s : String) : List UInt8 := s.toUTF8.data.toList

/-- The text that well-formed octets spell. -/
def ofOctets? (bs : List UInt8) : Option String := String.fromUTF8? ⟨bs.toArray⟩

/-- Where the machine stands between two octets. -/
inductive State where
  /-- Between characters. -/
  | start
  /-- Inside a character with the bits `code` so far: `owed + 1` octets are to come, the next of
  them from `low` to `high`. -/
  | inside (code owed : Nat) (low high : UInt8)
deriving DecidableEq, Repr

/-- The character that stands for octets that are no text. -/
def replacement : Char := '\uFFFD'

/-- The first octet of a character. -/
def first (b : UInt8) : List Char × State :=
  let n := b.toNat
  if n < 0x80 then ([Char.ofNat n], .start)
  else if n < 0xC2 then ([replacement], .start)
  else if n < 0xE0 then ([], .inside (n % 0x20) 0 0x80 0xBF)
  else if n = 0xE0 then ([], .inside (n % 0x10) 1 0xA0 0xBF)
  else if n = 0xED then ([], .inside (n % 0x10) 1 0x80 0x9F)
  else if n < 0xF0 then ([], .inside (n % 0x10) 1 0x80 0xBF)
  else if n = 0xF0 then ([], .inside (n % 0x08) 2 0x90 0xBF)
  else if n < 0xF4 then ([], .inside (n % 0x08) 2 0x80 0xBF)
  else if n = 0xF4 then ([], .inside (n % 0x08) 2 0x80 0x8F)
  else ([replacement], .start)

/-- One octet: the characters it completes, and the state after it. An octet that cannot continue
the character ends it as ill-formed and begins anew. -/
def step : State → UInt8 → List Char × State
  | .start, b => first b
  | .inside code owed low high, b =>
    if low ≤ b ∧ b ≤ high then
      let code := code * 0x40 + b.toNat % 0x40
      match owed with
      | 0 => ([Char.ofNat code], .start)
      | owed + 1 => ([], .inside code owed 0x80 0xBF)
    else ((replacement :: (first b).1), (first b).2)

/-- The characters of octets from a state on. -/
def repairFrom : State → List UInt8 → List Char
  | .start, [] => []
  | .inside .., [] => [replacement]
  | s, b :: bs => (step s b).1 ++ repairFrom (step s b).2 bs

/-- The text of octets, with replacement characters for what is no text. -/
def repair (bs : List UInt8) : String := String.ofList (repairFrom .start bs)

/-- The text that octets spell; octets that spell none are repaired. -/
def ofOctets (bs : List UInt8) : String := (ofOctets? bs).getD (repair bs)

theorem octets_inj {s t : String} : octets s = octets t ↔ s = t := by
  constructor
  · intro h
    have hd : s.toUTF8 = t.toUTF8 := ByteArray.ext (Array.toList_inj.1 h)
    exact String.toByteArray_inj.1 hd
  · rintro rfl
    rfl

@[simp] theorem ofOctets?_octets (s : String) : ofOctets? (octets s) = some s := by
  simp [ofOctets?, octets, String.fromUTF8?, String.fromUTF8, s.isValidUTF8]

@[simp] theorem ofOctets_octets (s : String) : ofOctets (octets s) = s := by
  simp [ofOctets]

end SearchWire.Text
