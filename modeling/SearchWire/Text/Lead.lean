/-!
# Leading text

* `dropLead?`: what follows a leading text, `dropLead?_append`.
-/

namespace SearchWire.Text

/-- What follows the characters `lead`, if the others begin with them. -/
def dropChars? : List Char → List Char → Option (List Char)
  | [], cs => some cs
  | _ :: _, [] => none
  | l :: lead, c :: cs => if l = c then dropChars? lead cs else none

/-- What follows `lead` in `s`, if `s` begins with it. -/
def dropLead? (lead s : String) : Option String :=
  (dropChars? lead.toList s.toList).map String.ofList

theorem dropChars?_append (lead cs : List Char) : dropChars? lead (lead ++ cs) = some cs := by
  induction lead with
  | nil => rfl
  | cons l lead ih => simp [dropChars?, ih]

@[simp] theorem dropLead?_append (lead s : String) : dropLead? lead (lead ++ s) = some s := by
  simp [dropLead?, dropChars?_append]

end SearchWire.Text
