import SearchWire.Proofs.Bindings
import SearchWire.Proofs.Steps
import SearchWire.Reply.Reading

/-!
# Tables in replies

Keys and values in turn are read as the table they were written from.

* `Reply.inTurn`, `Reply.entries_inTurn`, **`Reply.table_inTurn`**.
-/

namespace SearchWire

namespace Reply

theorem string_eq_ok_iff {command s : String} {r : Reply} :
    string command r = .ok s ↔ r.text? = some s := by
  rw [string]
  cases r.text? <;> simp

theorem string_ofString (command s : String) : string command (ofString s) = .ok s := by
  rw [string, text?_ofString]

@[simp] theorem stringOrEmpty_ofString (s : String) : (ofString s).stringOrEmpty = s := by
  rw [stringOrEmpty, text?_ofString, Option.getD_some]

/-- Keys and values in turn. -/
def inTurn (entries : List (Reply × Reply)) : List Reply := entries.flatMap fun e => [e.1, e.2]

theorem inTurn?_inTurn (entries : List (Reply × Reply)) :
    inTurn? (inTurn entries) = some entries := by
  induction entries with
  | nil => rfl
  | cons e entries ih =>
    have he : inTurn? (inTurn (e :: entries)) =
        (inTurn? (inTurn entries)).map fun es => e :: es := rfl
    rw [he, ih, Option.map_some]

theorem couple?_of_text? {r : Reply} {s : String} (h : r.text? = some s) : couple? r = none := by
  cases r with
  | array items => cases h
  | _ => rfl

/-- A scalar at the front of a list shows that keys and values stand in turn. -/
theorem couples?_cons_of_text? {r : Reply} {s : String} (h : r.text? = some s)
    (rs : List Reply) : couples? (r :: rs) = none := by
  rw [couples?, List.mapM_cons, couple?_of_text? h]
  · rfl
  · exact fun h => nomatch h

theorem entries_inTurn (command : String) {entries : List (Reply × Reply)}
    (h : ∀ e ∈ entries, ∃ s, e.1.text? = some s) :
    (array (inTurn entries)).entries command = .ok entries := by
  have hitems : (array (inTurn entries)).entries command =
      entriesOfItems command (inTurn entries) := rfl
  rw [hitems, entriesOfItems, inTurn?_inTurn]
  cases entries with
  | nil => rfl
  | cons e entries =>
    obtain ⟨s, hs⟩ := h e List.mem_cons_self
    have hcouples : couples? (inTurn (e :: entries)) = none := couples?_cons_of_text? hs _
    rw [hcouples]
    rfl

/-- **Texts and texts in turn are read as the table they were written from,** each name with its
last value. -/
theorem table_inTurn (command : String) (pairs : List (String × String)) :
    table command (fun v => .ok v.stringOrEmpty)
        (.array (inTurn (pairs.map fun p => (ofString p.1, ofString p.2)))) =
      .ok (Bindings.ofList pairs) := by
  have hkeys : ∀ e ∈ pairs.map fun p => (ofString p.1, ofString p.2), ∃ s, e.1.text? = some s :=
    List.forall_mem_map.mpr fun p _ => ⟨p.1, text?_ofString p.1⟩
  have hread : (pairs.map fun p => (ofString p.1, ofString p.2)).mapM (fun e => do
      let key ← string command e.1
      let value ← Except.ok e.2.stringOrEmpty
      return (key, value)) = .ok pairs :=
    mapM_eq_ok_iff.mpr <| List.forall₂_map_left_iff.mpr <| List.forall₂_same.mpr fun p _ => by
      rw [string_ofString, stringOrEmpty_ofString]
      rfl
  unfold table
  rw [entries_inTurn command hkeys]
  simp only [Except.bind, bind] at hread ⊢
  rw [hread]
  rfl

end Reply

end SearchWire
