import SearchWire.Proofs.Session.Exchange
import SearchWire.Proofs.Text.LetterCase

/-!
# The schema after a script

A field joins the schema when the server agrees to add it, and by no other way. So the schema at
the end is the schema at the start and the fields of the alterations that succeeded, in order.

* `Reply.IsOk`, `Reply.expectOk_of_isOk`: the status `OK`;
* `Index.addFields`: fields at the end of the schema;
* `Turn.agreedField?`, `Turn.Followed`, `Turn.followed`: one call of a script;
* `Session.Followed`, **`Session.followed_afterAll`**: a whole script.
-/

namespace SearchWire

/-! ## The status OK -/

namespace Text

theorem upper_eq_OK_iff {s : String} : upper s = "OK" ↔ s ∈ ["OK", "Ok", "oK", "ok"] := by
  have hO {c : Char} : c.toUpper = 'O' ↔ c = 'O' ∨ c = 'o' := toUpper_eq_iff (by decide) rfl
  have hK {c : Char} : c.toUpper = 'K' ↔ c = 'K' ∨ c = 'k' := toUpper_eq_iff (by decide) rfl
  constructor
  · intro h
    have hmap : s.toList.map Char.toUpper = ['O', 'K'] := by
      rw [← String.toList_ofList (l := s.toList.map _), ← upper, h]
      rfl
    obtain ⟨a, rest, hs, ha, hrest⟩ := List.map_eq_cons_iff.mp hmap
    obtain ⟨b, _, rfl, hb, hnil⟩ := List.map_eq_cons_iff.mp hrest
    obtain rfl := List.map_eq_nil_iff.mp hnil
    obtain rfl : s = String.ofList [a, b] := by rw [← hs, String.ofList_toList]
    obtain rfl | rfl := hO.mp ha <;> obtain rfl | rfl := hK.mp hb <;> decide
  · simp only [List.mem_cons, List.not_mem_nil, or_false]
    rintro (rfl | rfl | rfl | rfl) <;> rfl

end Text

namespace Reply

/-- The status `OK`, with letters of either case. -/
def IsOk (r : Reply) : Prop := r = .okay ∨ ∃ s ∈ ["OK", "Ok", "oK", "ok"], r = .simple s

variable {command : String} {r : Reply}

theorem expectOk_of_isOk (h : r.IsOk) : expectOk command r = .ok () := by
  obtain rfl | ⟨s, hs, rfl⟩ := h
  · rfl
  · rw [expectOk, if_pos (Text.upper_eq_OK_iff.mpr hs)]

theorem expectOk_of_not_isOk (h : ¬ r.IsOk) :
    expectOk command r = .error (.reply command (.notOk r)) := by
  unfold expectOk
  split
  · exact absurd (.inl rfl) h
  · rename_i s
    rw [if_neg fun hs => h (.inr ⟨s, Text.upper_eq_OK_iff.mp hs, rfl⟩)]
  · rfl

end Reply

/-! ## Fields at the end of the schema -/

namespace Index

variable (x : Index) (fields more : List Field)

/-- The index with more fields at the end of its schema. -/
def addFields : Index := { x with schema := ⟨x.schema.fields ++ fields⟩ }

@[simp] theorem addFields_nil : x.addFields [] = x := by
  rw [addFields, List.append_nil]

@[simp] theorem addFields_addFields :
    (x.addFields fields).addFields more = x.addFields (fields ++ more) := by
  simp only [addFields, List.append_assoc]

theorem createCommand_addFields :
    (x.addFields fields).createCommand = x.createCommand ++ fields.flatMap Field.tokens := by
  simp [createCommand, addFields, on, keyLead, Schema.tokens]

/-- A key that means a field of the schema still means it. -/
theorem find?_addFields {key : String} {f : Field} (h : x.schema.find? key = some f) :
    (x.addFields fields).schema.find? key = some f := by
  have hfind : x.schema.fields.find? (·.answersTo key) = some f := h
  simp [addFields, Schema.find?, hfind]

end Index

/-! ## One call -/

namespace Session

variable (s : Session) (a : Answer)

theorem accept_alter (f : Field) (skip : Bool) :
    (s.accept (.alter f skip) a).index = s.index.addFields [f] := rfl

theorem accept_index {c : Call} (hc : ∀ f skip, c ≠ .alter f skip) :
    (s.accept c a).index = s.index := by
  unfold accept
  split
  · exact absurd rfl (hc _ _)
  · rfl
  · rfl

end Session

namespace Turn

variable (t : Turn)

/-- The field of an alteration that succeeded. -/
def agreedField? : Option Field :=
  match t.call, t.outcome with
  | .alter f _, .ok _ => some f
  | _, _ => none

/-- What a call does to the index. -/
structure Followed : Prop where
  agreed : ∀ f skip r, t.call = .alter f skip → t.answer = .ok r → r.IsOk →
    t.outcome = .ok .done ∧ t.after.index = t.before.index.addFields [f]
  disagreed : ∀ f skip r, t.call = .alter f skip → t.answer = .ok r → ¬ r.IsOk →
    t.outcome = .error (.reply "FT.ALTER" (.notOk r)) ∧ t.after.index = t.before.index
  failed : ∀ f skip message, t.call = .alter f skip → t.answer = .error message →
    t.outcome = .error (.transport message) ∧ t.after.index = t.before.index
  other : (∀ f skip, t.call ≠ .alter f skip) → t.after.index = t.before.index

variable {t}

theorem agreedField?_of_ok {f : Field} {skip : Bool} {a : Answer} (hcall : t.call = .alter f skip)
    (hout : t.outcome = .ok a) : t.agreedField? = some f := by
  rw [agreedField?, hcall, hout]

theorem agreedField?_of_error {fault : Fault} (hout : t.outcome = .error fault) :
    t.agreedField? = none := by
  rw [agreedField?, hout]
  split <;> trivial

theorem agreedField?_of_ne (hcall : ∀ f skip, t.call ≠ .alter f skip) : t.agreedField? = none := by
  unfold agreedField?
  split
  · exact absurd ‹_› (hcall _ _)
  · rfl

variable (t) in
/-- Only an alteration that succeeded changes the index. -/
theorem index_after : t.after.index = t.before.index.addFields t.agreedField?.toList := by
  obtain ⟨fault, -, hcall⟩ | ⟨command, fault, -, -, hcall⟩ | ⟨command, a, -, -, hcall⟩ :=
    t.before.call_cases t.call
  · have hout : t.outcome = .error fault := by rw [outcome, hcall]
    simp [after, hcall, agreedField?_of_error hout]
  · have hout : t.outcome = .error fault := by rw [outcome, hcall]
    simp [after, hcall, agreedField?_of_error hout]
  · have hout : t.outcome = .ok a := by rw [outcome, hcall]
    by_cases halter : ∃ f skip, t.call = .alter f skip
    · obtain ⟨f, skip, hc⟩ := halter
      rw [after, hcall, hc, Session.accept_alter, agreedField?_of_ok hc hout]
      rfl
    · have hc : ∀ f skip, t.call ≠ .alter f skip := fun f skip h => halter ⟨f, skip, h⟩
      simp [after, hcall, agreedField?_of_ne hc, Session.accept_index _ _ hc]

theorem not_refused_of_alter {f : Field} {skip : Bool} (hcall : t.call = .alter f skip) :
    ¬ t.Refused := by
  have hcommand : t.command? = some (t.before.index.alterCommand f skip) := by
    rw [command?, hcall]
    rfl
  simp [t.exchanged.refused_iff, hcommand]

variable (t) in
/-- **An alteration changes the index if it is answered with `OK`, and no other call does.** -/
theorem followed : t.Followed where
  agreed f skip r hcall hanswer hr := by
    have hout : t.outcome = .ok .done := by
      rw [t.exchanged.replied r (not_refused_of_alter hcall) hanswer, hcall, Call.read, Call.agreed,
        Reply.expectOk_of_isOk hr]
      rfl
    exact ⟨hout, by rw [index_after, agreedField?_of_ok hcall hout]; rfl⟩
  disagreed f skip r hcall hanswer hr := by
    have hout : t.outcome = .error (.reply "FT.ALTER" (.notOk r)) := by
      rw [t.exchanged.replied r (not_refused_of_alter hcall) hanswer, hcall, Call.read, Call.agreed,
        Reply.expectOk_of_not_isOk hr]
      rfl
    exact ⟨hout, by simp [index_after, agreedField?_of_error hout]⟩
  failed f skip message hcall hanswer := by
    have hout := t.exchanged.failed message (not_refused_of_alter hcall) hanswer
    exact ⟨hout, by simp [index_after, agreedField?_of_error hout]⟩
  other hcall := by simp [index_after, agreedField?_of_ne hcall]

end Turn

/-! ## Scripts -/

namespace Session

/-- The fields of the alterations that succeeded in a script, in order. -/
def agreedFields (s : Session) (events : List Event) : List Field :=
  (s.turns events).filterMap Turn.agreedField?

theorem index_afterAll (s : Session) (events : List Event) :
    (s.afterAll events).index = s.index.addFields (s.agreedFields events) := by
  induction events generalizing s with
  | nil => simp [afterAll, agreedFields, turns]
  | cons e rest ih =>
    rw [afterAll_cons, ih]
    cases e with
    | reply r => rfl
    | failure message => rfl
    | call c =>
      have hindex : (s.after (.call c)).index = _ := Turn.index_after ⟨s, c⟩
      rw [hindex, Index.addFields_addFields, agreedFields, agreedFields, filterMap_turns_call]

/-- What a script does to the index. -/
structure Followed (s : Session) (events : List Event) : Prop where
  turn : ∀ t ∈ s.turns events, t.Followed
  schema : (s.afterAll events).index.schema.fields =
    s.index.schema.fields ++ s.agreedFields events
  create : (s.afterAll events).index.createCommand =
    s.index.createCommand ++ (s.agreedFields events).flatMap Field.tokens
  find? : ∀ key f, s.index.schema.find? key = some f →
    (s.afterAll events).index.schema.find? key = some f

/-- **The schema follows the alterations that the server agreed to, and nothing else.** -/
theorem followed_afterAll (s : Session) (events : List Event) : s.Followed events where
  turn t _ := t.followed
  schema := by rw [index_afterAll]; rfl
  create := by rw [index_afterAll, Index.createCommand_addFields]
  find? key f h := by rw [index_afterAll]; exact s.index.find?_addFields _ h

end Session

end SearchWire
