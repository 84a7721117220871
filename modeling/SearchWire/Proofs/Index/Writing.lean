import SearchWire.Proofs.Index.Validation
import SearchWire.Proofs.Number.Vector
import SearchWire.Proofs.Reply.Documents

/-!
# Writing documents

A document is checked before it is written, in the same way for all storages. Then a hash gets
every member that is not null once, in the order of the document, and a JSON value gets the whole
document.

* `Schema.FirstHas`, `Schema.Refuses`: the members that a schema refuses;
  `Index.checkDocument_eq_error_iff`: the first of them is the fault;
* `Stores`, `stores_of_hashValue?`: the token of a value in a hash;
* `Json.print_object`: the text of a whole document;
* `Index.written`, `Index.forall₂_written`: the members that a hash gets;
* `Index.addCommand_of_refused`, `Index.addCommand_of_hash`, `Index.addCommand_of_json`: the three
  ways of a command; `Index.Writes`, **`Index.addCommand_exact`**.
-/

namespace SearchWire

/-! ## Refused members -/

namespace Schema

/-- The first field that a key means has a type. -/
def FirstHas (s : Schema) (key : String) (type : FieldType) : Prop :=
  ∃ f, Earliest (fun f => f.answersTo key = true) s.fields f ∧ f.type = type

/-- A member that is neither a number nor null, under a key whose first field is numeric. -/
def Refuses (s : Schema) (m : String × Json) : Prop :=
  s.FirstHas m.1 .numeric ∧ ¬ m.2.FitsNumeric

theorem find?_eq_some_iff {s : Schema} {key : String} {f : Field} :
    s.find? key = some f ↔ Earliest (fun f => f.answersTo key = true) s.fields f := by
  simp [find?, List.find?_eq_some_iff_append, Earliest]

end Schema

namespace Index

variable {x : Index} {document : List (String × Json)}

theorem keyHasType_iff_firstHas {key : String} {type : FieldType} :
    x.keyHasType key type = true ↔ x.schema.FirstHas key type := by
  simp only [keyHasType_iff, Schema.find?_eq_some_iff, Schema.FirstHas]

theorem checkMember_eq_error_iff {m : String × Json} {fault : Fault} :
    x.checkMember m = .error fault ↔
      x.schema.Refuses m ∧ fault = .notNumeric m.1 m.2.kind := by
  have hrefuses : (x.keyHasType m.1 .numeric && m.2.kind != .number && m.2.kind != .null) = true ↔
      x.schema.Refuses m := by
    simp [Schema.Refuses, Json.FitsNumeric, keyHasType_iff_firstHas, and_assoc]
  unfold checkMember
  by_cases h : x.schema.Refuses m
  · simp [hrefuses.mpr h, h, eq_comm]
  · simp [mt hrefuses.mp h, h]

theorem fails_checkMember_iff {m : String × Json} :
    Fails (x.checkMember m) ↔ x.schema.Refuses m := by
  simp [Fails, checkMember_eq_error_iff]

theorem checkDocument_eq_ok_iff_forall :
    x.checkDocument document = .ok () ↔ ∀ m ∈ document, ¬ x.schema.Refuses m := by
  simp only [checkDocument_eq_ok_iff, keyHasType_iff_firstHas, Schema.Refuses, not_and, not_not]

/-- **The fault of a document is its first member that the schema refuses.** -/
theorem checkDocument_eq_error_iff {fault : Fault} : x.checkDocument document = .error fault ↔
    ∃ m, Earliest x.schema.Refuses document m ∧ fault = .notNumeric m.1 m.2.kind := by
  rw [checkDocument, forM_eq_error_iff]
  simp only [fails_checkMember_iff, checkMember_eq_error_iff]
  constructor
  · rintro ⟨m, hm, -, hfault⟩
    exact ⟨m, hm, hfault⟩
  · rintro ⟨m, hm, hfault⟩
    exact ⟨m, hm, hm.1, hfault⟩

end Index

/-! ## Values in a hash -/

/-- The token that a value gets in a hash. Null gets none. -/
inductive Stores (packed : Prop) : Json → Token → Prop
  | string (s : String) : Stores packed (.string s) s
  | scalar {j : Json} (hj : j.kind = .boolean ∨ j.kind = .number) : Stores packed j j.print
  /-- Numbers are packed into four octets each. -/
  | vector {items : List Json} {v : List Binary32} (hpacked : packed)
      (hv : List.Forall₂ (fun i c => ∃ y, i.real? = some y ∧ c = y.narrow) items v)
      (hsize : (Token.ofVector v).size = 4 * items.length) :
      Stores packed (.array items) (.ofVector v)
  | array {items : List Json} (hother : ¬ packed ∨ ∃ i ∈ items, i.kind ≠ .number) :
      Stores packed (.array items) (Json.array items).print
  | object (members : List (String × Json)) :
      Stores packed (.object members) (Json.object members).print

theorem vector?_eq_some_iff {items : List Json} {v : List Binary32} : vector? items = some v ↔
    List.Forall₂ (fun i c => ∃ y, i.real? = some y ∧ c = y.narrow) items v := by
  unfold vector?
  induction items generalizing v with
  | nil => simp [eq_comm]
  | cons i items ih =>
    rw [List.mapM_cons, List.forall₂_cons_left_iff]
    simp only [← ih, Option.bind_eq_bind, Option.bind_eq_some_iff, Option.map_eq_some_iff]
    constructor
    · rintro ⟨_, ⟨y, hy, rfl⟩, v, hv, ⟨⟩⟩
      exact ⟨_, v, ⟨y, hy, rfl⟩, hv, rfl⟩
    · rintro ⟨_, v, ⟨y, hy, rfl⟩, hv, rfl⟩
      exact ⟨_, ⟨y, hy, rfl⟩, v, hv, rfl⟩

theorem Json.exists_real?_iff {j : Json} : (∃ y, j.real? = some y) ↔ j.kind = .number := by
  cases j <;> simp [real?, kind]

theorem exists_vector?_iff {items : List Json} :
    (∃ v, vector? items = some v) ↔ ∀ i ∈ items, i.kind = .number := by
  simp only [vector?_eq_some_iff, exists_forall₂_iff, ← Json.exists_real?_iff]
  refine forall₂_congr fun i _ => ⟨?_, ?_⟩
  · rintro ⟨_, y, hy, -⟩
    exact ⟨y, hy⟩
  · rintro ⟨y, hy⟩
    exact ⟨_, y, hy, rfl⟩

theorem hashValue?_array (packed : Bool) (items : List Json) :
    hashValue? packed (.array items) = some (((if packed then vector? items else none).map
      Token.ofVector).getD (Json.array items).print) := by
  cases packed with
  | false => rfl
  | true => cases hv : vector? items <;> simp [hashValue?, hv]

theorem hashValue?_eq_none_iff {packed : Bool} {j : Json} :
    hashValue? packed j = none ↔ j.kind = .null := by
  cases j with
  | array items => simp [hashValue?_array, Json.kind]
  | _ => simp [hashValue?, Json.kind]

theorem stores_array (packed : Bool) (items : List Json) {t : Token}
    (h : hashValue? packed (.array items) = some t) : Stores (packed = true) (.array items) t := by
  rw [hashValue?_array, Option.some.injEq] at h
  subst h
  cases packed with
  | false => exact .array (.inl Bool.false_ne_true)
  | true =>
    cases hv : vector? items with
    | some v =>
      have hread := vector?_eq_some_iff.mp hv
      exact .vector rfl hread (by rw [Token.size_ofVector, hread.length_eq])
    | none =>
      refine .array (.inr ?_)
      by_contra hnumbers
      push Not at hnumbers
      obtain ⟨v, hv'⟩ := exists_vector?_iff.mpr hnumbers
      cases hv.symm.trans hv'

theorem stores_of_hashValue? {packed : Bool} {j : Json} {t : Token}
    (h : hashValue? packed j = some t) : Stores (packed = true) j t := by
  cases j with
  | array items => exact stores_array packed items h
  | null => cases h
  | bool b =>
    cases h
    exact .scalar (.inl rfl)
  | int n =>
    cases h
    exact .scalar (.inr rfl)
  | real x =>
    cases h
    exact .scalar (.inr rfl)
  | string s =>
    cases h
    exact .string s
  | object members =>
    cases h
    exact .object members

/-! ## Whole documents -/

namespace Json

def memberText (m : String × Json) : List Char := quote m.1 ++ ':' :: m.2.chars

theorem memberChars_eq_map (members : List (String × Json)) :
    memberChars members = members.map memberText := by
  induction members with
  | nil => rfl
  | cons m members ih => rw [memberChars, ih, List.map_cons, memberText]

theorem print_object (members : List (String × Json)) : (Json.object members).print =
    String.ofList ('\x7b' :: (joinItems (members.map memberText) ++ ['\x7d'])) := by
  rw [print, chars, memberChars_eq_map]

end Json

/-! ## Members in a hash -/

namespace Index

variable (x : Index)

/-- A member that is not null. -/
def hasValue (m : String × Json) : Bool := m.2.kind != .null

/-- The members that a hash gets, with their tokens. -/
def written (document : List (String × Json)) : List (String × Token) :=
  document.flatMap fun m =>
    ((hashValue? (x.keyHasType m.1 .vector) m.2).map fun t => (m.1, t)).toList

theorem written_cons (m : String × Json) (document : List (String × Json)) :
    x.written (m :: document) =
      ((hashValue? (x.keyHasType m.1 .vector) m.2).map fun t => (m.1, t)).toList ++
        x.written document := List.flatMap_cons

theorem flatMap_hashMember (document : List (String × Json)) :
    document.flatMap x.hashMember = Command.entries (x.written document) := by
  induction document with
  | nil => rfl
  | cons m document ih =>
    rw [List.flatMap_cons, ih, hashMember, written_cons]
    cases hashValue? (x.keyHasType m.1 .vector) m.2 <;> rfl

/-- **Every member that is not null is written once,** in the order of the document. -/
theorem forall₂_written (document : List (String × Json)) :
    List.Forall₂ (fun m p => p.1 = m.1 ∧ Stores (x.schema.FirstHas m.1 .vector) m.2 p.2)
      (document.filter hasValue) (x.written document) := by
  induction document with
  | nil => exact .nil
  | cons m document ih =>
    rw [written_cons]
    cases ht : hashValue? (x.keyHasType m.1 .vector) m.2 with
    | none =>
      have hnull : ¬ hasValue m = true := by simp [hasValue, hashValue?_eq_none_iff.mp ht]
      rw [List.filter_cons_of_neg hnull]
      exact ih
    | some t =>
      have hvalue : hasValue m = true := by
        rw [hasValue, bne_iff_ne]
        intro hnull
        cases ht.symm.trans (hashValue?_eq_none_iff.mpr hnull)
      have hstores := stores_of_hashValue? ht
      rw [keyHasType_iff_firstHas] at hstores
      rw [List.filter_cons_of_pos hvalue]
      exact .cons ⟨rfl, hstores⟩ ih

theorem isEmpty_written (document : List (String × Json)) :
    (x.written document).isEmpty = true ↔ ∀ m ∈ document, m.2.kind = .null := by
  have hlength := (x.forall₂_written document).length_eq
  rw [List.isEmpty_iff_length_eq_zero, ← hlength, List.length_eq_zero_iff, List.filter_eq_nil_iff]
  simp [hasValue]

/-! ## Commands -/

variable {x} {document : List (String × Json)}

theorem addCommand_of_refused {id : String} {fault : Fault}
    (h : x.checkDocument document = .error fault) : x.addCommand id document = .error fault := by
  unfold addCommand
  rw [h]
  rfl

theorem addCommand_of_json (hs : x.storage = .json) (h : x.checkDocument document = .ok ())
    (id : String) : x.addCommand id document =
      .ok ["JSON.SET", x.keyOf id, "$", (Json.object document).print] := by
  unfold addCommand
  rw [h, hs]
  rfl

theorem addCommand_of_hash (hs : x.storage = .hash) (h : x.checkDocument document = .ok ())
    (id : String) : x.addCommand id document =
      if (x.written document).isEmpty then .error (.query (.emptyDocument id))
      else .ok ("HSET" :: x.keyOf id :: Command.entries (x.written document)) := by
  unfold addCommand
  rw [h, hs, flatMap_hashMember]
  cases x.written document with
  | nil => rfl
  | cons p pairs => rfl

theorem addCommand_eq_mismatch_iff {id : String} {fault : Fault}
    (hkind : fault.kind = .fieldTypeMismatch) :
    x.addCommand id document = .error fault ↔ x.checkDocument document = .error fault := by
  cases h : x.checkDocument document with
  | error e => simp [addCommand_of_refused h]
  | ok =>
    refine iff_of_false (fun hfault => ?_) fun h => nomatch h
    cases hs : x.storage with
    | json => cases (addCommand_of_json hs h id).symm.trans hfault
    | hash =>
      rw [addCommand_of_hash hs h] at hfault
      split at hfault <;> cases hfault
      cases hkind

/-- A hash is refused just if null is all that the document holds. -/
theorem addCommand_eq_query_iff (hs : x.storage = .hash) {id : String} {cause : QueryFault} :
    x.addCommand id document = .error (.query cause) ↔
      cause = .emptyDocument id ∧ ∀ m ∈ document, m.2.kind = .null := by
  rw [← x.isEmpty_written]
  cases h : x.checkDocument document with
  | error fault =>
    -- A mismatch, so some member is not null.
    obtain ⟨m, hm, rfl⟩ := checkDocument_eq_error_iff.mp h
    have hvalues : ¬ (x.written document).isEmpty = true := fun hnull =>
      hm.1.2 (.inr ((x.isEmpty_written document).mp hnull m hm.mem))
    simp [addCommand_of_refused h, hvalues]
  | ok =>
    rw [addCommand_of_hash hs h]
    by_cases hempty : (x.written document).isEmpty = true <;> simp [hempty, eq_comm]

theorem addCommand_of_values (hs : x.storage = .hash) (id : String)
    (hfits : ∀ m ∈ document, ¬ x.schema.Refuses m) (hvalue : ∃ m ∈ document, m.2.kind ≠ .null) :
    x.addCommand id document =
      .ok ("HSET" :: x.keyOf id :: Command.entries (x.written document)) := by
  have hvalues : ¬ (x.written document).isEmpty = true := by
    rw [isEmpty_written]
    push Not
    exact hvalue
  rw [addCommand_of_hash hs (checkDocument_eq_ok_iff_forall.mpr hfits), if_neg hvalues]

/-- What a written document becomes. -/
structure Writes (x : Index) (id : String) (document : List (String × Json)) : Prop where
  /-- Whatever the storage, the mismatch is the first member that the schema refuses. -/
  mismatch : ∀ storage fault, fault.kind = .fieldTypeMismatch →
    (({ x with storage } : Index).addCommand id document = .error fault ↔
      ∃ m, Earliest x.schema.Refuses document m ∧ fault = .notNumeric m.1 m.2.kind)
  empty : x.storage = .hash → ∀ cause, x.addCommand id document = .error (.query cause) ↔
    cause = .emptyDocument id ∧ ∀ m ∈ document, m.2.kind = .null
  hash : x.storage = .hash → (∀ m ∈ document, ¬ x.schema.Refuses m) →
    (∃ m ∈ document, m.2.kind ≠ .null) → ∃ pairs c,
      x.addCommand id document = .ok c ∧
      c = ("HSET" : Token) :: x.keyOf id :: Command.entries pairs ∧
      List.Forall₂ (fun m p => p.1 = m.1 ∧ Stores (x.schema.FirstHas m.1 .vector) m.2 p.2)
        (document.filter hasValue) pairs ∧
      c.length = 2 + 2 * (document.filter hasValue).length
  json : x.storage = .json → (∀ m ∈ document, ¬ x.schema.Refuses m) → ∃ text : String,
    x.addCommand id document = .ok ["JSON.SET", x.keyOf id, "$", text] ∧
    text = (Json.object document).print ∧
    text = String.ofList
      ('\x7b' :: (Json.joinItems (document.map Json.memberText) ++ ['\x7d']))

/-- **Every member that is not null is written once, or nothing is.** -/
theorem addCommand_exact (x : Index) (id : String) (document : List (String × Json)) :
    x.Writes id document where
  mismatch storage fault hkind := by
    rw [addCommand_eq_mismatch_iff hkind]
    exact checkDocument_eq_error_iff
  empty hs _ := addCommand_eq_query_iff hs
  hash hs hfits hvalue := by
    have hwritten := x.forall₂_written document
    refine ⟨x.written document, _, addCommand_of_values hs id hfits hvalue, rfl, hwritten, ?_⟩
    rw [List.length_cons, List.length_cons, Command.length_entries, hwritten.length_eq]
    omega
  json hs hfits :=
    ⟨_, addCommand_of_json hs (checkDocument_eq_ok_iff_forall.mpr hfits) id, rfl,
      Json.print_object document⟩

/-- Null is left out, and a list outside a vector field is JSON text. -/
example : ({ name := "bikes", lead := some "bike" } : Index).addCommand "1"
      [("model", .string "Jigger"), ("price", .null), ("sizes", .array [.int 51, .null])] =
    .ok ["HSET", "bike:1", "model", "Jigger", "sizes", "[51,null]"] := by
  rfl

end Index

end SearchWire
