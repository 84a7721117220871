import SearchWire.Index.Document
import SearchWire.Proofs.Steps

/-!
# Validation of documents

A document that is written has been checked: numbers stand in its numeric fields. The check looks
at the first field that a key means, so a numeric field behind another one that the same key means
goes unchecked.

* `Schema.Respected`: what a schema asks of a document; `Schema.Hidden`: the fields that go
  unchecked;
* `Index.checkMember_eq_ok_iff` (one member), `Index.checkDocument_eq_ok_iff` (all of them);
* **`Index.addCommand_respects_iff`**, `Index.not_respected_of_addCommand`.
-/

namespace SearchWire

/-- A value that a numeric field takes. -/
def Json.FitsNumeric (j : Json) : Prop := j.kind = .number ∨ j.kind = .null

namespace Schema

/-- Every numeric field takes the values that a document has under the keys that mean it. -/
def Respected (s : Schema) (document : List (String × Json)) : Prop :=
  ∀ f ∈ s.fields, f.type = .numeric → ∀ m ∈ document, f.answersTo m.1 = true → m.2.FitsNumeric

/-- A key means a numeric field, but means a field of another type before it. -/
structure Hidden (s : Schema) (key : String) (f : Field) : Prop where
  mem : f ∈ s.fields
  numeric : f.type = .numeric
  answers : f.answersTo key = true
  behind : ∃ g, s.find? key = some g ∧ g.type ≠ .numeric

theorem exists_find?_of_mem {s : Schema} {f : Field} {key : String} (hf : f ∈ s.fields)
    (hkey : f.answersTo key = true) : ∃ g, s.find? key = some g :=
  Option.isSome_iff_exists.mp (List.find?_isSome.mpr ⟨f, hf, hkey⟩)

end Schema

namespace Index

variable {x : Index} {document : List (String × Json)}

theorem keyHasType_iff {key : String} {type : FieldType} :
    x.keyHasType key type = true ↔ ∃ g, x.schema.find? key = some g ∧ g.type = type := by
  unfold keyHasType
  cases x.schema.find? key <;> simp

theorem checkMember_eq_ok_iff {m : String × Json} :
    x.checkMember m = .ok () ↔ (x.keyHasType m.1 .numeric = true → m.2.FitsNumeric) := by
  unfold checkMember Json.FitsNumeric
  cases x.keyHasType m.1 .numeric <;> by_cases hn : m.2.kind = .number <;>
    by_cases h0 : m.2.kind = .null <;> simp [hn, h0]

/-- The check compares a member with the first field that its key means. -/
theorem checkDocument_eq_ok_iff : x.checkDocument document = .ok () ↔
    ∀ m ∈ document, x.keyHasType m.1 .numeric = true → m.2.FitsNumeric := by
  rw [checkDocument, forM_eq_ok_iff]
  simp only [checkMember_eq_ok_iff]

theorem checkDocument_of_addCommand {id : String} {c : Command}
    (h : x.addCommand id document = .ok c) : x.checkDocument document = .ok () := by
  rw [addCommand, bind_eq_ok_iff] at h
  obtain ⟨_, hcheck, -⟩ := h
  exact hcheck

/-- In a document that is written a numeric field goes unchecked only behind another field. -/
theorem fitsNumeric_or_hidden {id : String} {c : Command} (h : x.addCommand id document = .ok c)
    {f : Field} (hf : f ∈ x.schema.fields) (hnum : f.type = .numeric) {m : String × Json}
    (hm : m ∈ document) (hkey : f.answersTo m.1 = true) :
    m.2.FitsNumeric ∨ x.schema.Hidden m.1 f := by
  have hcheck := checkDocument_eq_ok_iff.mp (checkDocument_of_addCommand h) m hm
  obtain ⟨g, hg⟩ := Schema.exists_find?_of_mem hf hkey
  by_cases htype : g.type = .numeric
  · exact .inl (hcheck (keyHasType_iff.mpr ⟨g, hg, htype⟩))
  · exact .inr ⟨hf, hnum, hkey, g, hg, htype⟩

theorem exists_addCommand_text {key : String} {g : Field} (hg : x.schema.find? key = some g)
    (htype : g.type ≠ .numeric) (id text : String) :
    ∃ c, x.addCommand id [(key, .string text)] = .ok c := by
  have hcheck : x.checkDocument [(key, .string text)] = .ok () := by
    refine checkDocument_eq_ok_iff.mpr fun m hm hnum => ?_
    obtain rfl := List.mem_singleton.mp hm
    obtain ⟨g', hg', htype'⟩ := keyHasType_iff.mp hnum
    obtain rfl := Option.some.inj (hg.symm.trans hg')
    exact absurd htype' htype
  unfold addCommand
  rw [hcheck]
  cases x.storage with
  | json => exact ⟨_, rfl⟩
  | hash => exact ⟨_, rfl⟩

/-- **Which numeric fields a written document respects.** A member under a key that means a numeric
field is a number or null unless the field is hidden there. So every document that is written
respects the whole schema just if the schema hides no numeric field. -/
theorem addCommand_respects_iff (x : Index) :
    (∀ id document c, x.addCommand id document = .ok c → ∀ f ∈ x.schema.fields,
      f.type = .numeric → ∀ m ∈ document, f.answersTo m.1 = true →
        m.2.FitsNumeric ∨ x.schema.Hidden m.1 f) ∧
    ((∀ id document c, x.addCommand id document = .ok c → x.schema.Respected document) ↔
      ∀ key f, ¬ x.schema.Hidden key f) := by
  refine ⟨fun _ _ _ h f hf hnum m hm hkey => fitsNumeric_or_hidden h hf hnum hm hkey, ?_, ?_⟩
  · rintro h key f ⟨hf, hnum, hkey, g, hg, htype⟩
    obtain ⟨c, hc⟩ := exists_addCommand_text hg htype "" ""
    have hfits := h "" _ c hc f hf hnum _ List.mem_cons_self hkey
    simp [Json.FitsNumeric, Json.kind] at hfits
  · intro hnone id document c hc f hf hnum m hm hkey
    exact (fitsNumeric_or_hidden hc hf hnum hm hkey).resolve_right (hnone m.1 f)

/-- One path of a document, as a text and as a number. -/
def pricedTwice : Index where
  name := "bikes"
  schema := ⟨[⟨"$.price", some "label", .text {}⟩, ⟨"$.price", some "amount", .numeric {}⟩]⟩
  storage := .json

/-- A text is written into a numeric field behind a text field. -/
theorem not_respected_of_addCommand : ¬ ∀ (x : Index) (id : String)
    (document : List (String × Json)) (c : Command),
    x.addCommand id document = .ok c → x.schema.Respected document := by
  intro h
  have hc : pricedTwice.addCommand "1" [("price", .string "cheap")] =
      .ok ["JSON.SET", "1", "$", "\x7b\"price\":\"cheap\"\x7d"] := by rfl
  have hfits := h _ _ _ _ hc ⟨"$.price", some "amount", .numeric {}⟩
    (List.mem_cons_of_mem _ List.mem_cons_self) rfl _ List.mem_cons_self (by decide +kernel)
  simp [Json.FitsNumeric, Json.kind] at hfits

end Index

end SearchWire
