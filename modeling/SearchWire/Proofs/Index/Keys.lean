import SearchWire.Proofs.Steps
import SearchWire.Session.Call

/-!
# Keys and ids

The lead of the keys is put before an id on its way out and taken off a key on its way in, each
time once: an id that begins with the lead itself keeps it.

* `Text.dropLead?_eq_some_iff`, `Text.dropLead?_eq_none_iff`: which texts have a lead;
* `Index.idOf`, `Index.idOf_eq_iff`, `Index.keyOf_idOf`: the id that is read from a key;
* `SearchResults.mapIds`, `SearchResults.dropLead_mapIds_append`: results with other ids;
* `Index.searchCommand_eq_ok_iff`, `Call.results_eq_map`: the command of a search and its results.
-/

namespace SearchWire

/-! ## Leading texts -/

namespace Text

theorem dropChars?_eq_some_iff {lead cs rest : List Char} :
    dropChars? lead cs = some rest ↔ cs = lead ++ rest := by
  constructor
  · intro h
    induction lead generalizing cs with
    | nil => exact Option.some.inj h
    | cons l lead ih =>
      cases cs with
      | nil => cases h
      | cons c cs =>
        rw [dropChars?] at h
        split at h
        case isTrue hl => rw [ih h, hl, List.cons_append]
        case isFalse => cases h
  · rintro rfl
    exact dropChars?_append lead rest

theorem dropLead?_eq_some_iff {lead s rest : String} :
    dropLead? lead s = some rest ↔ s = lead ++ rest := by
  rw [dropLead?, Option.map_eq_some_iff]
  constructor
  · rintro ⟨cs, hcs, rfl⟩
    rw [← String.toList_inj, dropChars?_eq_some_iff.mp hcs, String.toList_append,
      String.toList_ofList]
  · rintro rfl
    exact ⟨rest.toList, by rw [String.toList_append, dropChars?_append], String.ofList_toList⟩

theorem dropLead?_eq_none_iff {lead s : String} :
    dropLead? lead s = none ↔ ∀ rest, s ≠ lead ++ rest := by
  rw [Option.eq_none_iff_forall_ne_some]
  exact forall_congr' fun rest => not_congr dropLead?_eq_some_iff

end Text

/-! ## Ids of keys -/

namespace Index

variable {x : Index}

theorem keyOf_of_lead {lead : String} (h : x.keyLead = some lead) (id : String) :
    x.keyOf id = lead ++ id := by
  rw [keyOf, h, Option.getD_some]

/-- The lead that is taken off keys when they are read. -/
def droppedLead (x : Index) : Option String := if x.settings.dropLead then x.keyLead else none

/-- The id that is read from a key. -/
def idOf (x : Index) (key : String) : String :=
  (x.droppedLead.bind fun lead => Text.dropLead? lead key).getD key

theorem idOf_eq_iff {key id : String} : x.idOf key = id ↔
    (∃ lead, x.droppedLead = some lead ∧ key = lead ++ id) ∨
      (id = key ∧ ∀ lead, x.droppedLead = some lead → ∀ rest, key ≠ lead ++ rest) := by
  unfold idOf
  cases hx : x.droppedLead with
  | none => simp [eq_comm]
  | some lead =>
    rw [Option.bind_some]
    cases hk : Text.dropLead? lead key with
    | none =>
      have hne := Text.dropLead?_eq_none_iff.mp hk
      simp [hne, eq_comm]
    | some rest =>
      obtain rfl := Text.dropLead?_eq_some_iff.mp hk
      simp

/-- The key of the id that was read from a key with the lead is that key again. -/
theorem keyOf_idOf {lead : String} (hx : x.keyLead = some lead)
    (hd : x.settings.dropLead = true) (rest : String) :
    x.keyOf (x.idOf (lead ++ rest)) = lead ++ rest := by
  have hid : x.idOf (lead ++ rest) = rest := by
    rw [idOf, droppedLead, hd, if_pos rfl, hx, Option.bind_some, Text.dropLead?_append,
      Option.getD_some]
  rw [hid, keyOf_of_lead hx]

/-! ## Searches -/

theorem searchCommand_eq_ok_iff {input : SearchInput} {o : Overrides} {c : Command} :
    x.searchCommand input o = .ok c ↔
      ∃ args, (x.searchQuery input o).compile = .ok args ∧ c = x.on "FT.SEARCH" args := by
  rw [searchCommand, bind_eq_ok_iff]
  exact exists_congr fun args => and_congr_right fun _ => ⟨fun h => by cases h; rfl,
    fun h => by rw [h]; rfl⟩

end Index

namespace SearchResults

/-- The results of a search with other ids. -/
def mapIds (f : String → String) (r : SearchResults) : SearchResults :=
  { r with documents := r.documents.map fun d => { d with id := f d.id } }

theorem dropLead_mapIds_append (lead : String) (r : SearchResults) :
    (r.mapIds (lead ++ ·)).dropLead lead = r := by
  simp [mapIds, dropLead, Function.comp_def]

theorem getElem?_dropLead_of_ne {lead : String} {r : SearchResults} {i : Nat} {d : Document}
    (hi : r.documents[i]? = some d) (hd : ∀ rest, d.id ≠ lead ++ rest) :
    (r.dropLead lead).documents[i]? = some d := by
  rw [dropLead, List.getElem?_map, hi, Option.map_some, Text.dropLead?_eq_none_iff.mpr hd,
    Option.getD_none]

end SearchResults

theorem Call.results_eq_map (x : Index) (input : SearchInput) (o : Overrides) (r : Reply) :
    results x input o r =
      (r.documents (x.searchQuery input o).layout).map (SearchResults.mapIds x.idOf) := by
  unfold results
  cases hr : r.documents (x.searchQuery input o).layout with
  | error e => rfl
  | ok found =>
    cases hd : x.settings.dropLead <;> cases hl : x.keyLead <;>
      simp [hd, hl, bind, Except.bind, pure, Except.pure, Except.map, SearchResults.mapIds,
        SearchResults.dropLead, Index.idOf, Index.droppedLead]

end SearchWire
