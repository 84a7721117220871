import SearchWire.Proofs.Reply.Tables
import SearchWire.Reply.Documents

/-!
# Reading documents

The reply to a search is read with the layout it was sent with: document by document, and in every
document column by column.

* `Hit`, `Reply.found`: what a server sends;
* `slices_eq_map`, `slices_append`, `slices_flatMap`: a row of slices of one size is cut where the
  slices meet;
* `Reply.documentOfSlice_columns`: one document; **`Reply.documents_found`**: the whole reply.
-/

namespace SearchWire

/-- A document as a server finds it. -/
structure Hit where
  key : String
  score : Binary64
  payload : Option String
  fields : List (String × String)
  distinct : (fields.map (·.1)).Nodup

namespace Hit

/-- The columns of a document. -/
def columns (l : Layout) (h : Hit) : List Reply :=
  .ofString h.key ::
    ((if l.scores then [.double h.score] else []) ++
      (if l.payloads then [(h.payload.map Reply.ofString).getD .nil] else []) ++
      (if l.content then
        [.array (h.fields.flatMap fun f => [.ofString f.1, .ofString f.2])] else []))

/-- The document that its columns tell. -/
def document (l : Layout) (h : Hit) : Document where
  id := h.key
  score := if l.scores then some h.score else none
  payload := if l.payloads then h.payload else none
  fields := if l.content then h.fields else []

theorem length_columns (l : Layout) (h : Hit) : (h.columns l).length = l.stride := by
  obtain ⟨_ | _, _ | _, _ | _⟩ := l <;> rfl

end Hit

theorem Layout.stride_pos (l : Layout) : 0 < l.stride := by
  unfold Layout.stride
  omega

/-! ## Slices -/

section Slices

variable {α β : Type} {f : α → List β} {n : Nat}

theorem length_slices (size n : Nat) (xs : List α) : (slices size n xs).length = n := by
  induction n generalizing xs with
  | zero => rfl
  | succ n ih => rw [slices, List.length_cons, ih]

theorem slices_eq_map (size n : Nat) (xs : List α) :
    slices size n xs = (List.range n).map fun i => (xs.drop (i * size)).take size := by
  induction n generalizing xs with
  | zero => rfl
  | succ n ih =>
    rw [slices, ih, List.range_succ_eq_map, List.map_cons, List.map_map, Nat.zero_mul,
      List.drop_zero]
    simp [Nat.succ_mul, Nat.add_comm]

theorem slices_append {size a : Nat} {xs : List α} (h : xs.length = a * size) (b : Nat)
    (ys : List α) : slices size (a + b) (xs ++ ys) = slices size a xs ++ slices size b ys := by
  induction a generalizing xs with
  | zero =>
    have hnil : xs = [] := List.length_eq_zero_iff.mp (by rw [h, Nat.zero_mul])
    rw [hnil, Nat.zero_add]
    rfl
  | succ a ih =>
    have hsize : size ≤ xs.length := by
      rw [h, Nat.succ_mul]
      exact Nat.le_add_left size (a * size)
    have hdrop : (xs.drop size).length = a * size := by
      rw [List.length_drop, h, Nat.succ_mul, Nat.add_sub_cancel]
    rw [Nat.succ_add, slices, slices, List.take_append_of_le_length hsize,
      List.drop_append_of_le_length hsize, ih hdrop, List.cons_append]

theorem length_flatMap_of_length_eq (hf : ∀ x, (f x).length = n) (xs : List α) :
    (xs.flatMap f).length = xs.length * n := by
  simp [List.length_flatMap, hf]

theorem slices_flatMap (hf : ∀ x, (f x).length = n) (xs : List α) :
    slices n xs.length (xs.flatMap f) = xs.map f := by
  induction xs with
  | nil => rfl
  | cons x xs ih =>
    rw [List.length_cons, slices, List.flatMap_cons, List.take_left' (hf x), List.drop_left' (hf x),
      ih, List.map_cons]

end Slices

/-! ## Replies -/

namespace Reply

theorem natural?_int (n : Nat) : natural? (.int n) = some n := by
  rw [natural?, if_pos (Int.natCast_nonneg n), Int.toNat_natCast]

/-- The reply to a search: how many documents there are, and the columns of those that are sent. -/
def found (l : Layout) (total : Nat) (hits : List Hit) : Reply :=
  .array (.int total :: hits.flatMap (Hit.columns l))

theorem documentFields_inTurn (fields : List (String × String))
    (hf : (fields.map (·.1)).Nodup) :
    documentFields (.array (fields.flatMap fun f => [.ofString f.1, .ofString f.2])) =
      .ok fields := by
  have hturn : (fields.flatMap fun f => [ofString f.1, ofString f.2]) =
      inTurn (fields.map fun f => (ofString f.1, ofString f.2)) := by
    rw [inTurn, List.flatMap_map]
  rw [hturn, documentFields, table_inTurn, Bindings.ofList_of_nodup hf]

theorem text?_payload (payload : Option String) :
    ((payload.map ofString).getD .nil).text? = payload := by
  cases payload with
  | none => rfl
  | some s => exact text?_ofString s

/-- **A document is read from its own columns.** -/
theorem documentOfSlice_columns (l : Layout) (h : Hit) :
    documentOfSlice l (h.columns l) = .ok (h.document l) := by
  have hfields := documentFields_inTurn h.fields h.distinct
  obtain ⟨content, scores, payloads⟩ := l
  cases content <;> cases scores <;> cases payloads <;>
    simp [documentOfSlice, document, Hit.columns, Hit.document, column, string_ofString, hfields,
      text?_payload, real?, bind, Except.bind, pure, Except.pure]

/-- **A reply is read document by document.** -/
theorem documents_found (l : Layout) (total : Nat) (hits : List Hit) :
    (found l total hits).documents l = .ok ⟨total, hits.map (Hit.document l)⟩ := by
  have hlength := length_flatMap_of_length_eq (Hit.length_columns l) hits
  have hcount : (hits.flatMap (Hit.columns l)).length / l.stride = hits.length := by
    rw [hlength, Nat.mul_div_cancel _ l.stride_pos]
  have hragged : ¬ (hits.flatMap (Hit.columns l)).length % l.stride ≠ 0 := by
    rw [hlength, Nat.mul_mod_left]
    exact fun h => h rfl
  have hread : (hits.map (Hit.columns l)).mapM (documentOfSlice l) =
      .ok (hits.map (Hit.document l)) :=
    mapM_eq_ok_iff.mpr <| List.forall₂_map_left_iff.mpr <| List.forall₂_map_right_iff.mpr <|
      List.forall₂_same.mpr fun h _ => documentOfSlice_columns l h
  unfold documents found
  simp only [items, bind, Except.bind, natural?_int, if_neg hragged, hcount,
    slices_flatMap (Hit.length_columns l), hread]
  rfl

end Reply

end SearchWire
