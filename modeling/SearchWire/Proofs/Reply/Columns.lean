import SearchWire.Proofs.Reply.Shapes

/-!
# Columns of documents

The reply to a search is read just if it is well shaped: a count, and after it the columns of whole
documents, each with a scalar as its id and with a table of scalar keys as its content. Every item
of such a reply belongs to one document, and is read into no other.

* `Columns`, `Columns.Sound`, `Columns.Tells`: the columns of a document, and what they tell;
  `Columns.exists_document_iff`, `Columns.tells_of_document`;
* `Reply.documents_eq_ok_iff`: all that reading a reply does;
* `Reply.IsSearch`, `Reply.IsFound`, **`Reply.documents_exact`**.
-/

namespace SearchWire

/-! ## One document -/

/-- The columns of a document, in their order. -/
structure Columns (l : Layout) where
  id : Reply
  score : Option Reply
  payload : Option Reply
  fields : Option Reply
  score_isSome : score.isSome = l.scores
  payload_isSome : payload.isSome = l.payloads
  fields_isSome : fields.isSome = l.content

namespace Columns

variable {l : Layout} (c : Columns l)

def toList : List Reply := c.id :: (c.score.toList ++ (c.payload.toList ++ c.fields.toList))

/-- The columns make a document: the id is a scalar, and the fields are a table with scalar keys.
A score or a payload may be anything. -/
structure Sound : Prop where
  id : ∃ s, c.id.text? = some s
  fields : ∀ f ∈ c.fields, ∃ entries, f.IsTable entries

/-- The document that the columns tell. A score or a payload that cannot be read is left out, and
each field has the last of its values. -/
structure Tells (d : Document) : Prop where
  id : c.id.text? = some d.id
  score : d.score = c.score.bind Reply.real?
  payload : d.payload = c.payload.bind Reply.text?
  fields : ∀ f ∈ c.fields, ∃ entries, f.IsTable entries ∧
    ∀ key, d.get? key = (Reply.lastValue? entries key).map Reply.stringOrEmpty
  noFields : c.fields = none → d.fields = []

theorem exists_column (wanted : Bool) (columns : List Reply) (h : wanted.toNat ≤ columns.length) :
    ∃ (o : Option Reply) (rest : List Reply), o.isSome = wanted ∧ columns = o.toList ++ rest ∧
      columns.length = wanted.toNat + rest.length := by
  cases wanted with
  | false => exact ⟨none, columns, rfl, rfl, (Nat.zero_add _).symm⟩
  | true =>
    obtain ⟨r, rest, rfl⟩ := List.exists_cons_of_length_pos h
    exact ⟨some r, rest, rfl, rfl, Nat.add_comm _ _⟩

theorem exists_toList_eq {columns : List Reply} (h : columns.length = l.stride) :
    ∃ c : Columns l, c.toList = columns := by
  obtain ⟨id, rest, rfl⟩ := List.exists_cons_of_length_pos (h ▸ l.stride_pos)
  rw [List.length_cons, Layout.stride] at h
  -- The score takes its column from the rest, then the payload, and the fields what is left over.
  obtain ⟨score, rest, hscore, rfl, hlength⟩ := exists_column l.scores rest (by omega)
  obtain ⟨payload, rest, hpayload, rfl, hlength'⟩ := exists_column l.payloads rest (by omega)
  obtain ⟨fields, rest, hfields, rfl, hlength''⟩ := exists_column l.content rest (by omega)
  have hnil : rest = [] := List.length_eq_zero_iff.mp (by omega)
  refine ⟨⟨id, score, payload, fields, hscore, hpayload, hfields⟩, ?_⟩
  rw [toList, hnil, List.append_nil]

theorem documentOfSlice_toList : Reply.documentOfSlice l c.toList = (do
    let id ← Reply.string "FT.SEARCH" c.id
    let fields ← c.fields.elim (.ok []) Reply.documentFields
    return ⟨id, c.score.bind Reply.real?, c.payload.bind Reply.text?, fields⟩) := by
  obtain ⟨id, score, payload, fields, hscore, hpayload, hfields⟩ := c
  obtain ⟨content, scores, payloads⟩ := l
  obtain rfl : score.isSome = scores := hscore
  obtain rfl : payload.isSome = payloads := hpayload
  obtain rfl : fields.isSome = content := hfields
  cases score <;> cases payload <;> cases fields <;> rfl

theorem exists_documentFields_iff {f : Reply} :
    (∃ b, f.documentFields = .ok b) ↔ ∃ entries, f.IsTable entries := by
  constructor
  · rintro ⟨b, hb⟩
    obtain ⟨entries, hentries, -⟩ := Reply.exists_isTable_of_table hb
    exact ⟨entries, hentries⟩
  · rintro ⟨entries, hentries⟩
    obtain ⟨b, hb, -⟩ :=
      Reply.exists_table_of_isTable "FT.SEARCH" Reply.stringOrEmpty hentries
    exact ⟨b, hb⟩

/-- **Which columns are read as a document.** -/
theorem exists_document_iff : (∃ d, Reply.documentOfSlice l c.toList = .ok d) ↔ c.Sound := by
  rw [documentOfSlice_toList]
  simp only [bind_eq_ok_iff, Reply.string_eq_ok_iff]
  constructor
  · rintro ⟨d, s, hs, b, hb, ⟨⟩⟩
    refine ⟨⟨s, hs⟩, fun f hf => exists_documentFields_iff.mp ⟨b, ?_⟩⟩
    rw [Option.mem_def.mp hf] at hb
    exact hb
  · rintro ⟨⟨s, hs⟩, hfields⟩
    cases hf : c.fields with
    | none => exact ⟨_, s, hs, [], rfl, rfl⟩
    | some f =>
      obtain ⟨b, hb⟩ := exists_documentFields_iff.mpr (hfields f hf)
      exact ⟨_, s, hs, b, hb, rfl⟩

/-- **What is read from the columns of a document.** -/
theorem tells_of_document {d : Document} (h : Reply.documentOfSlice l c.toList = .ok d) :
    c.Tells d := by
  rw [documentOfSlice_toList] at h
  simp only [bind_eq_ok_iff, Reply.string_eq_ok_iff] at h
  obtain ⟨s, hs, b, hb, ⟨⟩⟩ := h
  refine ⟨hs, rfl, rfl, fun f hf => ?_, fun hnone => ?_⟩
  · rw [Option.mem_def.mp hf] at hb
    exact Reply.exists_isTable_of_table hb
  · rw [hnone] at hb
    exact (Except.ok.inj hb).symm

end Columns

/-! ## All documents -/

namespace Reply

/-- The columns of one document among those of all. -/
def chunk (l : Layout) (columns : List Reply) (i : Nat) : List Reply :=
  (columns.drop (i * l.stride)).take l.stride

variable {l : Layout} {r total : Reply} {rest : List Reply} {res : SearchResults}

theorem length_chunk {i : Nat} (hi : i < rest.length / l.stride) :
    (chunk l rest i).length = l.stride := by
  have hle : (i + 1) * l.stride ≤ rest.length :=
    Nat.le_trans (Nat.mul_le_mul_right _ hi) (Nat.div_mul_le_self _ _)
  rw [Nat.succ_mul] at hle
  rw [chunk, List.length_take, List.length_drop]
  omega

theorem documents_of_nil (h : r.Lists []) (l : Layout) : r.documents l = .ok {} := by
  unfold documents
  rw [items_eq_ok_iff.mpr h]
  rfl

theorem documents_eq_badTotal (h : r.Lists (total :: rest)) (htotal : ∀ n, ¬ total.Counts n)
    (l : Layout) : r.documents l = .error (.reply "FT.SEARCH" (.badTotal total)) := by
  unfold documents
  rw [items_eq_ok_iff.mpr h]
  simp only [bind, Except.bind, natural?_eq_none_iff.mpr htotal]

theorem documents_of_natural? (h : r.Lists (total :: rest)) {n : Nat}
    (hn : total.natural? = some n) (l : Layout) : r.documents l =
      if rest.length % l.stride ≠ 0 then
        .error (.reply "FT.SEARCH" (.ragged rest.length l.stride))
      else do
        let ds ← (slices l.stride (rest.length / l.stride) rest).mapM (documentOfSlice l)
        return ⟨n, ds⟩ := by
  unfold documents
  rw [items_eq_ok_iff.mpr h]
  simp only [bind, Except.bind, hn]

/-- **All that reading a reply does:** the total is a count, and each document is read from its own
chunk of the columns. -/
theorem documents_eq_ok_iff (h : r.Lists (total :: rest)) : r.documents l = .ok res ↔
    total.Counts res.total ∧ l.stride ∣ rest.length ∧
      (List.range (rest.length / l.stride)).mapM (fun i => documentOfSlice l (chunk l rest i)) =
        .ok res.documents := by
  rw [← natural?_eq_some_iff, Nat.dvd_iff_mod_eq_zero, mapM_eq_ok_iff]
  cases hn : total.natural? with
  | none => simp [documents_eq_badTotal h (natural?_eq_none_iff.mp hn)]
  | some n =>
    rw [documents_of_natural? h hn, slices_eq_map]
    by_cases hwhole : rest.length % l.stride = 0
    · simp only [hwhole, ne_eq, not_true, if_false, bind_eq_ok_iff, mapM_eq_ok_iff, true_and,
        List.forall₂_map_left_iff, Option.some.injEq]
      constructor
      · rintro ⟨ds, hds, ⟨⟩⟩
        exact ⟨rfl, hds⟩
      · rintro ⟨rfl, hds⟩
        exact ⟨res.documents, hds, rfl⟩
    · simp [hwhole]

/-! ## Well-shaped replies -/

/-- Items that make a reply to a search: a count, and after it the columns of whole documents. -/
structure IsSearch (l : Layout) (total : Reply) (rest : List Reply) : Prop where
  counts : ∃ n, total.Counts n
  whole : l.stride ∣ rest.length
  documents : ∀ i < rest.length / l.stride, ∃ c : Columns l, c.toList = chunk l rest i ∧ c.Sound

/-- What is found in such items: their count, as many documents as make up all of the other items,
and each of them what its own columns tell. -/
structure IsFound (l : Layout) (total : Reply) (rest : List Reply) (res : SearchResults) :
    Prop where
  counts : total.Counts res.total
  length : res.documents.length * l.stride + 1 = (total :: rest).length
  documents : ∀ i d, res.documents[i]? = some d →
    ∃ c : Columns l, c.toList = chunk l rest i ∧ c.Tells d

theorem exists_document_chunk_iff {i : Nat} (hi : i < rest.length / l.stride) :
    (∃ d, documentOfSlice l (chunk l rest i) = .ok d) ↔
      ∃ c : Columns l, c.toList = chunk l rest i ∧ c.Sound := by
  obtain ⟨c, hc⟩ := Columns.exists_toList_eq (length_chunk hi)
  constructor
  · intro h
    rw [← hc] at h
    exact ⟨c, hc, c.exists_document_iff.mp h⟩
  · rintro ⟨c', hc', hsound⟩
    rw [← hc']
    exact c'.exists_document_iff.mpr hsound

theorem exists_documents_iff (h : r.Lists (total :: rest)) :
    (∃ res, r.documents l = .ok res) ↔ IsSearch l total rest := by
  constructor
  · rintro ⟨res, hres⟩
    obtain ⟨hcounts, hwhole, hread⟩ := (documents_eq_ok_iff h).mp hres
    refine ⟨⟨_, hcounts⟩, hwhole, fun i hi => (exists_document_chunk_iff hi).mp ?_⟩
    exact exists_mapM_iff.mp ⟨_, hread⟩ i (List.mem_range.mpr hi)
  · rintro ⟨⟨n, hcounts⟩, hwhole, hsound⟩
    obtain ⟨ds, hread⟩ := exists_mapM_iff.mpr fun i hi =>
      (exists_document_chunk_iff (List.mem_range.mp hi)).mpr (hsound i (List.mem_range.mp hi))
    exact ⟨⟨n, ds⟩, (documents_eq_ok_iff h).mpr ⟨hcounts, hwhole, hread⟩⟩

theorem isFound_of_documents (h : r.Lists (total :: rest)) (hres : r.documents l = .ok res) :
    IsFound l total rest res := by
  obtain ⟨hcounts, hwhole, hread⟩ := (documents_eq_ok_iff h).mp hres
  have hlength : res.documents.length = rest.length / l.stride := by
    rw [← (mapM_eq_ok_iff.mp hread).length_eq, List.length_range]
  refine ⟨hcounts, ?_, fun i d hd => ?_⟩
  · rw [hlength, Nat.div_mul_cancel hwhole, List.length_cons]
  · have hi : i < rest.length / l.stride := hlength ▸ (List.getElem?_eq_some_iff.mp hd).1
    obtain ⟨d', hd', hslice⟩ := exists_getElem?_of_mapM hread (List.getElem?_range hi)
    cases hd.symm.trans hd'
    obtain ⟨c, hc⟩ := Columns.exists_toList_eq (length_chunk hi)
    rw [← hc] at hslice
    exact ⟨c, hc, c.tells_of_document hslice⟩

/-- **The reply to a search is read just if it is well shaped, and then nothing of it is lost.** A
total that is negative or no number is never taken for a count. -/
theorem documents_exact (l : Layout) (r : Reply) :
    ((∃ res, r.documents l = .ok res) ↔
      r.Lists [] ∨ ∃ total rest, r.Lists (total :: rest) ∧ IsSearch l total rest) ∧
    (r.Lists [] → r.documents l = .ok {}) ∧
    ∀ total rest, r.Lists (total :: rest) →
      (∀ res, r.documents l = .ok res → IsFound l total rest res) ∧
      (((∃ k < 0, total = .int k) ∨ ∀ n, ¬ total.Counts n) →
        r.documents l = .error (.reply "FT.SEARCH" (.badTotal total))) := by
  refine ⟨⟨?_, ?_⟩, fun h => documents_of_nil h l, fun total rest h =>
    ⟨fun res => isFound_of_documents h, ?_⟩⟩
  · rintro ⟨res, hres⟩
    obtain ⟨items, hitems, -⟩ := bind_eq_ok_iff.mp hres
    have hlists := items_eq_ok_iff.mp hitems
    cases items with
    | nil => exact .inl hlists
    | cons total rest =>
      exact .inr ⟨total, rest, hlists, (exists_documents_iff hlists).mp ⟨res, hres⟩⟩
  · rintro (h | ⟨total, rest, h, hsearch⟩)
    · exact ⟨{}, documents_of_nil h l⟩
    · exact (exists_documents_iff h).mpr hsearch
  · rintro (⟨k, hk, rfl⟩ | htotal)
    · exact documents_eq_badTotal h (not_counts_of_neg hk) l
    · exact documents_eq_badTotal h htotal l

/-- A score that cannot be read is left out, and the fields after it stay in their place. -/
example : (set [.simple "+1", .simple "a", .simple "high", .array [.simple "x", .nil]]).documents
    ⟨true, true, false⟩ = .ok ⟨1, [⟨"a", none, none, [("x", "")]⟩]⟩ := by
  rfl

end Reply

end SearchWire
