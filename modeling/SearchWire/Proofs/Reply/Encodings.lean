import SearchWire.Proofs.Reply.Documents
import SearchWire.Reply.Page
import SearchWire.Reply.Tables

/-!
# Encodings of tables

A server sends a table as a map, as arrays of two, or as keys and values in turn. A reader cannot
tell the forms but by what is in them: keys that are scalars are enough for all readers of tables to
find the same keys and values, also among values that are arrays of two.

* `Reply.Encodes`: the forms of a table; **`Reply.entries_of_encodes`**;
* `Reply.lastValue?`: the value of a key; `Reply.find?_of_table`, `Reply.exists_table_of_entries`;
* `Reply.entriesOfItems_eq_error`: an odd number of items that are not all arrays of two;
* `Reply.FieldsSlot`, `FieldsSlot.documents_fill_eq`: the fields of one document in a reply to a
  search;
* `Reply.RowSlot`, `RowSlot.page_fill_eq`: one row in a reply to an aggregation;
* `Reply.FormsAgree`, `Reply.OddRefused`, **`Reply.readers_agree`**.
-/

namespace SearchWire.Reply

/-! ## Forms of a table -/

/-- The forms in which keys and values are sent. -/
inductive Encodes (entries : List (Reply × Reply)) : Reply → Prop
  | array : Encodes entries (.array (inTurn entries))
  | set : Encodes entries (.set (inTurn entries))
  | couples : Encodes entries (.array (entries.map fun e => .array [e.1, e.2]))
  | map : Encodes entries (.map entries)

theorem mapM_couple?_map (entries : List (Reply × Reply)) :
    (entries.map fun e => array [e.1, e.2]).mapM couple? = some entries := by
  induction entries with
  | nil => rfl
  | cons e entries ih =>
    rw [List.map_cons, List.mapM_cons, ih]
    rfl

theorem entriesOfItems_couples (command : String) (entries : List (Reply × Reply)) :
    entriesOfItems command (entries.map fun e => array [e.1, e.2]) = .ok entries := by
  cases entries with
  | nil => rfl
  | cons e entries =>
    have hcouples : couples? ((e :: entries).map fun e => array [e.1, e.2]) =
        some (e :: entries) := mapM_couple?_map (e :: entries)
    rw [entriesOfItems, hcouples]
    rfl

/-- **Keys that are scalars tell the form,** whatever the values are. -/
theorem entries_of_encodes (command : String) {entries : List (Reply × Reply)}
    (hkeys : ∀ e ∈ entries, ∃ s, e.1.text? = some s) {r : Reply} (h : Encodes entries r) :
    r.entries command = .ok entries := by
  cases h with
  | array => exact entries_inTurn command hkeys
  | set => exact entries_inTurn command hkeys
  | couples => exact entriesOfItems_couples command entries
  | map => rfl

/-! ## The last value of a key -/

/-- The value of the last entry with a key. -/
def lastValue? (entries : List (Reply × Reply)) (key : String) : Option Reply :=
  (entries.reverse.find? fun e => e.1.text? = some key).map (·.2)

section Table

variable {α : Type} {command : String} {entries : List (Reply × Reply)}
  {read : Reply → Except Fault α}

/-- The text of a key and what is read from its value. -/
def readEntry (command : String) (read : Reply → Except Fault α) (e : Reply × Reply) :
    Except Fault (String × α) := do
  let key ← string command e.1
  let value ← read e.2
  return (key, value)

theorem readEntry_eq_ok_iff {e : Reply × Reply} {p : String × α} :
    readEntry command read e = .ok p ↔ e.1.text? = some p.1 ∧ read e.2 = .ok p.2 := by
  simp only [readEntry, bind_eq_ok_iff, string_eq_ok_iff]
  constructor
  · rintro ⟨key, hkey, value, hvalue, ⟨⟩⟩
    exact ⟨hkey, hvalue⟩
  · rintro ⟨hkey, hvalue⟩
    exact ⟨p.1, hkey, p.2, hvalue, rfl⟩

theorem table_of_entries {r : Reply} (h : r.entries command = .ok entries) :
    table command read r = (entries.mapM (readEntry command read)).map .ofList := by
  unfold table
  rw [h]
  rfl

theorem map_find?_of_forall₂ {ps : List (String × α)} (key : String)
    (h : List.Forall₂ (fun e p => e.1.text? = some p.1 ∧ read e.2 = .ok p.2) entries ps) :
    (entries.find? fun e => e.1.text? = some key).map (fun e => read e.2) =
      (Bindings.find? ps key).map .ok := by
  induction h with
  | nil => rfl
  | @cons e p entries ps hp _ ih =>
    obtain ⟨hkey, hvalue⟩ := hp
    rw [List.find?_cons, Bindings.find?_cons, hkey]
    by_cases h : key = p.1
    · simp [h, hvalue]
    · simp [h, Ne.symm h, ih]

/-- **A key has the last of its values.** -/
theorem find?_of_table {b : Bindings α}
    (h : (entries.mapM (readEntry command read)).map Bindings.ofList = .ok b) (key : String) :
    (b.find? key).map .ok = (lastValue? entries key).map read := by
  cases hread : entries.mapM (readEntry command read) with
  | error e =>
    rw [hread] at h
    cases h
  | ok ps =>
    rw [hread] at h
    cases h
    have hentries := (mapM_eq_ok_iff.mp hread).imp fun e p => readEntry_eq_ok_iff.mp
    -- A name holds its last pair, which is the first one in the reverse order.
    rw [Bindings.find?_ofList, ← map_find?_of_forall₂ key (List.rel_reverse hentries), lastValue?,
      Option.map_map]
    rfl

theorem exists_mapM_readEntry (command : String) (read : Reply → Except Fault α)
    (hkeys : ∀ e ∈ entries, ∃ s, e.1.text? = some s)
    (hvalues : ∀ e ∈ entries, ∃ a, read e.2 = .ok a) :
    ∃ ps, entries.mapM (readEntry command read) = .ok ps := by
  refine exists_mapM_iff.mpr fun e he => ?_
  obtain ⟨s, hs⟩ := hkeys e he
  obtain ⟨a, ha⟩ := hvalues e he
  exact ⟨(s, a), readEntry_eq_ok_iff.mpr ⟨hs, ha⟩⟩

/-- **A key has the last of its values,** if values are always read. -/
theorem find?_of_total {value : Reply → α} {b : Bindings α}
    (h : (entries.mapM (readEntry command fun v => .ok (value v))).map Bindings.ofList = .ok b)
    (key : String) : b.find? key = (lastValue? entries key).map value := by
  have hok : Function.Injective (Except.ok : α → Except Fault α) := fun _ _ => Except.ok.inj
  apply Option.map_injective hok
  rw [find?_of_table h key, Option.map_map]
  rfl

theorem exists_table_of_entries (command : String) (value : Reply → α)
    (hkeys : ∀ e ∈ entries, ∃ s, e.1.text? = some s) :
    ∃ b : Bindings α, (∀ key, b.find? key = (lastValue? entries key).map value) ∧
      ∀ r : Reply, r.entries command = .ok entries →
        table command (fun v => .ok (value v)) r = .ok b := by
  obtain ⟨ps, hps⟩ := exists_mapM_readEntry command (fun v => .ok (value v)) hkeys
    fun e _ => ⟨value e.2, rfl⟩
  refine ⟨.ofList ps, find?_of_total (by rw [hps]; rfl), fun r hr => ?_⟩
  rw [table_of_entries hr, hps]
  rfl

theorem exists_table (command : String) (value : Reply → α)
    (hkeys : ∀ e ∈ entries, ∃ s, e.1.text? = some s) :
    ∃ b : Bindings α, (∀ key, b.find? key = (lastValue? entries key).map value) ∧
      ∀ r, Encodes entries r → table command (fun v => .ok (value v)) r = .ok b := by
  obtain ⟨b, hlast, hb⟩ := exists_table_of_entries command value hkeys
  exact ⟨b, hlast, fun r hr => hb r (entries_of_encodes command hkeys hr)⟩

end Table

/-! ## An odd number of items -/

theorem inTurn?_eq_none {items : List Reply} (h : items.length % 2 = 1) :
    inTurn? items = none := by
  induction items using inTurn?.induct with
  | case1 => cases h
  | case2 r => rfl
  | case3 key value rest ih =>
    have hrest : rest.length % 2 = 1 := by
      simp only [List.length_cons] at h
      omega
    rw [inTurn?, ih hrest]
    rfl

theorem couples?_eq_none {items : List Reply}
    (h : ∃ r ∈ items, ∀ key value, r ≠ .array [key, value]) : couples? items = none := by
  have hmap : items.mapM couple? = none := by
    obtain ⟨r, hr, hne⟩ := h
    have hcouple : couple? r = none := by
      unfold couple?
      split
      · exact absurd rfl (hne _ _)
      · rfl
    induction items with
    | nil => cases hr
    | cons q items ih =>
      rw [List.mapM_cons]
      rcases List.mem_cons.mp hr with rfl | hr
      · rw [hcouple]
        rfl
      · rw [ih hr]
        cases couple? q <;> rfl
  cases items with
  | nil => rfl
  | cons r items => exact hmap

/-- **An odd number of items is refused,** if they are not all arrays of two. -/
theorem entriesOfItems_eq_error (command : String) {items : List Reply}
    (hodd : items.length % 2 = 1) (h : ∃ r ∈ items, ∀ key value, r ≠ .array [key, value]) :
    entriesOfItems command items = .error (.reply command (.oddLength items.length)) := by
  rw [entriesOfItems, couples?_eq_none h, inTurn?_eq_none hodd]
  rfl

/-! ## Fields of a document -/

theorem column_append (wanted : Bool) (columns rest : List Reply)
    (h : wanted.toNat ≤ columns.length) : column wanted (columns ++ rest) =
      ((column wanted columns).1, (column wanted columns).2 ++ rest) := by
  cases wanted with
  | false => rfl
  | true =>
    obtain ⟨r, columns, rfl⟩ := List.exists_cons_of_length_pos h
    rfl

theorem length_column (wanted : Bool) (columns : List Reply) :
    (column wanted columns).2.length = columns.length - wanted.toNat := by
  cases wanted with
  | false => rfl
  | true => exact List.length_tail

theorem documentOfSlice_append {l : Layout} (hl : l.content = true) {columns : List Reply}
    (hlength : columns.length + 1 = l.stride) (fields : Reply) :
    documentOfSlice l (columns ++ [fields]) = (do
      let d ← documentOfSlice { l with content := false } columns
      return { d with fields := ← documentFields fields }) := by
  obtain ⟨content, scores, payloads⟩ := l
  obtain rfl : content = true := hl
  have hcolumns : columns.length = 1 + scores.toNat + payloads.toNat := by
    rw [Layout.stride, Bool.toNat_true] at hlength
    exact Nat.add_right_cancel hlength
  cases columns with
  | nil =>
    rw [List.length_nil] at hcolumns
    omega
  | cons id columns =>
    rw [List.length_cons] at hcolumns
    -- The score and the payload take the columns after the id, and the fields are left over.
    have hscore := column_append scores columns [fields] (by omega)
    have hrest := length_column scores columns
    have hpayload := column_append payloads (column scores columns).2 [fields] (by omega)
    have hnone : (column payloads (column scores columns).2).2 = [] := by
      rw [← List.length_eq_zero_iff, length_column]
      omega
    rw [hnone] at hpayload
    rw [List.cons_append, documentOfSlice, document, hscore]
    dsimp only
    rw [hpayload]
    cases hid : string "FT.SEARCH" id with
    | error e =>
      rw [documentOfSlice, document, hid]
      rfl
    | ok s =>
      rw [documentOfSlice, document, hid]
      rfl

/-- A reply to a search around the fields of one document. -/
structure FieldsSlot (l : Layout) where
  total : Reply
  before : List Reply
  columns : List Reply
  after : List Reply
  content : l.content = true
  whole : l.stride ∣ before.length
  length_columns : columns.length + 1 = l.stride

namespace FieldsSlot

variable {l : Layout} (s : FieldsSlot l)

/-- The reply with the fields in their place. -/
def fill (fields : Reply) : Reply :=
  .array (s.total :: (s.before ++ s.columns ++ fields :: s.after))

/-- The number of documents before this one. -/
def index : Nat := s.before.length / l.stride

/-- The number of columns of all documents. -/
def size : Nat := s.after.length + (s.index + 1) * l.stride

/-- The total, if the columns make whole documents. -/
def count : Except Fault Nat :=
  match s.total.natural? with
  | none => .error (.reply "FT.SEARCH" (.badTotal s.total))
  | some n =>
    if s.size % l.stride ≠ 0 then .error (.reply "FT.SEARCH" (.ragged s.size l.stride)) else .ok n

/-- The columns of each document. -/
def slices (fields : Reply) : List (List Reply) :=
  SearchWire.slices l.stride s.index s.before ++
    (s.columns ++ [fields]) :: SearchWire.slices l.stride (s.after.length / l.stride) s.after

theorem length_before : s.before.length = s.index * l.stride := (Nat.div_mul_cancel s.whole).symm

theorem length_append (fields : Reply) :
    (s.before ++ s.columns ++ fields :: s.after).length = s.size := by
  have hcolumns := s.length_columns
  rw [size, Nat.succ_mul, ← s.length_before, List.length_append, List.length_append,
    List.length_cons]
  omega

theorem slices_append (fields : Reply) :
    SearchWire.slices l.stride (s.size / l.stride) (s.before ++ s.columns ++ fields :: s.after) =
      s.slices fields := by
  have hcount : s.size / l.stride = s.index + (1 + s.after.length / l.stride) := by
    rw [size, Nat.add_mul_div_right _ _ l.stride_pos]
    omega
  have hslice : (s.columns ++ [fields]).length = l.stride := by
    rw [List.length_append]
    exact s.length_columns
  have hlist : s.before ++ s.columns ++ fields :: s.after =
      s.before ++ ((s.columns ++ [fields]) ++ s.after) := by simp
  rw [hcount, hlist, SearchWire.slices_append s.length_before,
    SearchWire.slices_append (hslice.trans (Nat.one_mul _).symm), slices, SearchWire.slices,
    SearchWire.slices, ← hslice, List.take_length]
  rfl

theorem getElem?_slices (fields : Reply) :
    (s.slices fields)[s.index]? = some (s.columns ++ [fields]) := by
  have hlength := length_slices l.stride s.index s.before
  rw [slices, List.getElem?_append_right (Nat.le_of_eq hlength), hlength, Nat.sub_self]
  rfl

theorem documents_fill (fields : Reply) : (s.fill fields).documents l = (do
    let n ← s.count
    let documents ← (s.slices fields).mapM (documentOfSlice l)
    return ⟨n, documents⟩) := by
  unfold documents fill count
  simp only [items, bind, Except.bind, s.length_append, s.slices_append]
  cases s.total.natural? with
  | none => rfl
  | some n =>
    dsimp only
    split <;> rfl

theorem exists_document {fields : Reply} {res : SearchResults}
    (h : (s.fill fields).documents l = .ok res) :
    ∃ d, res.documents[s.index]? = some d ∧ documentFields fields = .ok d.fields := by
  rw [documents_fill] at h
  simp only [bind_eq_ok_iff] at h
  obtain ⟨n, -, ds, hds, ⟨⟩⟩ := h
  obtain ⟨d, hd, hread⟩ := exists_getElem?_of_mapM hds (s.getElem?_slices fields)
  refine ⟨d, hd, ?_⟩
  rw [documentOfSlice_append s.content s.length_columns] at hread
  simp only [bind_eq_ok_iff] at hread
  obtain ⟨_, -, b, hb, ⟨⟩⟩ := hread
  exact hb

/-- What was found, with other fields of this document. -/
def put (b : Bindings String) (res : SearchResults) : SearchResults :=
  { res with documents := res.documents.modify s.index fun d => { d with fields := b } }

theorem documents_fill_eq {fields : Reply} {b : Bindings String}
    (h : documentFields fields = .ok b) :
    (s.fill fields).documents l = ((s.fill .nil).documents l).map (s.put b) := by
  have hslice : documentOfSlice l (s.columns ++ [fields]) =
      (documentOfSlice l (s.columns ++ [.nil])).map fun d => { d with fields := b } := by
    rw [documentOfSlice_append s.content s.length_columns,
      documentOfSlice_append s.content s.length_columns, h]
    cases documentOfSlice { l with content := false } s.columns <;> rfl
  have hslices : (s.slices fields).mapM (documentOfSlice l) =
      ((s.slices .nil).mapM (documentOfSlice l)).map fun ds =>
        ds.modify s.index fun d => { d with fields := b } := by
    rw [slices, mapM_append_cons_of_map hslice, length_slices]
    rfl
  rw [documents_fill, documents_fill, hslices]
  cases s.count with
  | error e => rfl
  | ok n => cases (s.slices .nil).mapM (documentOfSlice l) <;> rfl

end FieldsSlot

/-! ## Rows -/

/-- A reply to an aggregation around one row, alone or beside the id of a cursor. -/
structure RowSlot where
  total : Reply
  before : List Reply
  after : List Reply
  cursor : Option Reply
  total_isArray : total.isArray = false
  cursor_isArray : ∀ id ∈ cursor, id.isArray = false

namespace RowSlot

variable (s : RowSlot)

/-- The reply with the row in its place. -/
def fill (r : Reply) : Reply :=
  let body := s.total :: (s.before ++ r :: s.after)
  match s.cursor with
  | none => .array body
  | some id => .array [.array body, id]

/-- Where the next page is, if the id of the cursor is a number. -/
def next : Except Fault (Option Nat) :=
  match s.cursor with
  | none => .ok none
  | some id =>
    match id.natural? with
    | none => .error (.reply "FT.AGGREGATE" (.badCursor id))
    | some n => .ok (if n = 0 then none else some n)

/-- A total that is no array is not taken for rows beside the id of a cursor. -/
theorem pageParts_cons {total : Reply} (h : total.isArray = false) (rows : List Reply) :
    pageParts (total :: rows) = .ok (total :: rows, none) := by
  unfold pageParts
  split
  · rename_i hitems
    obtain ⟨rfl, -⟩ := List.cons.inj hitems
    cases h
  · rfl

theorem page_fill (r : Reply) : (s.fill r).page = (do
    let cursor ← s.next
    match s.total.natural? with
    | none => .error (.reply "FT.AGGREGATE" (.badTotal s.total))
    | some n => return ⟨n, ← (s.before ++ r :: s.after).mapM row, cursor⟩) := by
  obtain ⟨total, before, after, _ | id, htotal, hid⟩ := s
  · cases hn : total.natural? <;>
      simp only [page, fill, items, next, pageParts_cons htotal, bind, Except.bind, hn]
  · have hid : id.isArray = false := hid id rfl
    simp only [page, fill, items, next, pageParts, hid, bind, Except.bind, Bool.false_eq_true,
      if_false]
    cases id.natural? <;> rfl

theorem exists_row {r : Reply} {p : Page} (h : (s.fill r).page = .ok p) :
    ∃ b, p.rows[s.before.length]? = some b ∧ row r = .ok b := by
  rw [page_fill] at h
  obtain ⟨cursor, -, h⟩ := bind_eq_ok_iff.mp h
  cases htotal : s.total.natural? with
  | none =>
    rw [htotal] at h
    cases h
  | some n =>
    rw [htotal] at h
    obtain ⟨rows, hrows, ⟨⟩⟩ := bind_eq_ok_iff.mp h
    have hplace : (s.before ++ r :: s.after)[s.before.length]? = some r := by simp
    exact exists_getElem?_of_mapM hrows hplace

/-- A page with another row in this place. -/
def put (b : Bindings Reply) (p : Page) : Page := { p with rows := p.rows.set s.before.length b }

theorem page_fill_eq {r : Reply} {b : Bindings Reply} (h : row r = .ok b) :
    (s.fill r).page = (s.fill .nil).page.map (s.put b) := by
  have hrow : row r = (row .nil).map fun _ => b := h
  rw [page_fill, page_fill, mapM_append_cons_of_map hrow]
  cases s.next with
  | error e => rfl
  | ok cursor =>
    cases s.total.natural? with
    | none => rfl
    | some n =>
      simp only [bind, Except.bind]
      cases (s.before ++ .nil :: s.after).mapM row with
      | error e => rfl
      | ok rows =>
        simp only [← List.set_eq_modify]
        rfl

end RowSlot

/-! ## All readers of tables -/

/-- What the readers of tables make of the same keys and values: one result for all forms, in which
each key has the last of its values. -/
structure FormsAgree (entries : List (Reply × Reply)) : Prop where
  options : ∃ b, (∀ key, Bindings.find? b key = (lastValue? entries key).map stringOrEmpty) ∧
    ∀ r, Encodes entries r → r.options = .ok b
  attributes : ∃ b, (∀ key, Bindings.find? b key = lastValue? entries key) ∧
    ∀ r, Encodes entries r → r.attributes = .ok b
  /-- A value that is no list of scalars is refused in all forms alike. -/
  synonyms : ∃ x, (∀ b, x = .ok b → ∀ key,
      (Bindings.find? b key).map .ok = (lastValue? entries key).map (strings "FT.SYNDUMP")) ∧
    ((∀ e ∈ entries, ∃ groups, strings "FT.SYNDUMP" e.2 = .ok groups) → ∃ b, x = .ok b) ∧
    ∀ r, Encodes entries r → r.synonyms = x
  documents : ∃ b, (∀ key, Bindings.find? b key = (lastValue? entries key).map stringOrEmpty) ∧
    ∀ r, Encodes entries r → documentFields r = .ok b ∧ ∀ l (s : FieldsSlot l),
      (s.fill r).documents l = ((s.fill .nil).documents l).map (s.put b) ∧
      ∀ res, (s.fill r).documents l = .ok res →
        ∃ d, res.documents[s.index]? = some d ∧ d.fields = b
  page : ∃ b, (∀ key, Bindings.find? b key = lastValue? entries key) ∧
    ∀ r, Encodes entries r → row r = .ok b ∧ ∀ s : RowSlot,
      (s.fill r).page = (s.fill .nil).page.map (s.put b) ∧
      ∀ p, (s.fill r).page = .ok p → p.rows[s.before.length]? = some b

/-- No reader of tables takes a reply of `n` items. -/
structure OddRefused (r : Reply) (n : Nat) : Prop where
  options : r.options = .error (.reply "FT.CONFIG GET" (.oddLength n))
  attributes : r.attributes = .error (.reply "FT.INFO" (.oddLength n))
  synonyms : r.synonyms = .error (.reply "FT.SYNDUMP" (.oddLength n))
  documents : ∀ l (s : FieldsSlot l), Fails ((s.fill r).documents l)
  page : ∀ s : RowSlot, Fails (s.fill r).page

variable {entries : List (Reply × Reply)}

theorem formsAgree (hkeys : ∀ e ∈ entries, ∃ s, e.1.text? = some s) : FormsAgree entries where
  options := exists_table "FT.CONFIG GET" stringOrEmpty hkeys
  attributes := by
    obtain ⟨b, hlast, hb⟩ := exists_table "FT.INFO" id hkeys
    exact ⟨b, fun key => (hlast key).trans Option.map_id_apply, hb⟩
  synonyms := by
    refine ⟨(entries.mapM (readEntry "FT.SYNDUMP" (strings "FT.SYNDUMP"))).map .ofList,
      fun b hb => find?_of_table hb, fun hvalues => ?_,
      fun r hr => table_of_entries (entries_of_encodes "FT.SYNDUMP" hkeys hr)⟩
    obtain ⟨ps, hps⟩ := exists_mapM_readEntry "FT.SYNDUMP" _ hkeys hvalues
    exact ⟨.ofList ps, by rw [hps]; rfl⟩
  documents := by
    obtain ⟨b, hlast, hb⟩ := exists_table "FT.SEARCH" stringOrEmpty hkeys
    refine ⟨b, hlast, fun r hr => ⟨hb r hr, fun l s => ⟨s.documents_fill_eq (hb r hr), ?_⟩⟩⟩
    intro res hres
    obtain ⟨d, hd, hfields⟩ := s.exists_document hres
    exact ⟨d, hd, Except.ok.inj (hfields.symm.trans (hb r hr))⟩
  page := by
    obtain ⟨b, hlast, hb⟩ := exists_table "FT.AGGREGATE" id hkeys
    refine ⟨b, fun key => (hlast key).trans Option.map_id_apply, fun r hr => ⟨hb r hr, fun s =>
      ⟨s.page_fill_eq (hb r hr), ?_⟩⟩⟩
    intro p hp
    obtain ⟨c, hc, hrow⟩ := s.exists_row hp
    rwa [Except.ok.inj (hrow.symm.trans (hb r hr))] at hc

theorem oddRefused {r : Reply} {n : Nat}
    (h : ∀ command, r.entries command = .error (.reply command (.oddLength n))) :
    OddRefused r n := by
  have htable : ∀ {α : Type} (command : String) (read : Reply → Except Fault α),
      table command read r = .error (.reply command (.oddLength n)) := by
    intro α command read
    rw [table, h]
    rfl
  refine ⟨htable _ _, htable _ _, htable _ _, fun l s => ?_, fun s => ?_⟩
  · cases hres : (s.fill r).documents l with
    | error e => exact ⟨e, rfl⟩
    | ok res =>
      obtain ⟨d, -, hfields⟩ := s.exists_document hres
      cases hfields.symm.trans (htable "FT.SEARCH" _)
  · cases hp : (s.fill r).page with
    | error e => exact ⟨e, rfl⟩
    | ok p =>
      obtain ⟨b, -, hrow⟩ := s.exists_row hp
      cases hrow.symm.trans (htable "FT.AGGREGATE" _)

/-- **A table means the same in all of its forms, for all readers of tables,** if its keys are
scalars. An odd number of items that are not all arrays of two is refused by all of them. -/
theorem readers_agree (entries : List (Reply × Reply))
    (hkeys : ∀ e ∈ entries, ∃ s, e.1.text? = some s) :
    FormsAgree entries ∧ ∀ items : List Reply, items.length % 2 = 1 →
      (∃ r ∈ items, ∀ key value, r ≠ .array [key, value]) →
      OddRefused (.array items) items.length ∧ OddRefused (.set items) items.length :=
  ⟨formsAgree hkeys, fun _ hodd hitem =>
    ⟨oddRefused fun command => entriesOfItems_eq_error command hodd hitem,
      oddRefused fun command => entriesOfItems_eq_error command hodd hitem⟩⟩

/-- One key with two values, both arrays of two; and three items, one of them an array of two. -/
theorem readers_agree_twice :
    let entries : List (Reply × Reply) :=
      [(.simple "a", .array [.int 1, .int 2]), (.simple "a", .array [.int 3, .int 4])]
    let items : List Reply := [.array [.int 1, .int 2], .int 3, .int 4]
    (∀ e ∈ entries, ∃ s, e.1.text? = some s) ∧ items.length % 2 = 1 ∧
      lastValue? entries "a" = some (.array [.int 3, .int 4]) ∧
      FormsAgree entries ∧ OddRefused (.array items) 3 ∧ OddRefused (.set items) 3 := by
  intro entries items
  have hkeys : ∀ e ∈ entries, ∃ s, e.1.text? = some s := by
    intro e he
    rcases List.mem_pair.mp he with rfl | rfl <;> exact ⟨"a", rfl⟩
  have hitem : ∃ r ∈ items, ∀ key value, r ≠ .array [key, value] :=
    ⟨.int 3, List.mem_cons_of_mem _ List.mem_cons_self, fun _ _ h => nomatch h⟩
  have hodd : items.length % 2 = 1 := by simp [items]
  obtain ⟨hforms, hrefused⟩ := readers_agree entries hkeys
  exact ⟨hkeys, hodd, rfl, hforms, hrefused items hodd hitem⟩

/-- The fields of one document as a set in which a name occurs twice. -/
example : let s : FieldsSlot {} := ⟨.int 1, [], [.simple "a:1"], [], rfl, Nat.dvd_zero _, rfl⟩
    (s.fill (.set [.simple "x", .int 1, .simple "x", .okay])).documents {} =
      .ok ⟨1, [{ id := "a:1", fields := [("x", "OK")] }]⟩ := by
  rfl

end SearchWire.Reply
