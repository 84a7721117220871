import SearchWire.Proofs.Reply.Shapes

/-!
# Two forms of pages

The reply to an aggregation is a total and rows, or these in an array of their own beside the id of
a cursor. A total is a scalar and an id is no array, so neither form is read as the other, also
where a page has one row and where its rows have two items.

* `Reply.Parts`, `Reply.Holds`, `Reply.page_eq_ok_iff`: all that reading a page does;
* `Reply.RowReads`, `Reply.exists_rows_of_isTable`: rows that are read;
* `Reply.Malformed`, `Reply.not_holds_of_malformed`: rows that are refused;
* **`Reply.pages_apart`**.
-/

namespace SearchWire.Reply

/-! ## What a page is -/

theorem Counts.isArray {r : Reply} {n : Nat} (h : r.Counts n) : r.isArray = false := by
  obtain ⟨s, hs⟩ := h.exists_text?
  cases r with
  | array => cases hs
  | _ => rfl

/-- The items of a reply that hold the rows, and where the next page is: an array beside something
that is no array holds them, and else all items do. -/
inductive Parts : List Reply → List Reply → Option Nat → Prop
  | plain {items : List Reply} (h : ∀ body id, items = [.array body, id] → id.isArray = true) :
      Parts items items none
  | beside {body : List Reply} {id : Reply} {n : Nat} (h : id.Counts n) :
      Parts [.array body, id] body (if n = 0 then none else some n)

theorem pageParts_eq_ok_iff {items body : List Reply} {cursor : Option Nat} :
    pageParts items = .ok (body, cursor) ↔ Parts items body cursor := by
  constructor
  · intro h
    unfold pageParts at h
    split at h
    case h_1 rows id =>
      split at h
      case isTrue hid =>
        cases h
        refine .plain fun body id' hitems => ?_
        cases hitems
        exact hid
      case isFalse =>
        cases hn : id.natural? with
        | none =>
          rw [hn] at h
          cases h
        | some n =>
          rw [hn] at h
          cases h
          exact .beside (natural?_eq_some_iff.mp hn)
    case h_2 hitems =>
      cases h
      exact .plain fun body id h => absurd h (hitems body id)
  · rintro (hplain | hid)
    · unfold pageParts
      split
      case h_1 rows id => rw [if_pos (hplain rows id rfl)]
      case h_2 => rfl
    · simp only [pageParts, hid.isArray, Bool.false_eq_true, if_false,
        natural?_eq_some_iff.mpr hid]

/-- A total and the rows after it; where there is no total there are no rows. -/
inductive Holds : List Reply → Nat → List (Bindings Reply) → Prop
  | nil : Holds [] 0 []
  | rows {total : Reply} {n : Nat} {rows : List Reply} {bs : List (Bindings Reply)}
      (htotal : total.Counts n) (hrows : rows.mapM row = .ok bs) : Holds (total :: rows) n bs

/-- **All that reading a page does.** -/
theorem page_eq_ok_iff {r : Reply} {p : Page} : r.page = .ok p ↔
    ∃ items body, r.Lists items ∧ Parts items body p.cursor ∧ Holds body p.total p.rows := by
  constructor
  · intro h
    obtain ⟨items, hitems, h⟩ := bind_eq_ok_iff.mp h
    obtain ⟨⟨body, cursor⟩, hparts, h⟩ := bind_eq_ok_iff.mp h
    rw [items_eq_ok_iff] at hitems
    rw [pageParts_eq_ok_iff] at hparts
    cases body with
    | nil =>
      cases h
      exact ⟨items, [], hitems, hparts, .nil⟩
    | cons total rows =>
      dsimp only at h
      cases hn : total.natural? with
      | none =>
        rw [hn] at h
        cases h
      | some n =>
        rw [hn] at h
        obtain ⟨bs, hbs, ⟨⟩⟩ := bind_eq_ok_iff.mp h
        exact ⟨items, _, hitems, hparts, .rows (natural?_eq_some_iff.mp hn) hbs⟩
  · rintro ⟨items, body, hitems, hparts, hholds⟩
    unfold page
    rw [items_eq_ok_iff.mpr hitems]
    simp only [bind, Except.bind, pageParts_eq_ok_iff.mpr hparts]
    obtain ⟨total, rows, cursor⟩ := p
    cases hholds with
    | nil => rfl
    | rows htotal hrows =>
      simp only [natural?_eq_some_iff.mpr htotal, hrows]
      rfl

/-! ## Rows -/

/-- What is read of a row: each column has the last of its values. -/
def RowReads (entries : List (Reply × Reply)) (b : Bindings Reply) : Prop :=
  ∀ key, b.find? key = lastValue? entries key

theorem exists_rows_of_isTable {rows : List Reply} {entries : List (List (Reply × Reply))}
    (h : List.Forall₂ IsTable rows entries) :
    ∃ bs, rows.mapM row = .ok bs ∧ List.Forall₂ RowReads entries bs := by
  induction h with
  | nil => exact ⟨[], rfl, .nil⟩
  | @cons r es rows entries hr _ ih =>
    obtain ⟨b, hb, hlast⟩ := exists_table_of_isTable "FT.AGGREGATE" id hr
    obtain ⟨bs, hbs, hreads⟩ := ih
    refine ⟨b :: bs, ?_, .cons (fun key => (hlast key).trans Option.map_id_apply) hreads⟩
    have hrow : row r = .ok b := hb
    rw [List.mapM_cons, hrow, hbs]
    rfl

/-- A row that no page has: an odd number of items that are not all arrays of two, or a key that is
no scalar. -/
inductive Malformed (r : Reply) : Prop
  | odd {items : List Reply} (hitems : r.Lists items) (hodd : items.length % 2 = 1)
      (hitem : ∃ item ∈ items, ∀ key value, item ≠ .array [key, value])
  | key {entries : List (Reply × Reply)} {e : Reply × Reply} (htable : r.Tabulates entries)
      (he : e ∈ entries) (hkey : e.1.text? = none)

theorem Malformed.not_isTable {r : Reply} (h : r.Malformed) (entries : List (Reply × Reply)) :
    ¬ r.IsTable entries := by
  intro htable
  obtain ⟨htable, hkeys⟩ := isTable_iff.mp htable
  cases h with
  | odd hitems hodd hitem =>
    have hread : r.entries "" = .ok entries := entries_eq_ok_iff.mpr htable
    rw [hitems.entries, entriesOfItems_eq_error "" hodd hitem] at hread
    cases hread
  | key htable' he hkey =>
    rw [htable'.unique htable] at he
    obtain ⟨s, hs⟩ := hkeys _ he
    cases hkey.symm.trans hs

theorem Malformed.text? {r : Reply} (h : r.Malformed) : r.text? = none := by
  cases h with
  | odd hitems => exact hitems.text?
  | key htable => exact htable.text?

theorem not_holds_of_malformed {total : Reply} {rows : List Reply}
    (h : ∃ r ∈ rows, r.Malformed) (n : Nat) (bs : List (Bindings Reply)) :
    ¬ Holds (total :: rows) n bs := by
  rintro (_ | ⟨-, hrows⟩)
  obtain ⟨r, hr, hmalformed⟩ := h
  obtain ⟨b, hb⟩ := exists_mapM_iff.mp ⟨bs, hrows⟩ r hr
  have htable : table "FT.AGGREGATE" (fun v => .ok (id v)) r = .ok b := hb
  obtain ⟨entries, hentries, -⟩ := exists_isTable_of_table htable
  exact hmalformed.not_isTable entries hentries

/-! ## Both forms -/

theorem page_of_holds {total : Reply} {rows : List Reply} {n : Nat} {bs : List (Bindings Reply)}
    (h : Holds (total :: rows) n bs) : (array (total :: rows)).page = .ok ⟨n, bs, none⟩ := by
  refine page_eq_ok_iff.mpr ⟨_, _, .array _, .plain fun body id hitems => ?_, h⟩
  obtain ⟨rfl, -⟩ := List.cons.inj hitems
  cases h with
  | rows htotal => cases htotal.isArray

theorem page_beside {body : List Reply} {id : Reply} {n k : Nat} {bs : List (Bindings Reply)}
    (h : Holds body n bs) (hid : id.Counts k) :
    (array [.array body, id]).page = .ok ⟨n, bs, if k = 0 then none else some k⟩ :=
  page_eq_ok_iff.mpr ⟨_, body, .array _, .beside hid, h⟩

theorem page_eq_badCursor {id : Reply} (harray : id.isArray = false) (hid : ∀ n, ¬ id.Counts n)
    (body : List Reply) : (array [.array body, id]).page =
      .error (.reply "FT.AGGREGATE" (.badCursor id)) := by
  simp only [page, items, pageParts, harray, natural?_eq_none_iff.mpr hid, bind, Except.bind,
    Bool.false_eq_true, if_false]

theorem cursor_ne_zero {r : Reply} {p : Page} (h : r.page = .ok p) : p.cursor ≠ some 0 := by
  obtain ⟨items, body, -, hparts, -⟩ := page_eq_ok_iff.mp h
  intro hzero
  rw [hzero] at hparts
  generalize hcursor : some 0 = cursor at hparts
  cases hparts with
  | plain => cases hcursor
  | @beside _ _ n =>
    split at hcursor
    case isTrue => cases hcursor
    case isFalse hn => exact hn (Option.some.inj hcursor).symm

theorem fails_page_of_parts {items : List Reply}
    (h : ∀ body cursor n bs, Parts items body cursor → ¬ Holds body n bs) :
    Fails (array items).page := by
  by_contra hok
  obtain ⟨p, hp⟩ := not_fails_iff.mp hok
  obtain ⟨items', body, hitems, hparts, hholds⟩ := page_eq_ok_iff.mp hp
  obtain rfl := hitems.unique (.array items)
  exact h body _ _ _ hparts hholds

theorem fails_page {total : Reply} {rows : List Reply} (h : ∃ r ∈ rows, Malformed r) :
    Fails (array (total :: rows)).page := by
  refine fails_page_of_parts fun body cursor n bs hparts => ?_
  cases hparts with
  | plain => exact not_holds_of_malformed h n bs
  | beside hid =>
    -- A malformed row is no scalar, and so it is not the id of a cursor.
    obtain ⟨r, hr, hmalformed⟩ := h
    obtain rfl := List.mem_singleton.mp hr
    obtain ⟨s, hs⟩ := hid.exists_text?
    cases hmalformed.text?.symm.trans hs

theorem fails_page_beside {total : Reply} {rows : List Reply} (h : ∃ r ∈ rows, Malformed r)
    (id : Reply) : Fails (array [.array (total :: rows), id]).page := by
  refine fails_page_of_parts fun body cursor n bs hparts hholds => ?_
  cases hparts with
  | plain =>
    -- An array is no count.
    cases hholds with
    | rows htotal => cases htotal.isArray
  | beside => exact not_holds_of_malformed h n bs hholds

/-- **The two forms of a page are told apart,** whatever its rows are, and a page that has no next
one has no cursor. One malformed row makes the whole reply fail in both forms. -/
theorem pages_apart :
    (∀ (n : Nat) (rows : List Reply) (entries : List (List (Reply × Reply))),
      List.Forall₂ IsTable rows entries → ∃ bs, List.Forall₂ RowReads entries bs ∧
        (array (.int n :: rows)).page = .ok ⟨n, bs, none⟩ ∧
        ∀ c : Int,
          (0 < c → (array [.array (.int n :: rows), .int c]).page = .ok ⟨n, bs, some c.toNat⟩) ∧
          (c = 0 → (array [.array (.int n :: rows), .int c]).page = .ok ⟨n, bs, none⟩) ∧
          (c < 0 → (array [.array (.int n :: rows), .int c]).page =
            .error (.reply "FT.AGGREGATE" (.badCursor (.int c))))) ∧
    (∀ (r : Reply) (p : Page), r.page = .ok p → p.cursor ≠ some 0) ∧
    ∀ (total : Reply) (rows : List Reply), (∃ r ∈ rows, Malformed r) →
      Fails (array (total :: rows)).page ∧
      ∀ id, Fails (array [.array (total :: rows), id]).page := by
  refine ⟨fun n rows entries h => ?_, fun _ _ => cursor_ne_zero,
    fun _ _ h => ⟨fails_page h, fails_page_beside h⟩⟩
  obtain ⟨bs, hrows, hreads⟩ := exists_rows_of_isTable h
  have hholds : Holds (.int n :: rows) n bs := .rows (.int n) hrows
  refine ⟨bs, hreads, page_of_holds hholds, fun c => ⟨fun hc => ?_, fun hc => ?_, fun hc => ?_⟩⟩
  · lift c to Nat using Int.le_of_lt hc
    rw [page_beside hholds (.int c), if_neg (by omega), Int.toNat_natCast]
  · rw [hc]
    exact page_beside hholds (.int 0)
  · exact page_eq_badCursor rfl (not_counts_of_neg hc) _

/-- One row of two items, which are arrays of two, in both forms. -/
example : let row : Reply := .array [.array [.simple "a", .int 1], .array [.simple "b", .int 2]]
    (array [.int 1, row]).page.map (·.cursor) = .ok none ∧
      (array [.array [.int 1, row], .int 7]).page.map (·.cursor) = .ok (some 7) := by
  exact ⟨rfl, rfl⟩

end SearchWire.Reply
