import SearchWire.Proofs.Number.Natural
import SearchWire.Proofs.Reply.Encodings

/-!
# Shapes of replies

Which replies the readers of lists, counts and tables take, said of the replies alone.

* `Reply.Lists`, `Reply.items_eq_ok_iff`: replies with items;
* `Reply.Counts`, `Reply.natural?_eq_some_iff`: replies that are natural numbers;
* `Reply.Tabulates`, **`Reply.entries_eq_ok_iff`**: replies with keys and values;
* `Reply.IsTable`, `Reply.exists_table_of_isTable`, `Reply.exists_isTable_of_table`: tables whose
  keys are scalars.
-/

namespace SearchWire.Reply

/-! ## Lists -/

/-- The items of an array or a set; nil has none. -/
inductive Lists : Reply → List Reply → Prop
  | array (items : List Reply) : Lists (.array items) items
  | set (items : List Reply) : Lists (.set items) items
  | nil : Lists .nil []

theorem items_eq_ok_iff {command : String} {r : Reply} {l : List Reply} :
    items command r = .ok l ↔ Lists r l := by
  constructor
  · intro h
    unfold items at h
    split at h
    · cases h
      exact .array l
    · cases h
      exact .set l
    · cases h
      exact .nil
    · cases h
  · rintro (_ | _ | _) <;> rfl

theorem Lists.unique {r : Reply} {l l' : List Reply} (h : r.Lists l) (h' : r.Lists l') :
    l = l' := by
  cases h <;> cases h' <;> rfl

theorem Lists.text? {r : Reply} {l : List Reply} (h : r.Lists l) : r.text? = none := by
  cases h <;> rfl

/-! ## Counts -/

/-- The natural numbers that replies are read as: an integer that is not negative, or the number
that the text of another scalar writes. -/
inductive Counts : Reply → Nat → Prop
  | int (n : Nat) : Counts (.int n) n
  | text {r : Reply} {s : String} {n : Nat} (hint : ∀ k, r ≠ .int k) (htext : r.text? = some s)
      (hs : Numeral.Writes s n) : Counts r n

theorem natural?_eq_some_iff {r : Reply} {n : Nat} : r.natural? = some n ↔ Counts r n := by
  constructor
  · intro h
    unfold natural? at h
    split at h
    case h_1 k =>
      split at h
      case isTrue hk =>
        cases h
        have hcast : k = ((k.toNat : Nat) : Int) := (Int.toNat_of_nonneg hk).symm
        rw [hcast]
        exact .int _
      case isFalse => cases h
    case h_2 hint =>
      obtain ⟨s, htext, hs⟩ := Option.bind_eq_some_iff.mp h
      exact .text hint htext (Numeral.natural?_eq_some_iff.mp hs)
  · rintro (_ | ⟨hint, htext, hs⟩)
    · exact natural?_int n
    · unfold natural?
      split
      case h_1 k => exact absurd rfl (hint k)
      case h_2 => rw [htext, Option.bind_some, Numeral.natural?_eq_some_iff.mpr hs]

theorem natural?_eq_none_iff {r : Reply} : r.natural? = none ↔ ∀ n, ¬ Counts r n := by
  rw [Option.eq_none_iff_forall_ne_some]
  exact forall_congr' fun n => not_congr natural?_eq_some_iff

theorem not_counts_of_neg {k : Int} (hk : k < 0) (n : Nat) : ¬ Counts (.int k) n := by
  intro h
  cases h with
  | int => omega
  | text hint => exact hint k rfl

theorem Counts.exists_text? {r : Reply} {n : Nat} (h : r.Counts n) : ∃ s, r.text? = some s := by
  cases h with
  | int => exact ⟨_, rfl⟩
  | text _ htext => exact ⟨_, htext⟩

/-! ## Keys and values -/

/-- An array of two for each key and value. -/
def couples (entries : List (Reply × Reply)) : List Reply :=
  entries.map fun e => .array [e.1, e.2]

/-- The keys and values of a reply: those of a map, of arrays of two, or of an even number of items
that are not all arrays of two. -/
inductive Tabulates : Reply → List (Reply × Reply) → Prop
  | map (entries : List (Reply × Reply)) : Tabulates (.map entries) entries
  | couples {r : Reply} {entries : List (Reply × Reply)} (hitems : r.Lists (couples entries)) :
      Tabulates r entries
  | inTurn {r : Reply} {entries : List (Reply × Reply)} (hitems : r.Lists (inTurn entries))
      (hitem : ∃ item ∈ inTurn entries, ∀ key value, item ≠ .array [key, value]) :
      Tabulates r entries

theorem inTurn?_eq_some_iff {items : List Reply} {entries : List (Reply × Reply)} :
    inTurn? items = some entries ↔ items = inTurn entries := by
  constructor
  · intro h
    induction items using inTurn?.induct generalizing entries with
    | case1 =>
      cases h
      rfl
    | case2 r => cases h
    | case3 key value rest ih =>
      obtain ⟨es, hes, rfl⟩ := Option.map_eq_some_iff.mp h
      rw [ih hes]
      rfl
  · rintro rfl
    exact inTurn?_inTurn entries

theorem exists_eq_couples {items : List Reply}
    (h : ∀ item ∈ items, ∃ key value, item = .array [key, value]) :
    ∃ entries, items = couples entries := by
  induction items with
  | nil => exact ⟨[], rfl⟩
  | cons item items ih =>
    obtain ⟨⟨key, value, rfl⟩, hitems⟩ := List.forall_mem_cons.mp h
    obtain ⟨entries, rfl⟩ := ih hitems
    exact ⟨(key, value) :: entries, rfl⟩

theorem couples_inj {es es' : List (Reply × Reply)} : couples es = couples es' ↔ es = es' := by
  refine ⟨fun h => ?_, fun h => h ▸ rfl⟩
  have hitem : Function.Injective fun e : Reply × Reply => array [e.1, e.2] := by
    rintro ⟨key, value⟩ ⟨key', value'⟩ he
    cases he
    rfl
  exact List.map_injective_iff.mpr hitem h

theorem entriesOfItems_eq_ok_iff {command : String} {items : List Reply}
    {entries : List (Reply × Reply)} : entriesOfItems command items = .ok entries ↔
      items = couples entries ∨ items = inTurn entries ∧
        ∃ item ∈ items, ∀ key value, item ≠ .array [key, value] := by
  -- The items are taken in turn just if one of them is no array of two.
  by_cases hitem : ∃ item ∈ items, ∀ key value, item ≠ .array [key, value]
  · have hne : items ≠ couples entries := by
      rintro rfl
      obtain ⟨item, hmem, hitem⟩ := hitem
      obtain ⟨e, -, rfl⟩ := List.mem_map.mp hmem
      exact hitem e.1 e.2 rfl
    rw [entriesOfItems, couples?_eq_none hitem]
    simp only [hne, hitem, false_or, and_true, ← inTurn?_eq_some_iff]
    cases inTurn? items <;> simp
  · push Not at hitem
    obtain ⟨es, rfl⟩ := exists_eq_couples hitem
    have hread : entriesOfItems command (couples es) = .ok es := entriesOfItems_couples command es
    rw [hread, couples_inj, Except.ok.injEq, iff_self_or]
    rintro ⟨-, item, hmem, hne⟩
    obtain ⟨key, value, rfl⟩ := hitem item hmem
    exact absurd rfl (hne key value)

theorem Lists.entries {r : Reply} {l : List Reply} (h : r.Lists l) (command : String) :
    r.entries command = entriesOfItems command l := by
  cases h <;> rfl

/-- **What the keys and values of a reply are.** -/
theorem entries_eq_ok_iff {command : String} {r : Reply} {entries : List (Reply × Reply)} :
    r.entries command = .ok entries ↔ Tabulates r entries := by
  constructor
  · intro h
    unfold Reply.entries at h
    split at h
    case h_1 =>
      cases h
      exact .map entries
    case h_2 =>
      obtain ⟨l, hl, hentries⟩ := bind_eq_ok_iff.mp h
      rw [items_eq_ok_iff] at hl
      rcases entriesOfItems_eq_ok_iff.mp hentries with rfl | ⟨rfl, hitem⟩
      · exact .couples hl
      · exact .inTurn hl hitem
  · rintro (_ | hitems | ⟨hitems, hitem⟩)
    · rfl
    · rw [hitems.entries, entriesOfItems_eq_ok_iff]
      exact .inl rfl
    · rw [hitems.entries, entriesOfItems_eq_ok_iff]
      exact .inr ⟨rfl, hitem⟩

theorem Tabulates.unique {r : Reply} {es es' : List (Reply × Reply)} (h : r.Tabulates es)
    (h' : r.Tabulates es') : es = es' := by
  have hread : r.entries "" = .ok es := entries_eq_ok_iff.mpr h
  exact Except.ok.inj (hread.symm.trans (entries_eq_ok_iff.mpr h'))

theorem Tabulates.text? {r : Reply} {entries : List (Reply × Reply)} (h : r.Tabulates entries) :
    r.text? = none := by
  cases h with
  | map => rfl
  | couples hitems => exact hitems.text?
  | inTurn hitems => exact hitems.text?

/-! ## Tables -/

/-- A table whose keys are scalars, in any of its forms. -/
structure IsTable (r : Reply) (entries : List (Reply × Reply)) : Prop where
  keys : ∀ e ∈ entries, ∃ s, e.1.text? = some s
  form : r = .map entries ∨ r.Lists (couples entries) ∨ r.Lists (inTurn entries)

theorem isTable_of_encodes {r : Reply} {entries : List (Reply × Reply)}
    (hkeys : ∀ e ∈ entries, ∃ s, e.1.text? = some s) (h : Encodes entries r) :
    r.IsTable entries := by
  refine ⟨hkeys, ?_⟩
  cases h with
  | array => exact .inr (.inr (.array _))
  | set => exact .inr (.inr (.set _))
  | couples => exact .inr (.inl (.array _))
  | map => exact .inl rfl

/-- Keys that are scalars tell the forms apart. -/
theorem isTable_iff {r : Reply} {entries : List (Reply × Reply)} :
    r.IsTable entries ↔ r.Tabulates entries ∧ ∀ e ∈ entries, ∃ s, e.1.text? = some s := by
  constructor
  · rintro ⟨hkeys, rfl | hitems | hitems⟩
    · exact ⟨.map entries, hkeys⟩
    · exact ⟨.couples hitems, hkeys⟩
    · have hread : r.entries "" = .ok entries := by
        rw [hitems.entries]
        exact entries_inTurn "" hkeys
      exact ⟨entries_eq_ok_iff.mp hread, hkeys⟩
  · rintro ⟨_ | hitems | ⟨hitems, -⟩, hkeys⟩
    · exact ⟨hkeys, .inl rfl⟩
    · exact ⟨hkeys, .inr (.inl hitems)⟩
    · exact ⟨hkeys, .inr (.inr hitems)⟩

variable {α : Type} {r : Reply}

theorem exists_table_of_isTable (command : String) (value : Reply → α)
    {entries : List (Reply × Reply)} (h : r.IsTable entries) : ∃ b : Bindings α,
      table command (fun v => .ok (value v)) r = .ok b ∧
        ∀ key, b.find? key = (lastValue? entries key).map value := by
  obtain ⟨htable, hkeys⟩ := isTable_iff.mp h
  obtain ⟨b, hlast, hb⟩ := exists_table_of_entries command value hkeys
  exact ⟨b, hb r (entries_eq_ok_iff.mpr htable), hlast⟩

theorem exists_isTable_of_table {command : String} {value : Reply → α} {b : Bindings α}
    (h : table command (fun v => .ok (value v)) r = .ok b) : ∃ entries, r.IsTable entries ∧
      ∀ key, b.find? key = (lastValue? entries key).map value := by
  obtain ⟨es, hes, -⟩ := bind_eq_ok_iff.mp h
  rw [table_of_entries hes] at h
  refine ⟨es, isTable_iff.mpr ⟨entries_eq_ok_iff.mp hes, fun e he => ?_⟩, find?_of_total h⟩
  cases hread : es.mapM (readEntry command fun v => .ok (value v)) with
  | error fault =>
    rw [hread] at h
    cases h
  | ok ps =>
    obtain ⟨p, hp⟩ := exists_mapM_iff.mp ⟨ps, hread⟩ e he
    exact ⟨p.1, (readEntry_eq_ok_iff.mp hp).1⟩

end SearchWire.Reply
