import SearchWire.Bindings
import Mathlib.Data.List.Basic
import Mathlib.Data.List.Induction
import Mathlib.Data.List.Nodup

/-!
# Laws of bindings

* `Bindings.ofList_of_nodup`: pairs with distinct names are bindings already;
* `Bindings.find?_cons`, `Bindings.find?_append`, `Bindings.find?_of_mem`: values of names;
  `Bindings.find?_eq_some_iff`, `Bindings.find?_reverse_eq_some_iff`: the first one and the last one;
* `Bindings.find?_bind`, **`Bindings.find?_ofList`**: each name holds its last value;
  `Bindings.find?_ofList_append_cons`, `Bindings.mem_names_ofList`;
* `Bindings.names_bind`, **`Bindings.names_bindAll`**: names keep their places, and new names follow;
* `Bindings.bind_bind`, `Bindings.bind_comm`, **`Bindings.bindAll_bindAll_self`**: what is bound
  again is bound once;
* `Bindings.LastWins`, **`Bindings.lastWins_ofList`**: pairs bound one after the other, all told;
  `Bindings.Rebound`, `Bindings.rebound_bind`: what binding a name again leaves alone.
-/

namespace SearchWire.Bindings

variable {α : Type}

theorem bind_of_notMem {name : String} {value : α} {b : Bindings α} (h : name ∉ b.names) :
    bind name value b = b ++ [(name, value)] := by
  induction b with
  | nil => rfl
  | cons p b ih =>
    obtain ⟨hp, hb⟩ := not_or.mp (mt List.mem_cons.mpr h)
    rw [bind, if_neg (Ne.symm hp), ih hb, List.cons_append]

theorem bindAll_of_nodup {b : Bindings α} {ps : List (String × α)}
    (h : (names (b ++ ps)).Nodup) : bindAll b ps = b ++ ps := by
  induction ps generalizing b with
  | nil => exact (List.append_nil b).symm
  | cons p ps ih =>
    have hp : p.1 ∉ b.names := fun hmem => by
      rw [names, List.map_append] at h
      exact (List.nodup_append.mp h).2.2 _ hmem _ List.mem_cons_self rfl
    rw [bindAll_cons, bind_of_notMem hp]
    have hassoc : b ++ [(p.1, p.2)] ++ ps = b ++ p :: ps := by simp
    rw [ih (by rw [hassoc]; exact h), hassoc]

theorem ofList_of_nodup {ps : List (String × α)} (h : (names ps).Nodup) : ofList ps = ps :=
  bindAll_of_nodup h

@[simp] theorem find?_nil (key : String) : find? ([] : Bindings α) key = none := rfl

theorem find?_cons (key : String) (p : String × α) (b : Bindings α) :
    find? (p :: b) key = if key = p.1 then some p.2 else b.find? key := by
  rw [find?, List.lookup_cons]
  by_cases h : key = p.1
  · rw [if_pos h, beq_iff_eq.mpr h]
  · rw [if_neg h, beq_eq_false_iff_ne.mpr h, find?]

theorem find?_append (key : String) (b c : Bindings α) :
    find? (b ++ c) key = (b.find? key).or (c.find? key) := by
  induction b with
  | nil => rfl
  | cons p b ih =>
    rw [List.cons_append, find?_cons, find?_cons, ih]
    split <;> rfl

theorem find?_eq_none_of_notMem {b : Bindings α} {name : String} (h : name ∉ b.names) :
    b.find? name = none := by
  induction b with
  | nil => rfl
  | cons p b ih =>
    obtain ⟨hp, hb⟩ := not_or.mp (mt List.mem_cons.mpr h)
    rw [find?_cons, if_neg hp]
    exact ih hb

theorem find?_of_mem {b : Bindings α} (hb : b.names.Nodup) {p : String × α} (h : p ∈ b) :
    b.find? p.1 = some p.2 := by
  induction b with
  | nil => cases h
  | cons q b ih =>
    obtain ⟨hq, hb⟩ := List.nodup_cons.mp hb
    rw [find?_cons]
    rcases List.mem_cons.mp h with rfl | h
    · exact if_pos rfl
    · rw [if_neg fun he => hq (List.mem_map.mpr ⟨p, h, he⟩)]
      exact ih hb h

theorem find?_eq_some_iff {name : String} {value : α} {b : Bindings α} :
    b.find? name = some value ↔
      ∃ before after, b = before ++ (name, value) :: after ∧ name ∉ names before := by
  rw [find?, List.lookup_eq_some_iff]
  simp only [names, List.mem_map, not_exists, not_and, bne_iff_ne]
  refine exists_congr fun before => exists_congr fun after => and_congr_right fun _ => ?_
  exact forall₂_congr fun p _ => ne_comm

theorem find?_reverse_eq_some_iff {name : String} {value : α} {ps : List (String × α)} :
    find? ps.reverse name = some value ↔
      ∃ before after, ps = before ++ (name, value) :: after ∧ name ∉ names after := by
  rw [find?_eq_some_iff]
  constructor
  · rintro ⟨after, before, h, hname⟩
    refine ⟨before.reverse, after.reverse, ?_, by simpa [names] using hname⟩
    rw [List.reverse_eq_iff.mp h]
    simp
  · rintro ⟨before, after, rfl, hname⟩
    exact ⟨after.reverse, before.reverse, by simp, by simpa [names] using hname⟩

theorem mem_iff_find? {name : String} {value : α} {b : Bindings α} (hb : b.names.Nodup) :
    (name, value) ∈ b ↔ b.find? name = some value := by
  constructor
  · exact fun h => find?_of_mem hb h
  · intro h
    obtain ⟨before, after, rfl, -⟩ := find?_eq_some_iff.mp h
    exact List.mem_append_right before List.mem_cons_self

/-! ## Binding -/

theorem find?_bind (name key : String) (value : α) (b : Bindings α) :
    (bind name value b).find? key = if key = name then some value else b.find? key := by
  induction b with
  | nil => exact find?_cons key (name, value) []
  | cons p b ih =>
    by_cases hp : p.1 = name
    · rw [bind, if_pos hp, find?_cons, find?_cons, hp]
      split <;> rfl
    · rw [bind, if_neg hp, find?_cons, find?_cons, ih]
      by_cases hkey : key = p.1
      · rw [if_pos hkey, if_pos hkey, if_neg (hkey ▸ hp)]
      · rw [if_neg hkey, if_neg hkey]

theorem find?_bindAll (key : String) (b : Bindings α) (ps : List (String × α)) :
    (bindAll b ps).find? key = (find? ps.reverse key).or (b.find? key) := by
  induction ps generalizing b with
  | nil => rfl
  | cons p ps ih =>
    rw [bindAll_cons, ih, find?_bind, List.reverse_cons, find?_append, Option.or_assoc, find?_cons]
    split <;> rfl

/-- **Each name holds the last value it was bound to.** -/
theorem find?_ofList (key : String) (ps : List (String × α)) :
    (ofList ps).find? key = find? ps.reverse key := by
  rw [ofList, find?_bindAll]
  exact Option.or_none

theorem find?_ofList_append_cons {before after : List (String × α)} {p : String × α}
    (h : p.1 ∉ names after) : (ofList (before ++ p :: after)).find? p.1 = some p.2 := by
  rw [find?_ofList, find?_reverse_eq_some_iff]
  exact ⟨before, after, rfl, h⟩

/-! ## Bound names -/

theorem mem_names_cons {key : String} {p : String × α} {b : Bindings α} :
    key ∈ names (p :: b) ↔ key = p.1 ∨ key ∈ names b := List.mem_cons

theorem mem_names_bind {name key : String} {value : α} {b : Bindings α} :
    key ∈ names (bind name value b) ↔ key = name ∨ key ∈ names b := by
  induction b with
  | nil => exact mem_names_cons
  | cons p b ih =>
    rw [bind]
    split
    case isTrue hp => rw [mem_names_cons, mem_names_cons, hp, or_self_left]
    case isFalse => rw [mem_names_cons, mem_names_cons, ih, or_left_comm]

theorem mem_names_bindAll {key : String} {b : Bindings α} {ps : List (String × α)} :
    key ∈ names (bindAll b ps) ↔ key ∈ names ps ∨ key ∈ names b := by
  induction ps generalizing b with
  | nil => exact (or_iff_right List.not_mem_nil).symm
  | cons p ps ih => rw [bindAll_cons, ih, mem_names_bind, mem_names_cons, or_assoc, or_left_comm]

theorem mem_names_ofList {key : String} {ps : List (String × α)} :
    key ∈ names (ofList ps) ↔ key ∈ names ps := by
  rw [ofList, mem_names_bindAll]
  exact or_iff_left List.not_mem_nil

theorem names_bind (name : String) (value : α) (b : Bindings α) :
    names (bind name value b) = if name ∈ names b then names b else names b ++ [name] := by
  induction b with
  | nil => rfl
  | cons p b ih =>
    have hcons : ∀ c : Bindings α, names (p :: c) = p.1 :: names c := fun _ => rfl
    by_cases hp : p.1 = name
    · rw [bind, if_pos hp, hcons, if_pos (by rw [hp]; exact List.mem_cons_self)]
      rfl
    · rw [bind, if_neg hp, hcons, hcons, ih]
      by_cases hmem : name ∈ names b
      · rw [if_pos hmem, if_pos (List.mem_cons_of_mem _ hmem)]
      · rw [if_neg hmem, if_neg (by simp [hmem, Ne.symm hp])]
        rfl

/-- **Names keep their places, and new names follow in the order of their first binding.** -/
theorem names_bindAll (b : Bindings α) (ps : List (String × α)) :
    names (bindAll b ps) = names b ++ (names (ofList ps)).filter fun name => name ∉ names b := by
  induction ps generalizing b with
  | nil => simp [ofList, names]
  | cons p ps ih =>
    have hofList : names (ofList (p :: ps)) =
        p.1 :: (names (ofList ps)).filter fun name => name ≠ p.1 := by
      rw [ofList, bindAll_cons, ih]
      simp [bind, names]
    rw [bindAll_cons, ih, hofList, names_bind]
    by_cases hp : p.1 ∈ names b
    · rw [if_pos hp, List.filter_cons_of_neg (by simpa using hp), List.filter_filter]
      congr 1
      refine List.filter_congr fun name _ => ?_
      by_cases hname : name = p.1 <;> simp [hname, hp]
    · rw [if_neg hp, List.filter_cons_of_pos (by simpa using hp), List.filter_filter,
        List.append_assoc, List.singleton_append]
      simp [not_or]

/-! ## Binding again -/

theorem bind_bind (name : String) (value value' : α) (b : Bindings α) :
    bind name value (bind name value' b) = bind name value b := by
  induction b with
  | nil => exact if_pos rfl
  | cons p b ih =>
    by_cases hp : p.1 = name
    · rw [bind, if_pos hp, bind, if_pos hp, bind, if_pos hp]
    · rw [bind, if_neg hp, bind, if_neg hp, bind, if_neg hp, ih]

theorem bind_comm {name name' : String} (value value' : α) {b : Bindings α} (hne : name ≠ name')
    (h : name ∈ names b) :
    bind name value (bind name' value' b) = bind name' value' (bind name value b) := by
  induction b with
  | nil => cases h
  | cons p b ih =>
    by_cases hp : p.1 = name
    · have hp' : p.1 ≠ name' := fun hp' => hne (hp.symm.trans hp')
      simp only [bind, if_pos hp, if_neg hp']
    · by_cases hp' : p.1 = name'
      · simp only [bind, if_pos hp', if_neg hp]
      · have hmem := (mem_names_cons.mp h).resolve_left (Ne.symm hp)
        simp only [bind, if_neg hp, if_neg hp', ih hmem]

theorem bind_append {name : String} (value : α) {b : Bindings α} (h : name ∈ names b)
    (c : Bindings α) : bind name value (b ++ c) = bind name value b ++ c := by
  induction b with
  | nil => cases h
  | cons p b ih =>
    by_cases hp : p.1 = name
    · rw [List.cons_append, bind, if_pos hp, bind, if_pos hp, List.cons_append]
    · have hmem := (mem_names_cons.mp h).resolve_left (Ne.symm hp)
      rw [List.cons_append, bind, if_neg hp, bind, if_neg hp, ih hmem, List.cons_append]

theorem bindAll_append_of_subset {b : Bindings α} {ps : List (String × α)}
    (h : names ps ⊆ names b) (c : Bindings α) : bindAll (b ++ c) ps = bindAll b ps ++ c := by
  induction ps generalizing b with
  | nil => rfl
  | cons p ps ih =>
    have hps : names ps ⊆ names (bind p.1 p.2 b) := fun _ hn =>
      mem_names_bind.mpr (.inr (h (List.mem_cons_of_mem _ hn)))
    rw [bindAll_cons, bind_append _ (h List.mem_cons_self), ih hps, bindAll_cons]

theorem bindAll_bind_of_mem {name : String} (value : α) {b : Bindings α} {ps : List (String × α)}
    (hb : name ∈ names b) (hps : name ∈ names ps) :
    bindAll (bind name value b) ps = bindAll b ps := by
  induction ps generalizing b with
  | nil => cases hps
  | cons p ps ih =>
    rw [bindAll_cons, bindAll_cons]
    by_cases hp : name = p.1
    · rw [← hp, bind_bind]
    · have hmem := (mem_names_cons.mp hps).resolve_left hp
      rw [← bind_comm value p.2 hp hb, ih (mem_names_bind.mpr (.inr hb)) hmem]

theorem bindAll_concat (b : Bindings α) (ps : List (String × α)) (p : String × α) :
    bindAll b (ps ++ [p]) = bind p.1 p.2 (bindAll b ps) := bindAll_append b ps [p]

/-- **Binding all pairs of a list a second time changes nothing.** -/
theorem bindAll_bindAll_self (b : Bindings α) (ps : List (String × α)) :
    bindAll (bindAll b ps) ps = bindAll b ps := by
  induction ps using List.reverseRecOn with
  | nil => rfl
  | append_singleton ps p ih =>
    rw [bindAll_concat b]
    by_cases hp : p.1 ∈ names (bindAll b ps)
    · -- The last pair binds its name in place, so it may as well not have been bound before.
      have hlast : p.1 ∈ names (ps ++ [p]) := by simp [names]
      rw [bindAll_bind_of_mem p.2 hp hlast, bindAll_concat, ih]
    · -- Its name is new, so all other pairs bind before it.
      have hsubset : names ps ⊆ names (bindAll b ps) := fun _ hn => mem_names_bindAll.mpr (.inl hn)
      rw [bindAll_concat, bind_of_notMem hp, bindAll_append_of_subset hsubset, ih,
        ← bind_of_notMem hp, bind_bind]

/-! ## Pairs bound one after the other -/

theorem ofList_concat (ps : List (String × α)) (p : String × α) :
    ofList (ps ++ [p]) = bind p.1 p.2 (ofList ps) := bindAll_concat [] ps p

theorem ofList_eq_nil_iff {ps : List (String × α)} : ofList ps = [] ↔ ps = [] := by
  have hnames (b : Bindings α) : b = [] ↔ names b = [] := List.map_eq_nil_iff.symm
  rw [hnames, hnames, List.eq_nil_iff_forall_not_mem, List.eq_nil_iff_forall_not_mem]
  exact forall_congr' fun _ => not_congr mem_names_ofList

theorem nodup_names_bind {b : Bindings α} (h : b.names.Nodup) (name : String) (value : α) :
    (names (bind name value b)).Nodup := by
  rw [names_bind]
  split
  case isTrue => exact h
  case isFalse hname =>
    rw [← List.concat_eq_append]
    exact List.Nodup.concat hname h

theorem nodup_names_bindAll {b : Bindings α} (h : b.names.Nodup) (ps : List (String × α)) :
    (names (bindAll b ps)).Nodup := by
  induction ps generalizing b with
  | nil => exact h
  | cons p ps ih => exact ih (nodup_names_bind h p.1 p.2)

theorem nodup_names_ofList (ps : List (String × α)) : (names (ofList ps)).Nodup :=
  nodup_names_bindAll (b := []) List.nodup_nil ps

theorem names_ofList (ps : List (String × α)) : names (ofList ps) = (names ps).eraseDups := by
  induction ps using List.reverseRecOn with
  | nil => rfl
  | append_singleton ps p ih =>
    -- The last pair finds the place of its name or opens a new one at the end.
    have hnames : names (ps ++ [p]) = names ps ++ [p.1] := List.map_append
    rw [ofList_concat, names_bind, ih, hnames, List.eraseDups_append]
    by_cases hp : p.1 ∈ names ps
    · simp [List.removeAll, hp]
    · simp [List.removeAll, List.eraseDups_cons, hp]

/-- `b` is what binding `ps` one after the other leaves. -/
structure LastWins (ps : List (String × α)) (b : Bindings α) : Prop where
  distinct : b.names.Nodup
  order : b.names = (names ps).eraseDups
  /-- Each name holds the value of its last binding. -/
  values : ∀ name value, (name, value) ∈ b ↔
    ∃ before after, ps = before ++ (name, value) :: after ∧ name ∉ names after

theorem LastWins.length_eq {ps : List (String × α)} {b : Bindings α} (h : LastWins ps b) :
    b.length = (names ps).eraseDups.length := by
  rw [← h.order, Bindings.names, List.length_map]

/-- **Each name is bound once, in the order of the first bindings and with its last value.** -/
theorem lastWins_ofList (ps : List (String × α)) : LastWins ps (ofList ps) where
  distinct := nodup_names_ofList ps
  order := names_ofList ps
  values name value := by
    rw [mem_iff_find? (nodup_names_ofList ps), find?_ofList, find?_reverse_eq_some_iff]

/-- `b'` has the names of `b`, and the same values under all names but one. -/
structure Rebound (name : String) (b b' : Bindings α) : Prop where
  names : b'.names = b.names
  others : ∀ (i : Nat) (p : String × α), b[i]? = some p → p.1 ≠ name → b'[i]? = some p

theorem getElem?_bind_of_ne {name : String} (value : α) {b : Bindings α} {i : Nat}
    {p : String × α} (h : b[i]? = some p) (hp : p.1 ≠ name) :
    (bind name value b)[i]? = some p := by
  induction b generalizing i with
  | nil => cases h
  | cons q b ih =>
    cases i with
    | zero =>
      obtain rfl : q = p := Option.some.inj h
      rw [bind, if_neg hp]
      rfl
    | succ i =>
      rw [bind]
      split
      · exact h
      · exact ih h

/-- **Binding a name again changes its value only.** -/
theorem rebound_bind {name : String} (value : α) {b : Bindings α} (h : name ∈ names b) :
    Rebound name b (bind name value b) where
  names := by rw [names_bind, if_pos h]
  others _ _ := getElem?_bind_of_ne value

end SearchWire.Bindings
