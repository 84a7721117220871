import Mathlib.Data.List.Forall2

/-!
# Steps that may be refused

* `bind_eq_ok_iff`, `bind_eq_error_iff`: a step after another one;
* `forM_eq_ok_iff`, `mapM_eq_ok_iff`, `exists_forall₂_iff`, `exists_mapM_iff`,
  `exists_getElem?_of_mapM`, `mapM_append_cons_of_map`: one step for each item of a list;
* `Earliest`, `mapM_eq_error_iff`, `forM_eq_error_iff`: the first item that is refused;
* `FailsOnly`: what the faults of a step have in common; `FailsOnly.bind`, `FailsOnly.map`,
  `FailsOnly.mapM`;
* `GivesOnly`: what the values of a step have in common; `GivesOnly.bind`, `GivesOnly.map`.
-/

namespace SearchWire

variable {ε α β : Type}

theorem bind_eq_ok_iff {x : Except ε α} {f : α → Except ε β} {b : β} :
    x >>= f = .ok b ↔ ∃ a, x = .ok a ∧ f a = .ok b := by
  cases x with
  | error e =>
    constructor
    · rintro ⟨⟩
    · rintro ⟨_, ⟨⟩, -⟩
  | ok a =>
    constructor
    · exact fun h => ⟨a, rfl, h⟩
    · rintro ⟨_, ⟨⟩, h⟩
      exact h

theorem forM_eq_ok_iff {f : α → Except ε Unit} {xs : List α} :
    xs.forM f = .ok () ↔ ∀ x ∈ xs, f x = .ok () := by
  induction xs with
  | nil => exact iff_of_true rfl fun _ hx => absurd hx List.not_mem_nil
  | cons x xs ih =>
    have hcons : (x :: xs).forM f = f x >>= fun _ => xs.forM f := rfl
    rw [hcons, bind_eq_ok_iff, List.forall_mem_cons]
    constructor
    · rintro ⟨⟨⟩, hx, hxs⟩
      exact ⟨hx, ih.mp hxs⟩
    · rintro ⟨hx, hxs⟩
      exact ⟨(), hx, ih.mpr hxs⟩

theorem mapM_eq_ok_iff {f : α → Except ε β} {xs : List α} {ys : List β} :
    xs.mapM f = .ok ys ↔ List.Forall₂ (fun x y => f x = .ok y) xs ys := by
  induction xs generalizing ys with
  | nil =>
    rw [List.mapM_nil, List.forall₂_nil_left_iff]
    constructor
    · rintro ⟨⟩
      rfl
    · rintro rfl
      rfl
  | cons x xs ih =>
    rw [List.mapM_cons, List.forall₂_cons_left_iff, bind_eq_ok_iff]
    simp only [bind_eq_ok_iff, ih]
    constructor
    · rintro ⟨y, hy, rest, hrest, ⟨⟩⟩
      exact ⟨y, rest, hy, hrest, rfl⟩
    · rintro ⟨y, rest, hy, hrest, rfl⟩
      exact ⟨y, hy, rest, hrest, rfl⟩

/-- Each item is related to something just if all of them are, one after another. -/
theorem exists_forall₂_iff {R : α → β → Prop} {xs : List α} :
    (∃ ys, List.Forall₂ R xs ys) ↔ ∀ x ∈ xs, ∃ y, R x y := by
  induction xs with
  | nil => simp
  | cons x xs ih =>
    rw [List.forall_mem_cons, ← ih]
    constructor
    · rintro ⟨_, _ | ⟨hy, hys⟩⟩
      exact ⟨⟨_, hy⟩, _, hys⟩
    · rintro ⟨⟨y, hy⟩, ys, hys⟩
      exact ⟨y :: ys, .cons hy hys⟩

theorem exists_mapM_iff {f : α → Except ε β} {xs : List α} :
    (∃ ys, xs.mapM f = .ok ys) ↔ ∀ x ∈ xs, ∃ y, f x = .ok y := by
  simp only [mapM_eq_ok_iff]
  exact exists_forall₂_iff

theorem exists_getElem?_of_mapM {f : α → Except ε β} {xs : List α} {ys : List β}
    (h : xs.mapM f = .ok ys) {i : Nat} {x : α} (hx : xs[i]? = some x) :
    ∃ y, ys[i]? = some y ∧ f x = .ok y := by
  have hall := mapM_eq_ok_iff.mp h
  clear h
  induction hall generalizing i with
  | nil => cases hx
  | cons hy _ ih =>
    cases i with
    | zero =>
      cases hx
      exact ⟨_, rfl, hy⟩
    | succ i => exact ih hx

/-- An item put in the place of another changes the value at this place only. -/
theorem mapM_append_cons_of_map {f : α → Except ε β} {x x' : α} {g : β → β}
    (h : f x' = (f x).map g) (xs zs : List α) : (xs ++ x' :: zs).mapM f =
      ((xs ++ x :: zs).mapM f).map fun ys => ys.modify xs.length g := by
  induction xs with
  | nil =>
    rw [List.nil_append, List.nil_append, List.mapM_cons, List.mapM_cons, h]
    cases f x with
    | error e => rfl
    | ok y => cases zs.mapM f <;> rfl
  | cons a xs ih =>
    rw [List.cons_append, List.cons_append, List.mapM_cons, List.mapM_cons, ih]
    cases f a with
    | error e => rfl
    | ok b => cases (xs ++ x :: zs).mapM f <;> rfl

/-! ## The first fault -/

theorem bind_eq_error_iff {x : Except ε α} {f : α → Except ε β} {e : ε} :
    x >>= f = .error e ↔ x = .error e ∨ ∃ a, x = .ok a ∧ f a = .error e := by
  cases x with
  | error e' =>
    constructor
    · rintro ⟨⟩
      exact .inl rfl
    · rintro (⟨⟨⟩⟩ | ⟨_, ⟨⟩, -⟩)
      rfl
  | ok a =>
    constructor
    · exact fun h => .inr ⟨a, rfl, h⟩
    · rintro (⟨⟨⟩⟩ | ⟨_, ⟨⟩, h⟩)
      exact h

/-- The first item of a list that has a property. -/
def Earliest (P : α → Prop) (xs : List α) (x : α) : Prop :=
  P x ∧ ∃ before after, xs = before ++ x :: after ∧ ∀ y ∈ before, ¬ P y

theorem not_earliest_nil (P : α → Prop) (x : α) : ¬ Earliest P [] x := by
  rintro ⟨-, before, after, h, -⟩
  exact List.append_ne_nil_of_right_ne_nil before (List.cons_ne_nil x after) h.symm

theorem earliest_cons_iff {P : α → Prop} {a x : α} {xs : List α} :
    Earliest P (a :: xs) x ↔ P a ∧ x = a ∨ ¬ P a ∧ Earliest P xs x := by
  constructor
  · rintro ⟨hx, _ | ⟨b, before⟩, after, h, hbefore⟩
    · obtain ⟨rfl, -⟩ := List.cons.inj h
      exact .inl ⟨hx, rfl⟩
    · obtain ⟨rfl, rfl⟩ := List.cons.inj h
      obtain ⟨ha, hbefore⟩ := List.forall_mem_cons.mp hbefore
      exact .inr ⟨ha, hx, before, after, rfl, hbefore⟩
  · rintro (⟨ha, rfl⟩ | ⟨ha, hx, before, after, rfl, hbefore⟩)
    · exact ⟨ha, [], xs, rfl, fun _ h => nomatch h⟩
    · exact ⟨hx, a :: before, after, rfl, List.forall_mem_cons.mpr ⟨ha, hbefore⟩⟩

theorem Earliest.mem {P : α → Prop} {x : α} {xs : List α} (h : Earliest P xs x) : x ∈ xs := by
  obtain ⟨-, before, after, rfl, -⟩ := h
  exact List.mem_append_right before List.mem_cons_self

/-- A step is refused. -/
def Fails (x : Except ε α) : Prop := ∃ e, x = .error e

theorem not_fails_iff {x : Except ε α} : ¬ Fails x ↔ ∃ a, x = .ok a := by
  cases x with
  | error e => exact iff_of_false (fun h => h ⟨e, rfl⟩) fun ⟨_, h⟩ => nomatch h
  | ok a => exact iff_of_true (fun ⟨_, h⟩ => nomatch h) ⟨a, rfl⟩

/-- A list fails with the fault of its first item that fails. -/
theorem mapM_eq_error_iff {f : α → Except ε β} {xs : List α} {e : ε} :
    xs.mapM f = .error e ↔ ∃ x, Earliest (fun x => Fails (f x)) xs x ∧ f x = .error e := by
  induction xs with
  | nil =>
    constructor
    · rintro ⟨⟩
    · rintro ⟨x, hx, -⟩
      exact absurd hx (not_earliest_nil _ x)
  | cons a xs ih =>
    have hok : ∀ ys, (pure ys : Except ε (List β)) ≠ .error e := fun ys h => nomatch h
    simp only [List.mapM_cons, bind_eq_error_iff, ih, hok, and_false, exists_false, or_false,
      earliest_cons_iff]
    constructor
    · rintro (ha | ⟨b, hb, x, hx, he⟩)
      · exact ⟨a, .inl ⟨⟨e, ha⟩, rfl⟩, ha⟩
      · exact ⟨x, .inr ⟨not_fails_iff.mpr ⟨b, hb⟩, hx⟩, he⟩
    · rintro ⟨x, ⟨-, rfl⟩ | ⟨ha, hx⟩, he⟩
      · exact .inl he
      · obtain ⟨b, hb⟩ := not_fails_iff.mp ha
        exact .inr ⟨b, hb, x, hx, he⟩

theorem forM_eq_error_iff {f : α → Except ε Unit} {xs : List α} {e : ε} :
    xs.forM f = .error e ↔ ∃ x, Earliest (fun x => Fails (f x)) xs x ∧ f x = .error e := by
  rw [← mapM_eq_error_iff]
  induction xs with
  | nil => exact iff_of_false (fun h => nomatch h) fun h => nomatch h
  | cons a xs ih =>
    have hcons : (a :: xs).forM f = f a >>= fun _ => xs.forM f := rfl
    have hok : ∀ us, (pure us : Except ε (List Unit)) ≠ .error e := fun us h => nomatch h
    simp only [hcons, List.mapM_cons, bind_eq_error_iff, ih, hok, and_false, exists_false, or_false]

/-! ## Faults in common -/

/-- Every fault that a step can end in has a property. -/
def FailsOnly (P : ε → Prop) (x : Except ε α) : Prop := ∀ e, x = .error e → P e

namespace FailsOnly

variable {P : ε → Prop}

theorem ok (a : α) : FailsOnly P (.ok a : Except ε α) := fun _ h => nomatch h

theorem error {e : ε} (h : P e) : FailsOnly P (.error e : Except ε α) := by
  rintro _ ⟨⟩
  exact h

theorem bind {x : Except ε α} {f : α → Except ε β} (hx : FailsOnly P x)
    (hf : ∀ a, FailsOnly P (f a)) : FailsOnly P (x >>= f) := by
  cases x with
  | error e => exact error (hx e rfl)
  | ok a => exact hf a

/-- A step that is taken on a condition only, and the steps after it. -/
theorem ifTaken {c : Prop} [Decidable c] {x : Except ε Unit} {f : Unit → Except ε β}
    (hx : FailsOnly P x) (hf : ∀ u, FailsOnly P (f u)) :
    FailsOnly P (if c then x >>= f else f ()) := by
  split
  · exact hx.bind hf
  · exact hf ()

theorem map {x : Except ε α} (hx : FailsOnly P x) (f : α → β) : FailsOnly P (x.map f) := by
  cases x with
  | error e => exact error (hx e rfl)
  | ok a => exact ok (f a)

theorem mapError {δ : Type} {f : δ → ε} (hf : ∀ d, P (f d)) (x : Except δ α) :
    FailsOnly P (x.mapError f) := by
  cases x with
  | error d => exact error (hf d)
  | ok a => exact ok a

theorem mono {Q : ε → Prop} {x : Except ε α} (hx : FailsOnly P x) (hPQ : ∀ e, P e → Q e) :
    FailsOnly Q x := fun e he => hPQ e (hx e he)

theorem forM {f : α → Except ε Unit} (hf : ∀ a, FailsOnly P (f a)) (xs : List α) :
    FailsOnly P (xs.forM f) := by
  induction xs with
  | nil => exact ok ()
  | cons x xs ih => exact (hf x).bind fun _ => ih

theorem mapM {f : α → Except ε β} (hf : ∀ a, FailsOnly P (f a)) (xs : List α) :
    FailsOnly P (xs.mapM f) := by
  induction xs with
  | nil => exact ok []
  | cons x xs ih =>
    rw [List.mapM_cons]
    exact (hf x).bind fun y => ih.bind fun ys => ok (y :: ys)

end FailsOnly

/-! ## Values in common -/

/-- Every value that a step can give has a property. -/
def GivesOnly (P : α → Prop) (x : Except ε α) : Prop := ∀ a, x = .ok a → P a

namespace GivesOnly

variable {P : β → Prop}

theorem ok {b : β} (h : P b) : GivesOnly P (.ok b : Except ε β) := by
  rintro _ ⟨⟩
  exact h

theorem error (e : ε) : GivesOnly P (.error e : Except ε β) := fun _ h => nomatch h

theorem bind {f : α → Except ε β} (hf : ∀ a, GivesOnly P (f a)) (x : Except ε α) :
    GivesOnly P (x >>= f) := by
  cases x with
  | error e => exact error e
  | ok a => exact hf a

theorem ifTaken {c : Prop} [Decidable c] {f : Unit → Except ε β} (hf : ∀ u, GivesOnly P (f u))
    (x : Except ε Unit) : GivesOnly P (if c then x >>= f else f ()) := by
  split
  · exact bind hf x
  · exact hf ()

theorem map {f : α → β} (hf : ∀ a, P (f a)) (x : Except ε α) : GivesOnly P (x.map f) := by
  cases x with
  | error e => exact error e
  | ok a => exact ok (hf a)

end GivesOnly

end SearchWire
