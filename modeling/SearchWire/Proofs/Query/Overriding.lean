import SearchWire.Proofs.Bindings
import SearchWire.Proofs.Query.Parts
import SearchWire.Query.Overrides

/-!
# Overrides win and compose

Overrides work on some parts of a query and leave all others as they are. What they give replaces
what the query has, lists too; parameters are bound again, one by one. So overrides that are applied
twice are applied once, and overrides applied one after the other are one set of overrides.

* `Overrides.parts`, `Overrides.given?`, `Overrides.part_apply`: a part is what is given for it, or
  else what it was;
* `Overrides.followedBy`, **`Overrides.apply_apply`**, `Overrides.apply_self`;
* `Overrides.Overrule`, `Overrides.overrule`, **`Overrides.overridesCompose`**.
-/

namespace SearchWire.Overrides

/-! ## Parts -/

/-- The parts of a query that overrides can change. -/
def parts : List Query.Part :=
  [.returned, .inKeys, .params, .dialect, .sortBy, .limit, .timeout, .language, .scorer]

/-- What overrides put in place of a part. Nothing is put in place of the parameters, since those are
bound one by one. -/
def given? (o : Overrides) : (p : Query.Part) → Option p.Value
  | .returned => o.returned.map fun fields => fields.map (·, none)
  | .inKeys => o.ids
  | .dialect => o.dialect.map some
  | .sortBy => o.sortBy.map some
  | .limit => o.limit.map some
  | .timeout => o.timeout.map some
  | .language => o.language.map some
  | .scorer => o.scorer.map some
  | _ => none

variable (o o' : Overrides) (q : Query)

theorem orElse_eq_getD {α : Type} (x y : Option α) : (x <|> y) = (x.map some).getD y := by
  cases x <;> rfl

/-- **A part is what the overrides give, or else what it was.** -/
theorem part_apply {p : Query.Part} (hp : p ≠ .params) :
    (o.apply q).part p = (o.given? p).getD (q.part p) := by
  cases p with
  | params => exact absurd rfl hp
  | dialect | sortBy | limit | timeout | language | scorer => exact orElse_eq_getD _ _
  | _ => rfl

theorem text_apply : (o.apply q).text = q.text := Query.text_congr rfl rfl

theorem params_apply : (o.apply q).params = Bindings.bindAll q.params o.params := rfl

theorem given?_eq_none {p : Query.Part} (hp : p ∉ parts) : o.given? p = none := by
  cases p <;> first | rfl | exact absurd (by decide) hp

/-! ## One after the other -/

/-- Overrides and others after them, as one. What the later ones give wins, and their parameters are
bound later. -/
def followedBy : Overrides where
  dialect := o'.dialect <|> o.dialect
  params := o.params ++ o'.params
  sortBy := o'.sortBy <|> o.sortBy
  limit := o'.limit <|> o.limit
  returned := o'.returned <|> o.returned
  ids := o'.ids <|> o.ids
  timeout := o'.timeout <|> o.timeout
  language := o'.language <|> o.language
  scorer := o'.scorer <|> o.scorer

theorem map_orElse {α β : Type} (f : α → β) (x y : Option α) :
    (x <|> y).map f = (x.map f).or (y.map f) := by
  cases x <;> rfl

theorem given?_followedBy (p : Query.Part) :
    (o.followedBy o').given? p = (o'.given? p).or (o.given? p) := by
  cases p with
  | inKeys => exact Option.orElse_eq_or
  | returned => exact map_orElse (fun fields => fields.map (·, none)) o'.returned o.returned
  | dialect => exact map_orElse some o'.dialect o.dialect
  | sortBy => exact map_orElse some o'.sortBy o.sortBy
  | limit => exact map_orElse some o'.limit o.limit
  | timeout => exact map_orElse some o'.timeout o.timeout
  | language => exact map_orElse some o'.language o.language
  | scorer => exact map_orElse some o'.scorer o.scorer
  | _ => rfl

/-- **Overrides applied one after the other are applied as one.** -/
theorem apply_apply : o'.apply (o.apply q) = (o.followedBy o').apply q := by
  refine Query.ext_parts rfl fun p => ?_
  by_cases hp : p = .params
  · subst hp
    exact (Bindings.bindAll_append q.params o.params o'.params).symm
  · rw [part_apply o' _ hp, part_apply o q hp, part_apply _ q hp, given?_followedBy]
    cases o'.given? p <;> rfl

theorem apply_self : o.apply (o.apply q) = o.apply q := by
  refine Query.ext_parts rfl fun p => ?_
  by_cases hp : p = .params
  · subst hp
    exact Bindings.bindAll_bindAll_self q.params o.params
  · rw [part_apply o _ hp, part_apply o q hp]
    cases o.given? p <;> rfl

/-! ## What overrides do -/

/-- Overrides win over a query in what they give, and leave the rest of it alone. -/
structure Overrule : Prop where
  text : (o.apply q).base = q.base ∧ (o.apply q).text = q.text
  fixed : ∀ p ∉ parts, (o.apply q).part p = q.part p
  /-- What is given replaces the part, a list as a whole, also an empty one. -/
  given : ∀ p v, o.given? p = some v → (o.apply q).part p = v
  kept : (∀ p ≠ .params, o.given? p = none → (o.apply q).part p = q.part p) ∧
    (o.params = [] → (o.apply q).params = q.params)
  names : (o.apply q).params.names = q.params.names ++
    (Bindings.ofList o.params).names.filter fun name => name ∉ q.params.names
  values : ∀ name, (o.apply q).params.find? name =
    ((Bindings.ofList o.params).find? name).or (q.params.find? name)

theorem overrule : o.Overrule q where
  text := ⟨rfl, o.text_apply q⟩
  fixed p hp := by
    have hparams : p ≠ .params := fun h => hp (h ▸ by decide)
    rw [part_apply o q hparams, given?_eq_none o hp, Option.getD_none]
  given p v hv := by
    have hparams : p ≠ .params := by
      rintro rfl
      cases hv
    rw [part_apply o q hparams, hv, Option.getD_some]
  kept := by
    refine ⟨fun p hp hnone => ?_, fun hnil => ?_⟩
    · rw [part_apply o q hp, hnone, Option.getD_none]
    · rw [params_apply, hnil, Bindings.bindAll_nil]
  names := Bindings.names_bindAll q.params o.params
  values name := by rw [params_apply, Bindings.find?_bindAll, Bindings.find?_ofList]

/-- **Overrides win over a query, once and for all, and compose.** -/
theorem overridesCompose : o.apply (o.apply q) = o.apply q ∧
    o'.apply (o.apply q) = (o.followedBy o').apply q ∧ o.Overrule q :=
  ⟨o.apply_self q, o.apply_apply o' q, o.overrule q⟩

/-- A parameter that is bound twice has one place and its last value, and an empty list of keys
takes all keys away. -/
example :
    let q : Query := { inKeys := ["1"], params := [("a", "1"), ("b", "2")], limit := some (0, 5) }
    let o : Overrides := { ids := some [], params := [("c", "3"), ("b", "4"), ("c", "5")] }
    let params : Bindings Token := [("a", "1"), ("b", "4"), ("c", "5")]
    (o.apply q).inKeys = [] ∧ (o.apply q).params = params ∧ (o.apply q).limit = some (0, 5) :=
  ⟨rfl, rfl, rfl⟩

end SearchWire.Overrides
