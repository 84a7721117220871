import SearchWire.Proofs.Steps
import SearchWire.Schema

/-!
# Schemas are built as a whole

A schema is built from all of its definitions or from none. The names of all options are looked at
before any value, so a fault of names comes first, wherever it stands; of faults of one sort the
first in the list is given.

* `Definition.Misnamed`: options that are no object, or a name that the type does not have;
  `Definition.check_eq_ok_iff`, `Definition.field_of_check`;
* `Fault.NoUnknown`, `Options.failsOnly_fieldKind`: the values of options have other faults than
  their names; **`Field.define_eq_unknown_iff`**: which names a fault of names gives;
* `Schema.build_eq_ok_iff`, `Schema.build_eq_error_iff`, **`Schema.build_allOrNothing`**.
-/

namespace SearchWire

/-! ## Names of options -/

theorem checkNames_eq_ok_iff {type : FieldType} {name : String} {members : List (String × Json)} :
    checkNames type name members = .ok () ↔ ∀ m ∈ members, m.1 = "as" ∨ m.1 ∈ type.options := by
  have hnone : unknownOptions type members = [] ↔
      ∀ m ∈ members, m.1 = "as" ∨ m.1 ∈ type.options := by
    simp [unknownOptions, Bindings.names, List.filter_eq_nil_iff, or_iff_not_imp_left]
  rw [← hnone, checkNames]
  cases unknownOptions type members with
  | nil => exact iff_of_true rfl rfl
  | cons option rest => exact iff_of_false (fun h => nomatch h) (List.cons_ne_nil option rest)

theorem checkNames_eq_error_iff {type : FieldType} {name : String}
    {members : List (String × Json)} {e : Fault} : checkNames type name members = .error e ↔
      unknownOptions type members ≠ [] ∧
        e = .schema name (.unknown type (unknownOptions type members)) := by
  rw [checkNames]
  cases unknownOptions type members with
  | nil => exact iff_of_false (fun h => nomatch h) fun h => h.1 rfl
  | cons option rest =>
    rw [and_iff_right (List.cons_ne_nil option rest), Except.error.injEq, eq_comm]

theorem unknownOptions_eq_filter (type : FieldType) (members : List (String × Json)) :
    unknownOptions type members =
      (members.map (·.1)).filter fun option => option ≠ "as" ∧ option ∉ type.options := by
  rw [unknownOptions, Bindings.names]
  refine List.filter_congr fun option _ => ?_
  by_cases has : option = "as" <;> simp [has]

namespace Definition

/-- A described field whose options are neither null nor an object, or have a name that is none of
its type's. -/
def Misnamed : Definition → Prop
  | made _ => False
  | described _ _ .null => False
  | described type _ (.object members) => ∃ m ∈ members, m.1 ≠ "as" ∧ m.1 ∉ type.options
  | described _ _ _ => True

theorem check_eq_ok_iff (d : Definition) : d.check = .ok () ↔ ¬ d.Misnamed := by
  cases d with
  | made f => exact iff_of_true rfl id
  | described type name options =>
    cases options with
    | null => exact iff_of_true rfl id
    | object members =>
      have hcheck : (described type name (.object members)).check =
          checkNames type name members := rfl
      rw [hcheck, checkNames_eq_ok_iff]
      simp [Misnamed, or_iff_not_imp_left]
    | _ => exact iff_of_false (fun h => nomatch h) fun h => h trivial

theorem fails_check_iff (d : Definition) : Fails d.check ↔ d.Misnamed := by
  rw [← not_iff_not, ← check_eq_ok_iff, not_fails_iff]
  exact ⟨fun ⟨(), h⟩ => h, fun h => ⟨(), h⟩⟩

theorem field_of_check {d : Definition} {e : Fault} (h : d.check = .error e) :
    d.field = .error e := by
  cases d with
  | made f => cases h
  | described type name options =>
    rw [check, bind_eq_error_iff] at h
    rw [field, Field.define, bind_eq_error_iff]
    refine h.imp_right fun ⟨members, hmembers, hnames⟩ => ⟨members, hmembers, ?_⟩
    rw [hnames]
    rfl

theorem check_eq_error_iff {d : Definition} (hd : d.Misnamed) {e : Fault} :
    d.check = .error e ↔ d.field = .error e := by
  refine ⟨field_of_check, fun h => ?_⟩
  obtain ⟨e', he'⟩ := d.fails_check_iff.mpr hd
  obtain rfl := Except.error.inj ((field_of_check he').symm.trans h)
  exact he'

theorem not_misnamed_of_field {d : Definition} {f : Field} (h : d.field = .ok f) :
    ¬ d.Misnamed := by
  intro hd
  obtain ⟨e, he⟩ := d.fails_check_iff.mpr hd
  rw [field_of_check he] at h
  cases h

end Definition

/-! ## Faults of values -/

/-- A fault other than one of the names of options. -/
def Fault.NoUnknown (fault : Fault) : Prop :=
  ∀ field type names, fault ≠ .schema field (.unknown type names)

namespace Options

variable (o : Options)

theorem failsOnly_refuse {α : Type} {cause : OptionFault}
    (h : ∀ type names, cause ≠ .unknown type names) :
    FailsOnly Fault.NoUnknown (o.refuse cause : Except Fault α) :=
  .error fun _ type names he => h type names (Fault.schema.inj he).2

theorem failsOnly_flag (option : String) : FailsOnly Fault.NoUnknown (o.flag option) := by
  unfold flag
  split
  · exact .ok _
  · exact .ok _
  · exact o.failsOnly_refuse fun _ _ h => nomatch h

theorem failsOnly_number? (option : String) : FailsOnly Fault.NoUnknown (o.number? option) := by
  unfold number?
  split
  · exact .ok _
  · split
    · exact .ok _
    · exact o.failsOnly_refuse fun _ _ h => nomatch h

theorem failsOnly_string? (option : String) : FailsOnly Fault.NoUnknown (o.string? option) := by
  unfold string?
  split
  · exact .ok _
  · exact .ok _
  · exact o.failsOnly_refuse fun _ _ h => nomatch h

theorem failsOnly_phonetic? : FailsOnly Fault.NoUnknown o.phonetic? := by
  refine (o.failsOnly_string? _).bind fun code => ?_
  split
  · exact .ok _
  · split
    · exact .ok _
    · exact o.failsOnly_refuse fun _ _ h => nomatch h

theorem failsOnly_coordSystem : FailsOnly Fault.NoUnknown o.coordSystem := by
  refine (o.failsOnly_string? _).bind fun word => ?_
  split
  · exact .ok _
  · dsimp only
    split
    · exact .ok _
    · split
      · exact .ok _
      · exact o.failsOnly_refuse fun _ _ h => nomatch h

theorem failsOnly_vectorAlgorithm : FailsOnly Fault.NoUnknown o.vectorAlgorithm := by
  refine (o.failsOnly_string? _).bind fun name => ?_
  split
  · exact o.failsOnly_refuse fun _ _ h => nomatch h
  · split
    · exact .ok _
    · exact o.failsOnly_refuse fun _ _ h => nomatch h

theorem failsOnly_attributes : FailsOnly Fault.NoUnknown o.attributes := by
  unfold attributes
  split
  · exact .ok _
  · exact .ok _
  · exact o.failsOnly_refuse fun _ _ h => nomatch h

theorem failsOnly_numericOptions : FailsOnly Fault.NoUnknown o.numericOptions :=
  (o.failsOnly_flag _).bind fun _ => (o.failsOnly_flag _).bind fun _ =>
    (o.failsOnly_flag _).bind fun _ => .ok _

theorem failsOnly_vectorKind : FailsOnly Fault.NoUnknown o.vectorKind := by
  refine (o.failsOnly_flag _).bind fun _ =>
    .ifTaken (o.failsOnly_refuse fun _ _ h => nomatch h) fun _ => ?_
  refine (o.failsOnly_flag _).bind fun _ =>
    .ifTaken (o.failsOnly_refuse fun _ _ h => nomatch h) fun _ => ?_
  exact o.failsOnly_vectorAlgorithm.bind fun _ => o.failsOnly_attributes.bind fun _ =>
    (o.failsOnly_flag _).bind fun _ => .ok _

theorem failsOnly_fieldKind (type : FieldType) :
    FailsOnly Fault.NoUnknown (o.fieldKind type) := by
  cases type with
  | text =>
    exact o.failsOnly_phonetic?.bind fun _ => (o.failsOnly_number? _).bind fun _ =>
      (o.failsOnly_flag _).bind fun _ => (o.failsOnly_flag _).bind fun _ =>
      (o.failsOnly_flag _).bind fun _ => (o.failsOnly_flag _).bind fun _ =>
      (o.failsOnly_flag _).bind fun _ => (o.failsOnly_flag _).bind fun _ => .ok _
  | tag =>
    exact (o.failsOnly_string? _).bind fun _ => (o.failsOnly_flag _).bind fun _ =>
      (o.failsOnly_flag _).bind fun _ => (o.failsOnly_flag _).bind fun _ =>
      (o.failsOnly_flag _).bind fun _ => (o.failsOnly_flag _).bind fun _ =>
      (o.failsOnly_flag _).bind fun _ => .ok _
  | numeric => exact o.failsOnly_numericOptions.map _
  | geo => exact o.failsOnly_numericOptions.map _
  | geoshape => exact o.failsOnly_coordSystem.map _
  | vector => exact o.failsOnly_vectorKind

end Options

/-- **A fault of names gives all names that the type does not have,** in the order of the object. -/
theorem Field.define_eq_unknown_iff {type type' : FieldType} {name field : String} {options : Json}
    {names : List String} :
    Field.define type name options = .error (.schema field (.unknown type' names)) ↔
      field = name ∧ type' = type ∧ names ≠ [] ∧ ∃ members, options = .object members ∧
        names = (members.map (·.1)).filter fun option => option ≠ "as" ∧ option ∉ type.options := by
  simp only [define, bind_eq_error_iff, ← unknownOptions_eq_filter]
  constructor
  · rintro (h | ⟨members, hmembers, h | ⟨-, -, h⟩⟩)
    · cases options <;> cases h
    · obtain ⟨hne, he⟩ := checkNames_eq_error_iff.mp h
      obtain ⟨rfl, hcause⟩ := Fault.schema.inj he
      obtain ⟨rfl, rfl⟩ := OptionFault.unknown.inj hcause
      cases options <;> cases hmembers
      · exact absurd rfl hne
      · exact ⟨rfl, rfl, hne, members, rfl, rfl⟩
    · -- After the names have been checked there is no fault of names.
      rcases h with h | ⟨-, -, h | ⟨-, -, ⟨⟩⟩⟩
      · exact absurd rfl (Options.failsOnly_string? _ _ _ h field type' names)
      · exact absurd rfl (Options.failsOnly_fieldKind _ _ _ h field type' names)
  · rintro ⟨rfl, rfl, hne, members, rfl, rfl⟩
    exact .inr ⟨members, rfl, .inl (checkNames_eq_error_iff.mpr ⟨hne, rfl⟩)⟩

/-! ## Schemas -/

namespace Schema

open Definition

variable {ds : List Definition}

/-- A schema has one field for each definition, in the order of the definitions. -/
theorem build_eq_ok_iff {s : Schema} :
    build ds = .ok s ↔ List.Forall₂ (fun d f => d.field = .ok f) ds s.fields := by
  simp only [build, bind_eq_ok_iff, mapM_eq_ok_iff]
  constructor
  · rintro ⟨-, -, fields, hfields, ⟨⟩⟩
    exact hfields
  · intro hfields
    obtain ⟨hnames, -⟩ := (List.forall₂_and_left ds s.fields).mp
      (hfields.imp fun d f h => ⟨not_misnamed_of_field h, h⟩)
    have hcheck : ds.forM check = .ok () :=
      forM_eq_ok_iff.mpr fun d hd => d.check_eq_ok_iff.mpr (hnames d hd)
    exact ⟨(), hcheck, s.fields, hfields, rfl⟩

/-- The fault of a schema is that of its first misnamed definition, or without one that of the first
definition that fails. -/
theorem build_eq_error_iff {e : Fault} : build ds = .error e ↔ ∃ d, d.field = .error e ∧
    (Earliest Misnamed ds d ∨
      (∀ d ∈ ds, ¬ d.Misnamed) ∧ Earliest (fun d => Fails d.field) ds d) := by
  have hmisnamed : (fun d => Fails (check d)) = Misnamed := funext fun d => propext d.fails_check_iff
  have hcheck : (∃ u, ds.forM check = .ok u) ↔ ∀ d ∈ ds, ¬ d.Misnamed := by
    simp only [← check_eq_ok_iff]
    exact ⟨fun ⟨(), h⟩ => forM_eq_ok_iff.mp h, fun h => ⟨(), forM_eq_ok_iff.mpr h⟩⟩
  have hpure : ∀ fields : List Field, (pure ⟨fields⟩ : Except Fault Schema) ≠ .error e :=
    fun _ h => nomatch h
  simp only [build, bind_eq_error_iff, forM_eq_error_iff, mapM_eq_error_iff, hmisnamed, hpure,
    and_false, exists_false, or_false, exists_and_right, hcheck]
  constructor
  · rintro (⟨d, hd, he⟩ | ⟨hnames, d, hd, he⟩)
    · exact ⟨d, (check_eq_error_iff hd.1).mp he, .inl hd⟩
    · exact ⟨d, he, .inr ⟨hnames, hd⟩⟩
  · rintro ⟨d, he, hd | ⟨hnames, hd⟩⟩
    · exact .inl ⟨d, hd, (check_eq_error_iff hd.1).mpr he⟩
    · exact .inr ⟨hnames, d, hd, he⟩

theorem exists_build_iff : (∃ s, build ds = .ok s) ↔ ∀ type name options,
    described type name options ∈ ds → ∃ f, Field.define type name options = .ok f := by
  constructor
  · rintro ⟨s, hs⟩ type name options hmem
    have hfields := (build_eq_ok_iff.mp hs).imp fun d f h => (⟨⟨f, h⟩, h⟩ :
      (∃ f, d.field = .ok f) ∧ d.field = .ok f)
    exact ((List.forall₂_and_left ds s.fields).mp hfields).1 _ hmem
  · intro h
    rw [← not_fails_iff]
    rintro ⟨e, he⟩
    obtain ⟨d, hd, hfirst⟩ := build_eq_error_iff.mp he
    have hmem : d ∈ ds := hfirst.elim Earliest.mem fun h => h.2.mem
    cases d with
    | made f => cases hd
    | described type name options =>
      obtain ⟨f, hf⟩ := h type name options hmem
      cases hd.symm.trans hf

/-- **A schema is built from all of its definitions or from none, and faults of names come first.**
A schema has one field for each definition, and is built if all described fields can be made. If not,
the fault is that of the first misnamed definition, also behind a definition with a bad value; if
none is misnamed, that of the first definition that fails. A fault of names gives all names that the
type does not have. -/
theorem build_allOrNothing (ds : List Definition) :
    (∀ s, build ds = .ok s ↔ List.Forall₂ (fun d f => d.field = .ok f) ds s.fields) ∧
    ((∃ s, build ds = .ok s) ↔ ∀ type name options, described type name options ∈ ds →
      ∃ f, Field.define type name options = .ok f) ∧
    (∀ e, build ds = .error e ↔ ∃ d, d.field = .error e ∧
      (Earliest Misnamed ds d ∨
        (∀ d ∈ ds, ¬ d.Misnamed) ∧ Earliest (fun d => Fails d.field) ds d)) ∧
    (∀ type name options field type' names,
      Field.define type name options = .error (.schema field (.unknown type' names)) ↔
        field = name ∧ type' = type ∧ names ≠ [] ∧ ∃ members, options = .object members ∧
          names = (members.map (·.1)).filter fun option =>
            option ≠ "as" ∧ option ∉ type.options) :=
  ⟨fun _ => build_eq_ok_iff, exists_build_iff, fun _ => build_eq_error_iff,
    fun _ _ _ _ _ _ => Field.define_eq_unknown_iff⟩

/-- A bad name comes before a bad value that stands before it. -/
example : (build [.described .text "title" (.object [("sortable", .int 1)]),
      .described .numeric "price" (.object [("separator", .string ","), ("as", .int 1),
        ("weight", .null)])]).mapError Fault.message =
    .error "invalid schema field 'price': unknown numeric field option(s): separator, weight" := by
  rfl

end Schema

end SearchWire
