import SearchWire.Proofs.Schema.Building

/-!
# Options that say the same

What a field is defined as hangs on what its options say, not on how they are written. The order of
the options does not matter, nor whether an option that is not set is left out or null, nor whether
a flag that is off is left out, null or false.

* `Options.flagNames`, `Options.Unset`, `Options.SameValue`, `SameOptions`: when two option objects
  say the same;
* `Options.flag_congr`, `Options.get?_congr` and others, `Options.fieldKind_congr`: every reader gives
  the same value or the same fault;
* **`Field.define_eq_of_sameOptions`**.
-/

namespace SearchWire

namespace Options

/-- The options that are on or off. -/
def flagNames : List String :=
  ["sortable", "no_index", "no_stem", "case_sensitive", "index_empty", "index_missing",
    "withsuffixtrie"]

/-- The value that an object has for an option leaves the option unset: there is none, it is null,
or the option is a flag and is off. -/
def Unset (option : String) (value : Option Json) : Prop :=
  value = none ∨ value = some .null ∨ option ∈ flagNames ∧ value = some (.bool false)

/-- Two values of an option say the same: they are the same, or both leave it unset. -/
def SameValue (option : String) (value value' : Option Json) : Prop :=
  value = value' ∨ Unset option value ∧ Unset option value'

end Options

/-- Two option objects say the same about a field of a type: they have options of the type only, and
their values of each option say the same. -/
structure SameOptions (type : FieldType) (members members' : List (String × Json)) : Prop where
  known : ∀ m ∈ members ++ members', m.1 = "as" ∨ m.1 ∈ type.options
  values : ∀ option ∈ "as" :: type.options,
    Options.SameValue option (Bindings.find? members option) (Bindings.find? members' option)

/-! ## Readers -/

namespace Options

theorem get?_of_find? {name option : String} {members members' : List (String × Json)}
    (h : Bindings.find? members option = Bindings.find? members' option) :
    (⟨name, members⟩ : Options).get? option = (⟨name, members'⟩ : Options).get? option := by
  rw [get?, get?, Json.member?, Json.member?, h]

theorem get?_of_unset {name option : String} {members : List (String × Json)}
    (h : Unset option (Bindings.find? members option)) (hflag : option ∉ flagNames) :
    (⟨name, members⟩ : Options).get? option = none := by
  rw [get?, Json.member?]
  rcases h with h | h | h
  · rw [h]
  · rw [h]
  · exact absurd h.1 hflag

theorem flag_of_unset {name option : String} {members : List (String × Json)}
    (h : Unset option (Bindings.find? members option)) :
    (⟨name, members⟩ : Options).flag option = .ok false := by
  rw [flag, get?, Json.member?]
  rcases h with h | h | ⟨-, h⟩ <;> rw [h]

variable {type : FieldType} {members members' : List (String × Json)}

theorem flag_congr (h : SameOptions type members members') (name : String) {option : String}
    (ho : option ∈ "as" :: type.options) :
    (⟨name, members⟩ : Options).flag option = (⟨name, members'⟩ : Options).flag option := by
  rcases h.values option ho with hv | ⟨hu, hu'⟩
  · rw [flag, flag, get?_of_find? hv]
    rfl
  · rw [flag_of_unset hu, flag_of_unset hu']

theorem get?_congr (h : SameOptions type members members') (name : String) {option : String}
    (ho : option ∈ "as" :: type.options) (hflag : option ∉ flagNames) :
    (⟨name, members⟩ : Options).get? option = (⟨name, members'⟩ : Options).get? option := by
  rcases h.values option ho with hv | ⟨hu, hu'⟩
  · exact get?_of_find? hv
  · rw [get?_of_unset hu hflag, get?_of_unset hu' hflag]

theorem number?_congr (h : SameOptions type members members') (name : String) {option : String}
    (ho : option ∈ "as" :: type.options) (hflag : option ∉ flagNames) :
    (⟨name, members⟩ : Options).number? option = (⟨name, members'⟩ : Options).number? option := by
  rw [number?, number?, get?_congr h name ho hflag]
  rfl

theorem string?_congr (h : SameOptions type members members') (name : String) {option : String}
    (ho : option ∈ "as" :: type.options) (hflag : option ∉ flagNames) :
    (⟨name, members⟩ : Options).string? option = (⟨name, members'⟩ : Options).string? option := by
  rw [string?, string?, get?_congr h name ho hflag]
  rfl

theorem attributes_congr (h : SameOptions type members members') (name : String)
    (ho : "attributes" ∈ "as" :: type.options) :
    (⟨name, members⟩ : Options).attributes = (⟨name, members'⟩ : Options).attributes := by
  rw [attributes, attributes, get?_congr h name ho (by decide)]
  rfl

theorem fieldKind_congr (h : SameOptions type members members') (name : String) :
    (⟨name, members⟩ : Options).fieldKind type = (⟨name, members'⟩ : Options).fieldKind type := by
  cases type with
  | text =>
    simp (disch := decide) only [fieldKind, textKind, phonetic?, refuse, string?_congr h name,
      number?_congr h name, flag_congr h name]
  | tag =>
    simp (disch := decide) only [fieldKind, tagKind, string?_congr h name, flag_congr h name]
  | numeric | geo =>
    simp (disch := decide) only [fieldKind, numericOptions, flag_congr h name]
  | geoshape =>
    simp (disch := decide) only [fieldKind, coordSystem, refuse, string?_congr h name]
  | vector =>
    simp (disch := decide) only [fieldKind, vectorKind, vectorAlgorithm, refuse,
      flag_congr h name, string?_congr h name, attributes_congr h name]

end Options

/-! ## Definitions -/

namespace Field

/-- **Option objects that say the same define the same field, or are refused with the same
fault.** -/
theorem define_eq_of_sameOptions {type : FieldType} {members members' : List (String × Json)}
    (h : SameOptions type members members') (name : String) :
    define type name (.object members) = define type name (.object members') := by
  have hknown : checkNames type name members = .ok () :=
    checkNames_eq_ok_iff.mpr fun m hm => h.known m (List.mem_append_left _ hm)
  have hknown' : checkNames type name members' = .ok () :=
    checkNames_eq_ok_iff.mpr fun m hm => h.known m (List.mem_append_right _ hm)
  have hasName := Options.string?_congr h name (List.mem_cons_self (a := "as")) (by decide)
  simp only [define, optionMembers, hknown, hknown', hasName, Options.fieldKind_congr h name,
    bind, Except.bind]

/-- Of two options with bad values the same one is refused, whichever is written first. -/
theorem define_eq_of_sameOptions_badPhonetic :
    let before : List (String × Json) :=
      [("weight", .string "heavy"), ("no_stem", .bool false), ("phonetic", .string "dm:xx")]
    let after : List (String × Json) :=
      [("phonetic", .string "dm:xx"), ("as", .null), ("weight", .string "heavy")]
    SameOptions .text before after ∧
      define .text "title" (.object before) = define .text "title" (.object after) ∧
      define .text "title" (.object after) = .error (.schema "title" (.phonetic "dm:xx")) := by
  intro before after
  have hsame : SameOptions .text before after := by
    refine ⟨by decide, ?_⟩
    simp only [FieldType.options, List.forall_mem_cons]
    refine ⟨.inr ⟨.inl rfl, .inr (.inl rfl)⟩, .inl rfl, .inl rfl, .inl rfl, .inl rfl,
      .inr ⟨.inr (.inr ⟨by decide, rfl⟩), .inl rfl⟩, .inl rfl, .inl rfl, .inl rfl, ?_⟩
    exact fun _ h => nomatch h
  exact ⟨hsame, define_eq_of_sameOptions hsame "title", rfl⟩

end Field

end SearchWire
