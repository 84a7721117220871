import SearchWire.Proofs.Bindings
import SearchWire.Proofs.Schema.Building
import SearchWire.Proofs.Text.LetterCase

/-!
# Fields spelled as options

A field can be made with a record of its options, or defined from a JSON object that spells them.
Both ways lead to the same fields.

* `VectorOptions.Made`, `Field.Made`: the fields that are made with records of options;
* `Json.Proper`: a value that a JSON text can hold;
* `Setting`, `Setting.Spelled`: the value of an option, and how an option object shows it;
  `Field.settings`, `Field.Spells`, `Field.spelling`;
* `Options.flag_eq_ok` and others: a reader gives back what was spelled;
  **`Field.define_of_spells`**: the field is defined from its spelling;
* `Options.givesOnly_fieldKind`, **`Field.of_define_eq_ok`**: the fields that are defined;
* `Field.PathsAgree`, **`Field.pathsAgree`**.
-/

namespace SearchWire

/-! ## Fields that are made -/

/-- An attribute as it is kept. -/
def upperPair (p : String × String) : String × String := (Text.upper p.1, Text.upper p.2)

namespace VectorOptions

/-- The options of vector fields that can be made: from an algorithm, attribute by attribute. -/
inductive Made : VectorOptions → Prop
  | start (algorithm : VectorAlgorithm) : Made { algorithm }
  | add {o : VectorOptions} (name value : String) : Made o → Made (o.addAttribute name value)
  | indexMissing {o : VectorOptions} : Made o → Made { o with indexMissing := true }

theorem addAttributes_eq (o : VectorOptions) (pairs : List (String × String)) :
    o.addAttributes pairs = { o with attributes := o.attributes ++ pairs.map upperPair } := by
  induction pairs generalizing o with
  | nil => simp [addAttributes]
  | cons p pairs ih =>
    have hcons : o.addAttributes (p :: pairs) = (o.addAttribute p.1 p.2).addAttributes pairs := rfl
    rw [hcons, ih]
    simp [addAttribute, upperPair]

theorem Made.addAttributes {o : VectorOptions} (h : o.Made) (pairs : List (String × String)) :
    (o.addAttributes pairs).Made := by
  induction pairs generalizing o with
  | nil => exact h
  | cons p pairs ih => exact ih (h.add p.1 p.2)

theorem Made.map_upperPair {o : VectorOptions} (h : o.Made) :
    o.attributes.map upperPair = o.attributes := by
  induction h with
  | start algorithm => rfl
  | add name value _ ih => simp [addAttribute, ih, upperPair]
  | indexMissing _ ih => exact ih

end VectorOptions

/-- The fields that can be made with records of options. -/
def Field.Made (f : Field) : Prop := ∀ o, f.kind = .vector o → o.Made

/-! ## Values of options -/

/-- A number that is neither infinite nor none. -/
def Binary64.Finite (x : Binary64) : Prop := ∃ negative m q, x.meaning = .finite negative m q

mutual

/-- A value that a JSON text can hold: its numbers are finite, and no name occurs twice in an
object. -/
def Json.Proper : Json → Prop
  | .real x => x.Finite
  | .array items => properItems items
  | .object members => (members.map (·.1)).Nodup ∧ properMembers members
  | _ => True

/-- All items are proper. -/
def properItems : List Json → Prop
  | [] => True
  | j :: js => j.Proper ∧ properItems js

/-- All values of members are proper. -/
def properMembers : List (String × Json) → Prop
  | [] => True
  | (_, j) :: members => j.Proper ∧ properMembers members

end

theorem properMembers_iff {members : List (String × Json)} :
    properMembers members ↔ ∀ m ∈ members, m.2.Proper := by
  induction members with
  | nil => exact iff_of_true trivial fun _ h => nomatch h
  | cons m members ih => rw [properMembers, ih, List.forall_mem_cons]

/-- The value of an option. -/
inductive Setting where
  | flag (on : Bool)
  | number (x : Option Binary64)
  | text (s : Option String)
  /-- A word that is read in letters of either case. -/
  | word (w : String)
  /-- Names and values in upper case. -/
  | attributes (pairs : List (String × String))

/-- A number is finite, and no attribute occurs twice. -/
def Setting.Proper : Setting → Prop
  | .number (some x) => x.Finite
  | .attributes pairs => (pairs.map (·.1)).Nodup
  | _ => True

/-- What is read in letters of either case is in upper case. -/
def Setting.Plain : Setting → Prop
  | .word w => Text.upper w = w
  | .attributes pairs => pairs.map upperPair = pairs
  | _ => True

/-- How an option object shows a setting: as nothing, if it is off, not set or empty, or else as a
value. -/
inductive Setting.Spelled : Setting → Option Json → Prop
  | off : Spelled (.flag false) none
  | flag (on : Bool) : Spelled (.flag on) (some (.bool on))
  | noNumber : Spelled (.number none) none
  | number {x : Binary64} {j : Json} (h : j.real? = some x) : Spelled (.number (some x)) (some j)
  | noText : Spelled (.text none) none
  | text (s : String) : Spelled (.text (some s)) (some (.string s))
  | word {w s : String} (h : Text.upper s = w) : Spelled (.word w) (some (.string s))
  | noAttributes : Spelled (.attributes []) none
  | attributes (pairs : List (String × String)) :
      Spelled (.attributes (pairs.map upperPair))
        (some (.object (pairs.map fun p => (p.1, .string p.2))))

/-- The JSON value of a setting; what is not set is null. -/
def Setting.json : Setting → Json
  | .flag on => .bool on
  | .number x => x.elim .null .real
  | .text s => s.elim .null .string
  | .word w => .string w
  | .attributes pairs => .object (pairs.map fun p => (p.1, .string p.2))

theorem Setting.Proper.json {s : Setting} (h : s.Proper) : s.json.Proper := by
  cases s with
  | flag on => trivial
  | number x => cases x <;> exact h
  | text s => cases s <;> trivial
  | word w => trivial
  | attributes pairs =>
    rw [Setting.json, Json.Proper, properMembers_iff, List.map_map]
    refine ⟨h, fun m hm => ?_⟩
    obtain ⟨p, -, rfl⟩ := List.mem_map.mp hm
    trivial

theorem Setting.Plain.spelled_json {s : Setting} (h : s.Plain) :
    s.Spelled (match some s.json with
      | some .null => none
      | found => found) := by
  cases s with
  | flag on => exact .flag on
  | number x =>
    cases x with
    | none => exact .noNumber
    | some x => exact .number rfl
  | text s =>
    cases s with
    | none => exact .noText
    | some s => exact .text s
  | word w => exact .word h
  | attributes pairs =>
    have hspelled := Spelled.attributes pairs
    rwa [show pairs.map upperPair = pairs from h] at hspelled

/-! ## Options of fields -/

/-- The options of a kind under their names. -/
def FieldKind.settings : FieldKind → List (String × Setting)
  | .text o =>
    [("weight", .number o.weight), ("phonetic", .text (o.phonetic.map Phonetic.code)),
      ("no_stem", .flag o.noStem), ("sortable", .flag o.sortable), ("no_index", .flag o.noIndex),
      ("index_empty", .flag o.indexEmpty), ("index_missing", .flag o.indexMissing),
      ("withsuffixtrie", .flag o.suffixTrie)]
  | .tag o =>
    [("separator", .text o.separator), ("case_sensitive", .flag o.caseSensitive),
      ("sortable", .flag o.sortable), ("no_index", .flag o.noIndex),
      ("index_empty", .flag o.indexEmpty), ("index_missing", .flag o.indexMissing),
      ("withsuffixtrie", .flag o.suffixTrie)]
  | .numeric o | .geo o =>
    [("sortable", .flag o.sortable), ("no_index", .flag o.noIndex),
      ("index_missing", .flag o.indexMissing)]
  | .geoshape system => [("coord_system", .word system.keyword)]
  | .vector o =>
    [("algorithm", .word o.algorithm.keyword), ("attributes", .attributes o.attributes),
      ("index_missing", .flag o.indexMissing)]

namespace Field

/-- The name that a field goes under and the options of its kind. -/
def settings (f : Field) : List (String × Setting) := ("as", .text f.asName) :: f.kind.settings

/-- An option object spells a field: it has options of the field only, and shows each as it is. The
order does not matter. -/
structure Spells (f : Field) (members : List (String × Json)) : Prop where
  names : ∀ m ∈ members, m.1 ∈ f.settings.map (·.1)
  values : ∀ p ∈ f.settings, p.2.Spelled ((Json.object members).member? p.1)

/-- The option object that gives all options of a field. -/
def spelling (f : Field) : List (String × Json) := f.settings.map fun p => (p.1, p.2.json)

theorem nodup_names_settings (f : Field) : (f.settings.map (·.1)).Nodup := by
  obtain ⟨name, asName, kind⟩ := f
  cases kind <;> simp [settings, FieldKind.settings]

theorem Made.plain {f : Field} (h : f.Made) : ∀ p ∈ f.settings, p.2.Plain := by
  obtain ⟨name, asName, kind⟩ := f
  cases kind with
  | geoshape system => cases system <;> simp [settings, FieldKind.settings, Setting.Plain] <;> rfl
  | vector o =>
    have hattributes := (h o rfl).map_upperPair
    have halgorithm : Text.upper o.algorithm.keyword = o.algorithm.keyword := by
      cases o.algorithm <;> rfl
    simp [settings, FieldKind.settings, Setting.Plain, hattributes, halgorithm]
  | _ => simp [settings, FieldKind.settings, Setting.Plain]

theorem proper_spelling {f : Field} (h : ∀ p ∈ f.settings, p.2.Proper) :
    (Json.object f.spelling).Proper := by
  rw [Json.Proper, properMembers_iff, spelling, List.map_map]
  refine ⟨f.nodup_names_settings, fun m hm => ?_⟩
  obtain ⟨p, hp, rfl⟩ := List.mem_map.mp hm
  exact (h p hp).json

end Field

/-! ## Reading options -/

namespace Options

variable {o : Options}

theorem flag_eq_ok {option : String} {on : Bool} (h : (Setting.flag on).Spelled (o.get? option)) :
    o.flag option = .ok on := by
  unfold flag
  generalize o.get? option = j at h ⊢
  cases h <;> rfl

theorem number?_eq_ok {option : String} {x : Option Binary64}
    (h : (Setting.number x).Spelled (o.get? option)) : o.number? option = .ok x := by
  unfold number?
  generalize o.get? option = j at h ⊢
  cases h with
  | noNumber => rfl
  | number h => simp only [h]

theorem string?_eq_ok {option : String} {s : Option String}
    (h : (Setting.text s).Spelled (o.get? option)) : o.string? option = .ok s := by
  unfold string?
  generalize o.get? option = j at h ⊢
  cases h <;> rfl

theorem exists_string?_of_word {option w : String} (h : (Setting.word w).Spelled (o.get? option)) :
    ∃ s, o.string? option = .ok (some s) ∧ Text.upper s = w := by
  unfold string?
  generalize o.get? option = j at h ⊢
  cases h with
  | word h => exact ⟨_, rfl, h⟩

theorem exists_attributes_of_spelled {pairs : List (String × String)}
    (h : (Setting.attributes pairs).Spelled (o.get? "attributes")) :
    ∃ given, o.attributes = .ok given ∧ given.map upperPair = pairs := by
  unfold attributes
  generalize o.get? "attributes" = j at h ⊢
  cases h with
  | noAttributes => exact ⟨[], rfl, rfl⟩
  | attributes given =>
    refine ⟨given, ?_, rfl⟩
    simp [attributeText, Function.comp_def]

theorem phonetic?_eq_ok {matcher : Option Phonetic}
    (h : (Setting.text (matcher.map Phonetic.code)).Spelled (o.get? "phonetic")) :
    o.phonetic? = .ok matcher := by
  rw [phonetic?, string?_eq_ok h]
  cases matcher with
  | none => rfl
  | some matcher => cases matcher <;> rfl

theorem coordSystem_eq_ok {system : CoordSystem}
    (h : (Setting.word system.keyword).Spelled (o.get? "coord_system")) :
    o.coordSystem = .ok system := by
  obtain ⟨s, hs, hupper⟩ := exists_string?_of_word h
  simp only [coordSystem, hs, bind, Except.bind, hupper]
  cases system <;> rfl

theorem vectorAlgorithm_eq_ok {algorithm : VectorAlgorithm}
    (h : (Setting.word algorithm.keyword).Spelled (o.get? "algorithm")) :
    o.vectorAlgorithm = .ok algorithm := by
  obtain ⟨s, hs, hupper⟩ := exists_string?_of_word h
  have hname : VectorAlgorithm.ofName? s = some algorithm := by
    rw [VectorAlgorithm.ofName?, hupper]
    cases algorithm <;> rfl
  simp only [vectorAlgorithm, hs, bind, Except.bind, hname]
  rfl

theorem vectorKind_eq_ok {v : VectorOptions}
    (hvalues : ∀ p ∈ (FieldKind.vector v).settings, p.2.Spelled (o.get? p.1))
    (hsortable : o.get? "sortable" = none) (hindex : o.get? "no_index" = none) :
    o.vectorKind = .ok (.vector v) := by
  have hsortable : o.flag "sortable" = .ok false := flag_eq_ok (hsortable ▸ .off)
  have hindex : o.flag "no_index" = .ok false := flag_eq_ok (hindex ▸ .off)
  simp only [FieldKind.settings, List.forall_mem_cons] at hvalues
  obtain ⟨halgorithm, hattributes, hmissing, -⟩ := hvalues
  obtain ⟨given, hgiven, hupper⟩ := exists_attributes_of_spelled hattributes
  simp only [vectorKind, hsortable, hindex, vectorAlgorithm_eq_ok halgorithm, hgiven,
    flag_eq_ok hmissing]
  change Except.ok (FieldKind.vector (VectorOptions.addAttributes _ given)) = _
  rw [VectorOptions.addAttributes_eq, hupper]
  rfl

theorem fieldKind_eq_ok (k : FieldKind) (hvalues : ∀ p ∈ k.settings, p.2.Spelled (o.get? p.1))
    (hothers : ∀ option ∈ k.type.options, option ∉ k.settings.map (·.1) → o.get? option = none) :
    o.fieldKind k.type = .ok k := by
  cases k with
  | text v =>
    simp only [FieldKind.settings, List.forall_mem_cons] at hvalues
    obtain ⟨hweight, hphonetic, hstem, hsortable, hindex, hempty, hmissing, hsuffix, -⟩ := hvalues
    simp only [fieldKind, FieldKind.type, textKind, phonetic?_eq_ok hphonetic,
      number?_eq_ok hweight, flag_eq_ok hstem, flag_eq_ok hsortable, flag_eq_ok hindex,
      flag_eq_ok hempty, flag_eq_ok hmissing, flag_eq_ok hsuffix]
    rfl
  | tag v =>
    simp only [FieldKind.settings, List.forall_mem_cons] at hvalues
    obtain ⟨hseparator, hcase, hsortable, hindex, hempty, hmissing, hsuffix, -⟩ := hvalues
    simp only [fieldKind, FieldKind.type, tagKind, string?_eq_ok hseparator, flag_eq_ok hcase,
      flag_eq_ok hsortable, flag_eq_ok hindex, flag_eq_ok hempty, flag_eq_ok hmissing,
      flag_eq_ok hsuffix]
    rfl
  | numeric v | geo v =>
    simp only [FieldKind.settings, List.forall_mem_cons] at hvalues
    obtain ⟨hsortable, hindex, hmissing, -⟩ := hvalues
    simp only [fieldKind, FieldKind.type, numericOptions, flag_eq_ok hsortable, flag_eq_ok hindex,
      flag_eq_ok hmissing]
    rfl
  | geoshape system =>
    simp only [FieldKind.settings, List.forall_mem_cons] at hvalues
    simp only [fieldKind, FieldKind.type, coordSystem_eq_ok hvalues.1]
    rfl
  | vector v =>
    -- The two options that are known only to be refused are not given.
    exact vectorKind_eq_ok hvalues
      (hothers "sortable" (by simp [FieldKind.type, FieldType.options])
        (by simp [FieldKind.settings]))
      (hothers "no_index" (by simp [FieldKind.type, FieldType.options])
        (by simp [FieldKind.settings]))

end Options

theorem FieldType.as_notMem_options (type : FieldType) : "as" ∉ type.options := by
  cases type <;> decide

namespace FieldKind

theorem names_settings_subset (k : FieldKind) : k.settings.map (·.1) ⊆ k.type.options := by
  cases k <;> simp [settings, type, FieldType.options]

end FieldKind

namespace Field

/-- **A field is defined from its spelling.** -/
theorem define_of_spells {f : Field} {members : List (String × Json)} (h : f.Spells members) :
    define f.type f.name (.object members) = .ok f := by
  have hmember : ∀ m ∈ members, m.1 = "as" ∨ m.1 ∈ f.kind.settings.map (·.1) := fun m hm =>
    List.mem_cons.mp (h.names m hm)
  have hnames : checkNames f.type f.name members = .ok () :=
    checkNames_eq_ok_iff.mpr fun m hm =>
      (hmember m hm).imp_right fun hm => f.kind.names_settings_subset hm
  obtain ⟨has, hvalues⟩ := List.forall_mem_cons.mp h.values
  have hasName : (⟨f.name, members⟩ : Options).string? "as" = .ok f.asName :=
    Options.string?_eq_ok has
  have hkind : (⟨f.name, members⟩ : Options).fieldKind f.type = .ok f.kind := by
    refine Options.fieldKind_eq_ok f.kind hvalues fun option hoption hother => ?_
    have hnone : Bindings.find? members option = none := by
      refine Bindings.find?_eq_none_of_notMem fun hmem => ?_
      obtain ⟨m, hm, rfl⟩ := List.mem_map.mp hmem
      rcases hmember m hm with has | hm
      · exact f.kind.type.as_notMem_options (has ▸ hoption)
      · exact hother hm
    rw [Options.get?, Json.member?, hnone]
  simp only [define, optionMembers, hnames, hasName, hkind, bind, Except.bind]
  rfl

theorem spells_spelling {f : Field} (h : f.Made) : f.Spells f.spelling where
  names m hm := by
    obtain ⟨p, hp, rfl⟩ := List.mem_map.mp hm
    exact List.mem_map_of_mem hp
  values p hp := by
    have hnames : Bindings.names f.spelling = f.settings.map (·.1) := by
      simp [spelling, Bindings.names, Function.comp_def]
    have hmem : (p.1, p.2.json) ∈ f.spelling := List.mem_map.mpr ⟨p, hp, rfl⟩
    have hfind : Bindings.find? f.spelling p.1 = some p.2.json :=
      Bindings.find?_of_mem (hnames ▸ f.nodup_names_settings) hmem
    rw [Json.member?, hfind]
    exact (h.plain p hp).spelled_json

end Field

/-! ## Fields that are defined -/

namespace Options

variable (o : Options)

theorem givesOnly_fieldKind (type : FieldType) :
    GivesOnly (fun k => k.type = type ∧ ∀ v, k = .vector v → v.Made) (o.fieldKind type) := by
  cases type with
  | text =>
    exact .bind (fun _ => .bind (fun _ => .bind (fun _ => .bind (fun _ => .bind (fun _ =>
      .bind (fun _ => .bind (fun _ => .bind (fun _ => .ok ⟨rfl, fun _ h => nomatch h⟩) _) _) _) _) _)
      _) _) _
  | tag =>
    exact .bind (fun _ => .bind (fun _ => .bind (fun _ => .bind (fun _ => .bind (fun _ =>
      .bind (fun _ => .bind (fun _ => .ok ⟨rfl, fun _ h => nomatch h⟩) _) _) _) _) _) _) _
  | numeric => exact .map (fun _ => ⟨rfl, fun _ h => nomatch h⟩) _
  | geo => exact .map (fun _ => ⟨rfl, fun _ h => nomatch h⟩) _
  | geoshape => exact .map (fun _ => ⟨rfl, fun _ h => nomatch h⟩) _
  | vector =>
    have hmade : ∀ algorithm attributes indexMissing,
        ({ algorithm, indexMissing : VectorOptions }.addAttributes attributes).Made := by
      intro algorithm attributes indexMissing
      cases indexMissing with
      | false => exact (VectorOptions.Made.start algorithm).addAttributes attributes
      | true => exact (VectorOptions.Made.start algorithm).indexMissing.addAttributes attributes
    refine .bind (fun _ => .ifTaken (fun _ => .bind (fun _ => .ifTaken (fun _ => ?_) _) _) _) _
    refine .bind (fun algorithm => .bind (fun given => .bind (fun missing => .ok ⟨rfl, ?_⟩) _) _) _
    rintro _ ⟨⟩
    exact hmade algorithm given missing

end Options

namespace Field

/-- **A field that is defined has the type and the name that were asked for, and can be made.** -/
theorem of_define_eq_ok {type : FieldType} {name : String} {options : Json} {f : Field}
    (h : define type name options = .ok f) : f.type = type ∧ f.name = name ∧ f.Made := by
  simp only [define, bind_eq_ok_iff] at h
  obtain ⟨members, -, -, -, asName, -, kind, hkind, ⟨⟩⟩ := h
  obtain ⟨htype, hmade⟩ := Options.givesOnly_fieldKind _ type kind hkind
  exact ⟨htype, rfl, hmade⟩

theorem tokens_flags {f : Field} (h : f.type = .vector ∨ f.type = .geoshape) :
    f.kind.flags.tokens = Command.flag "INDEXMISSING" f.kind.flags.indexMissing := by
  obtain ⟨name, asName, kind⟩ := f
  cases kind with
  | geoshape system => rfl
  | vector o =>
    simp only [FieldKind.flags, FieldFlags.tokens, Command.flag, Bool.false_eq_true, if_false,
      List.append_nil, List.nil_append]
  | _ => rcases h with h | h <;> cases h

theorem notMem_tokens_flags {f : Field} (h : f.type = .vector ∨ f.type = .geoshape) {word : String}
    (hword : word ≠ "INDEXMISSING") : (word : Token) ∉ f.kind.flags.tokens := by
  rw [tokens_flags h, Command.flag]
  split
  · simpa using hword
  · exact List.not_mem_nil

theorem Made.isLower_of_mem {f : Field} (h : f.Made) {o : VectorOptions} (ho : f.kind = .vector o)
    {p : String × String} (hp : p ∈ o.attributes) {c : Char}
    (hc : c ∈ p.1.toList ∨ c ∈ p.2.toList) : c.isLower = false := by
  rw [← (h o ho).map_upperPair] at hp
  obtain ⟨q, -, rfl⟩ := List.mem_map.mp hp
  exact hc.elim Text.isLower_of_mem_upper Text.isLower_of_mem_upper

/-- The two ways to a field agree: from a record of options, and from an object of options. -/
structure PathsAgree (f : Field) : Prop where
  /-- A field that is made has a spelling that gives all options. It is a JSON text if the numbers
  are finite and no attribute occurs twice. -/
  spelled : f.Made → f.Spells f.spelling ∧
    ((∀ p ∈ f.settings, p.2.Proper) → (Json.object f.spelling).Proper)
  /-- Any spelling, in any order and with any options left out that are off, not set or empty,
  defines the field itself, and so the same tokens. -/
  defined : ∀ members, f.Spells members → define f.type f.name (.object members) = .ok f
  made : ∀ type name options, define type name options = .ok f →
    f.type = type ∧ f.name = name ∧ f.Made
  flags : f.type = .vector ∨ f.type = .geoshape →
    ∀ word ∈ ["NOINDEX", "SORTABLE", "INDEXEMPTY", "WITHSUFFIXTRIE"],
      (word : Token) ∉ f.kind.flags.tokens
  attributes : f.Made → ∀ o, f.kind = .vector o → ∀ p ∈ o.attributes,
    ∀ c, c ∈ p.1.toList ∨ c ∈ p.2.toList → c.isLower = false

/-- **Records of options and objects of options lead to the same fields.** -/
theorem pathsAgree (f : Field) : f.PathsAgree where
  spelled h := ⟨spells_spelling h, proper_spelling⟩
  defined _ h := define_of_spells h
  made _ _ _ h := of_define_eq_ok h
  flags h word hword := by
    refine notMem_tokens_flags h ?_
    rintro rfl
    simp at hword
  attributes h _ ho _ hp _ hc := h.isLower_of_mem ho hp hc

/-- Algorithms and attributes are read in letters of either case. -/
example : define .vector "v" (.object [("attributes", .object [("dim", .string "4")]),
      ("as", .string "w"), ("algorithm", .string "svs_vamana")]) =
    .ok ⟨"v", some "w", .vector { algorithm := .svsVamana, attributes := [("DIM", "4")] }⟩ := by
  rfl

end Field

end SearchWire
