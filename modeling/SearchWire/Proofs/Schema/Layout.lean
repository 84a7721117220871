import SearchWire.Index.Basic
import SearchWire.Proofs.Schema.Reading
import SearchWire.Proofs.Schema.Spelling

/-!
# The layout of a field

In a schema the separator of a tag may be mixed up with the field after it. Nothing stands after a
field that is added to an index, so there the tokens tell the field, whatever its names, separator
and attributes are called.

* **`Field.tokens_eq_iff_view_eq`**: the tokens of a field alone determine what it says;
* `Setting.tokens`, `Field.written`: the options of a field in the order of some words;
  `Field.ownWords`, `Field.flagWords`: these words;
* `Field.LaidOut`, `Field.laidOut`: the parts of a field in their order;
* **`Index.alterationsApart`**.
-/

namespace SearchWire

open Command

/-! ## A field alone -/

namespace FieldKind

/-- The options of two kinds of one type are the same only if both have a mark or neither has. -/
theorem mark_eq_nil_of_options_eq {k k' : FieldKind} (ht : k.type = k'.type)
    (h : k.options = k'.options) (hk' : k'.mark = []) : k.mark = [] := by
  refine Classical.byContradiction fun hk => ?_
  obtain ⟨o, o', s, rfl, rfl, hs, -⟩ := exists_tags_of_mark ht hk hk'
  have hseparator : BeginsWith ["SEPARATOR"] (tag o).options := by
    rw [options_eq, mark, hs]
    exact beginsWith_cons List.mem_cons_self _
  have hplain : ¬ BeginsWith ["SEPARATOR"] (tag o').options := by
    rw [options_eq, hk', List.nil_append]
    exact (tag o').plain.leads.not_beginsWith (by decide)
  exact hplain (h ▸ hseparator)

theorem view_eq_of_options_eq {k k' : FieldKind} (ht : k.type = k'.type)
    (h : k.options = k'.options) : k.view = k'.view := by
  have hm : k.mark = [] ↔ k'.mark = [] :=
    ⟨mark_eq_nil_of_options_eq ht.symm h.symm, mark_eq_nil_of_options_eq ht h⟩
  rw [options_eq, options_eq] at h
  obtain ⟨hmark, hplain⟩ := mark_append_inj ht hm h
  exact view_eq_iff.mpr ⟨ht, hmark, PlainOptions.values_eq_of_tokens_eq hplain⟩

end FieldKind

namespace Field

/-- **The tokens of a field alone determine what it says.** -/
theorem tokens_eq_iff_view_eq {f g : Field} : f.tokens = g.tokens ↔ f.view = g.view := by
  refine ⟨fun h => ?_, tokens_eq_of_view_eq⟩
  have hrow : row [f] = row [g] := by rw [row, row, List.flatMap_singleton, h, List.flatMap_singleton]
  obtain ⟨hname, has, htype, hoptions⟩ := head_eq_of_row_cons_eq hrow
  have hview : f.kind.view = g.kind.view :=
    FieldKind.view_eq_of_options_eq htype (List.append_cancel_right hoptions)
  rw [view, view, hname, has, hview]

end Field

/-! ## The parts of a field -/

theorem FieldKind.ownTokens_vector (o : VectorOptions) : (FieldKind.vector o).ownTokens =
    (o.algorithm.keyword : Token) ::
      Command.counted (o.attributes.flatMap fun p => [(p.1 : Token), (p.2 : Token)]) := by
  rw [ownTokens, table_eq_counted, Command.entries, List.flatMap_map]

/-- The tokens of a setting under a word. What is a word itself stands without another one, and so do
attributes, after the number of their tokens. -/
def Setting.tokens (word : String) : Setting → Command
  | .flag on => Command.flag word on
  | .number x => Command.real word x
  | .text s => Command.text word s
  | .word w => [w]
  | .attributes pairs => Command.counted (pairs.flatMap fun p => [(p.1 : Token), (p.2 : Token)])

namespace Field

/-- The words of the options that only some kinds have, in their order, each with the name of the
option that it stands for; no word for options that stand without one. -/
def ownWords : List (String × String) :=
  [("NOSTEM", "no_stem"), ("WEIGHT", "weight"), ("PHONETIC", "phonetic"),
    ("SEPARATOR", "separator"), ("CASESENSITIVE", "case_sensitive"), ("", "coord_system"),
    ("", "algorithm"), ("", "attributes")]

/-- The words that may stand at the end of a field, in their order, each with the name of the option
that it stands for. -/
def flagWords : List (String × String) :=
  [("NOINDEX", "no_index"), ("INDEXMISSING", "index_missing"), ("INDEXEMPTY", "index_empty"),
    ("SORTABLE", "sortable"), ("WITHSUFFIXTRIE", "withsuffixtrie")]

/-- The options of a field that have one of some words, in the order of the words. -/
def written (f : Field) (words : List (String × String)) : Command :=
  words.flatMap fun p => part (Setting.tokens p.1) (Bindings.find? f.settings p.2)

/-- How a field is written. -/
structure LaidOut (f : Field) : Prop where
  /-- First comes its name, then the name it goes under, the word of its type, the options that only
  its kind has, and its flags. -/
  parts : f.tokens = (f.name : Token) :: (f.written [("AS", "as")] ++
    ((f.type.keyword : Token) :: (f.written ownWords ++ f.written flagWords)))
  own : f.kind.ownTokens = f.written ownWords
  flags : f.kind.flags.tokens = f.written flagWords
  ordered : f.kind.flags.tokens.Sublist (Command.words (flagWords.map Prod.fst))
  chosen : ∀ p ∈ flagWords,
    ((p.1 : Token) ∈ f.kind.flags.tokens ↔ (p.2, Setting.flag true) ∈ f.kind.settings)
  counted : ∀ o, f.kind = .vector o → ∃ attributes : Command,
    f.kind.ownTokens = (o.algorithm.keyword : Token) :: .ofNat attributes.length :: attributes ∧
      attributes = o.attributes.flatMap fun p => [(p.1 : Token), (p.2 : Token)]

theorem ownTokens_eq_written (f : Field) : f.kind.ownTokens = f.written ownWords := by
  obtain ⟨name, asName, kind⟩ := f
  cases kind with
  | vector o =>
    rw [FieldKind.ownTokens_vector]
    simp [written, ownWords, settings, FieldKind.settings, Bindings.find?_cons, part,
      Setting.tokens]
  | _ =>
    simp [FieldKind.ownTokens, written, ownWords, settings, FieldKind.settings,
      Bindings.find?_cons, part, Setting.tokens]

theorem tokens_flags_eq_written (f : Field) : f.kind.flags.tokens = f.written flagWords := by
  obtain ⟨name, asName, kind⟩ := f
  cases kind <;> simp [FieldKind.flags, FieldFlags.tokens, written, flagWords, settings,
    FieldKind.settings, Bindings.find?_cons, part, Setting.tokens]

theorem flag_sublist (w : String) (on : Bool) : (Command.flag w on).Sublist (Command.words [w]) := by
  cases on with
  | false => exact List.nil_sublist _
  | true => exact List.Sublist.refl _

theorem flags_sublist (o : FieldFlags) :
    o.tokens.Sublist (Command.words (flagWords.map Prod.fst)) :=
  ((((flag_sublist "NOINDEX" o.noIndex).append (flag_sublist "INDEXMISSING" o.indexMissing)).append
    (flag_sublist "INDEXEMPTY" o.indexEmpty)).append (flag_sublist "SORTABLE" o.sortable)).append
    (flag_sublist "WITHSUFFIXTRIE" o.suffixTrie)

theorem mem_tokens_flags_iff (k : FieldKind) {p : String × String} (hp : p ∈ flagWords) :
    (p.1 : Token) ∈ k.flags.tokens ↔ (p.2, Setting.flag true) ∈ k.settings := by
  simp only [flagWords, List.mem_cons, List.not_mem_nil, or_false] at hp
  rcases hp with rfl | rfl | rfl | rfl | rfl <;> cases k <;>
    simp [FieldFlags.tokens, Command.mem_flag, FieldKind.flags, FieldKind.settings]

theorem laidOut (f : Field) : f.LaidOut where
  parts := by
    have has : f.written [("AS", "as")] = Command.text "AS" f.asName := List.append_nil _
    rw [tokens_eq, has, ownTokens_eq_written, tokens_flags_eq_written]
  own := f.ownTokens_eq_written
  flags := f.tokens_flags_eq_written
  ordered := flags_sublist f.kind.flags
  chosen _ hp := mem_tokens_flags_iff f.kind hp
  counted o ho := by
    rw [ho, FieldKind.ownTokens_vector]
    exact ⟨_, rfl, rfl⟩

end Field

/-! ## A field that is added to an index -/

namespace Index

/-- **The command that adds a field to an index tells the field.** Two such commands are the same
just if they agree in the index, in whether documents that are there already are left out, and in
all that the field says; and the field is laid out part by part. -/
theorem alterationsApart (x y : Index) (f g : Field) (skip skip' : Bool) :
    (x.alterCommand f skip = y.alterCommand g skip' ↔
        x.name = y.name ∧ skip = skip' ∧ f.view = g.view) ∧ f.LaidOut := by
  refine ⟨?_, f.laidOut⟩
  rw [← Field.tokens_eq_iff_view_eq]
  cases skip <;> cases skip' <;> simp [alterCommand, on, Command.flag]

end Index

end SearchWire
