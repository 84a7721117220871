import SearchWire.Proofs.Schema.Alignment

/-!
# Schemas are read back

The tokens of a schema determine its fields, but for one place: `SEPARATOR` after a tag field
without options is the name of the next field or begins the separator of the tag, and if the word
after it can stand after a name, it may be either.

* `Field.view`: what a field says; the weight of a text stands as the text it is written in;
  `Field.tokens_eq_of_view_eq`;
* `Field.hidden?`, `Field.HidesAs`: separators that may be part of a field named `SEPARATOR`;
  `Field.unseparated`: fields with each of them read so; `Field.row_unseparated`,
  `Field.settled_unseparated`;
* `Field.hides_of_options_append_eq`: where two readings of a schema part;
* **`Field.view_eq_of_row_eq`**, `Field.row_eq_iff`: fields without such separators, and all;
* `Field.Clear`, **`Schema.tokens_eq_iff`**.
-/

namespace SearchWire

open Command

/-! ## What a field says -/

theorem CoordSystem.keyword_inj {a b : CoordSystem} : a.keyword = b.keyword ↔ a = b := by
  cases a <;> cases b <;> decide

/-- The algorithm of a vector field and its attributes as they are written. -/
def VectorOptions.markItem : Item (VectorAlgorithm × List (String × String)) :=
  (Keywords.item ⟨VectorAlgorithm.keyword, [.flat, .hnsw, .svsVamana], fun a => by
    cases a <;> decide⟩).both
    (Item.entries.convert (List.map fun p => (p.1, (p.2 : Token)))
      (fun ps => some (ps.map fun p => (p.1, p.2.text)))
      fun ps => by simp [Function.comp_def])

namespace FieldKind

/-- What a kind says: its options, with the weight of a text as the text it is written in. -/
def view : FieldKind → FieldKind × Option String
  | text o => (.text { o with weight := none }, o.weight.map Token.realText)
  | k => (k, none)

theorem mark_tag_inj {o o' : TagOptions} :
    (tag o).mark = (tag o').mark ↔ o.separator = o'.separator :=
  (Block.text "SEPARATOR").tokens_inj

theorem mark_geoshape_inj {a b : CoordSystem} : (geoshape a).mark = (geoshape b).mark ↔ a = b := by
  simp [mark, CoordSystem.keyword_inj]

theorem mark_vector (o : VectorOptions) :
    (vector o).mark = VectorOptions.markItem.tokens (o.algorithm, o.attributes) :=
  table_eq_counted ..

theorem mark_vector_inj {o o' : VectorOptions} : (vector o).mark = (vector o').mark ↔
    o.algorithm = o'.algorithm ∧ o.attributes = o'.attributes := by
  rw [mark_vector, mark_vector, Codec.tokens_inj, Prod.mk.injEq]

theorem view_eq_iff {k k' : FieldKind} : k.view = k'.view ↔
    k.type = k'.type ∧ k.mark = k'.mark ∧ k.plain.values = k'.plain.values := by
  cases k <;> cases k' <;>
    simp only [view, type, plain, PlainOptions.values, flags, Prod.mk.injEq, reduceCtorEq,
      false_and, true_and, FieldFlags.mk.injEq]
  case text.text o o' =>
    cases o
    cases o'
    simp [mark]
    grind
  case tag.tag o o' =>
    cases o
    cases o'
    simp [mark_tag_inj]
    grind
  case numeric.numeric o o' =>
    cases o
    cases o'
    simp [mark]
    grind
  case geo.geo o o' =>
    cases o
    cases o'
    simp [mark]
    grind
  case geoshape.geoshape a b => simp [mark_geoshape_inj]
  case vector.vector o o' =>
    cases o
    cases o'
    simp [mark_vector_inj]
    grind

end FieldKind

theorem PlainOptions.tokens_eq_of_values_eq {o o' : PlainOptions} (h : o.values = o'.values) :
    o.tokens = o'.tokens := by
  simp only [values, Prod.mk.injEq] at h
  obtain ⟨hstem, hweight, hphonetic, hcase, hflags⟩ := h
  rw [tokens, tokens, hstem, hweight, hphonetic, hcase, hflags]

theorem PlainOptions.values_eq_of_tokens_eq {o o' : PlainOptions} (h : o.tokens = o'.tokens) :
    o.values = o'.values :=
  (splits.eq_of_append (Trails.row _ []) (Trails.row _ []) (congrArg (· ++ Field.row []) h)).1

namespace Field

/-- What a field says. -/
def view (f : Field) : String × Option String × FieldKind × Option String :=
  (f.name, f.asName, f.kind.view)

/-- The separator of a tag field. -/
def separator? (f : Field) : Option String :=
  match f.kind with
  | .tag o => o.separator
  | _ => none

theorem view_eq_iff {f g : Field} : f.view = g.view ↔ f.name = g.name ∧ f.asName = g.asName ∧
    f.type = g.type ∧ f.kind.mark = g.kind.mark ∧ f.kind.plain.values = g.kind.plain.values := by
  simp only [view, Prod.mk.injEq, FieldKind.view_eq_iff]
  rfl

theorem tokens_eq_of_view_eq {f g : Field} (h : f.view = g.view) : f.tokens = g.tokens := by
  obtain ⟨hname, has, htype, hmark, hvalues⟩ := view_eq_iff.mp h
  have hoptions : f.kind.options = g.kind.options := by
    rw [FieldKind.options_eq, FieldKind.options_eq, hmark,
      PlainOptions.tokens_eq_of_values_eq hvalues]
  have htokens : ∀ f : Field, f.tokens = (f.name : Token) :: (Command.text "AS" f.asName ++
      ((f.type.keyword : Token) :: f.kind.options)) := fun _ => rfl
  rw [htokens, htokens, hname, has, htype, hoptions]

theorem row_eq_of_view_eq {fs gs : List Field} (h : fs.map view = gs.map view) :
    row fs = row gs := by
  induction fs generalizing gs with
  | nil =>
    cases List.map_eq_nil_iff.mp h.symm
    rfl
  | cons f fs ih =>
    cases gs with
    | nil => cases h
    | cons g gs =>
      rw [List.map_cons, List.map_cons, List.cons.injEq] at h
      rw [row, List.flatMap_cons, tokens_eq_of_view_eq h.1, ← row, ih h.2]
      rfl

end Field

/-! ## Separators that may be names of fields -/

/-- The options of a tag field after its separator, as those of a field of another type. -/
def TagOptions.under (o : TagOptions) : FieldType → Option FieldKind
  | .text =>
    if o.caseSensitive then none
    else some (.text { sortable := o.sortable, noIndex := o.noIndex, indexEmpty := o.indexEmpty,
                       indexMissing := o.indexMissing, suffixTrie := o.suffixTrie })
  | .tag => some (.tag { o with separator := none })
  | .numeric =>
    if o.caseSensitive || o.indexEmpty || o.suffixTrie then none
    else some (.numeric ⟨o.sortable, o.noIndex, o.indexMissing⟩)
  | .geo =>
    if o.caseSensitive || o.indexEmpty || o.suffixTrie then none
    else some (.geo ⟨o.sortable, o.noIndex, o.indexMissing⟩)
  | .geoshape | .vector => none

theorem TagOptions.of_under_eq_some {o : TagOptions} {a : FieldType} {k : FieldKind}
    (h : o.under a = some k) :
    k.type = a ∧ k.mark = [] ∧ k.plain = (FieldKind.tag o).plain := by
  obtain ⟨separator, caseSensitive, sortable, noIndex, indexEmpty, indexMissing, suffixTrie⟩ := o
  cases a <;> simp only [under, reduceCtorEq] at h
  case text =>
    cases caseSensitive <;> cases h
    exact ⟨rfl, rfl, rfl⟩
  case tag =>
    cases h
    exact ⟨rfl, rfl, rfl⟩
  case numeric =>
    cases caseSensitive <;> cases indexEmpty <;> cases suffixTrie <;> cases h
    exact ⟨rfl, rfl, rfl⟩
  case geo =>
    cases caseSensitive <;> cases indexEmpty <;> cases suffixTrie <;> cases h
    exact ⟨rfl, rfl, rfl⟩

namespace Field

/-- The field as a tag field without options. -/
def bare (f : Field) : Field := { f with kind := .tag {} }

/-- The kind of a field named `SEPARATOR` that the separator of a tag field and the options after it
may be. -/
def hidden? (f : Field) : Option FieldKind :=
  match f.kind with
  | .tag o => (o.separator.bind FieldType.ofKeyword?).bind o.under
  | _ => none

/-- A field with its separator taken for a field, if it may be one. -/
def apart (f : Field) : List Field :=
  match f.hidden? with
  | some k => [f.bare, ⟨"SEPARATOR", none, k⟩]
  | none => [f]

/-- A tag field whose only option is the separator `AS`. Before a field with a name alone, that is
the name which a field named `SEPARATOR` goes under. -/
def HidesAs (f d : Field) : Prop := f.kind = .tag { separator := some "AS" } ∧ d.asName = none

instance (f d : Field) : Decidable (f.HidesAs d) :=
  inferInstanceAs (Decidable (f.kind = .tag { separator := some "AS" } ∧ d.asName = none))

/-- A field and the fields after it, with every separator that may be the name of a field taken for
one. -/
def unseparatedFrom (f : Field) : List Field → List Field
  | [] => f.apart
  | d :: fs =>
    if f.HidesAs d then f.bare :: unseparatedFrom ⟨"SEPARATOR", some d.name, d.kind⟩ fs
    else f.apart ++ unseparatedFrom d fs

/-- Fields with every separator that may be the name of a field taken for one. -/
def unseparated : List Field → List Field
  | [] => []
  | f :: fs => unseparatedFrom f fs

theorem hidden?_eq_some_iff {f : Field} {k : FieldKind} : f.hidden? = some k ↔
    ∃ o a, f.kind = .tag o ∧ o.separator = some a.keyword ∧ o.under a = some k := by
  obtain ⟨name, asName, kind⟩ := f
  cases kind <;> simp only [hidden?, FieldKind.tag.injEq, reduceCtorEq, false_and, exists_false]
  case tag o =>
    simp only [Option.bind_eq_some_iff, FieldType.ofKeyword?_eq_some_iff]
    grind

theorem row_append (fs gs : List Field) : row (fs ++ gs) = row fs ++ row gs :=
  List.flatMap_append ..

theorem tokens_mk (name : String) (asName : Option String) (k : FieldKind) :
    (⟨name, asName, k⟩ : Field).tokens = (name : Token) :: (Command.text "AS" asName ++
      ((k.type.keyword : Token) :: k.options)) := rfl

theorem row_apart (f : Field) : row f.apart = row [f] := by
  unfold apart
  cases h : f.hidden? with
  | none => rfl
  | some k =>
    obtain ⟨name, asName, kind⟩ := f
    obtain ⟨o, a, rfl, hs, hk⟩ := hidden?_eq_some_iff.mp h
    obtain ⟨rfl, hmark, hplain⟩ := TagOptions.of_under_eq_some hk
    have htag : (FieldKind.tag o).options =
        ("SEPARATOR" : Token) :: (k.type.keyword : Token) :: k.options := by
      rw [FieldKind.options_eq, k.options_eq, hmark, hplain, FieldKind.mark, hs]
      rfl
    have hbare : (FieldKind.tag {}).options = [] := rfl
    simp [row, bare, tokens_mk, htag, hbare, FieldKind.type, Command.text, Command.part]

theorem row_hidesAs {f d : Field} (h : f.HidesAs d) (fs : List Field) :
    row (f.bare :: ⟨"SEPARATOR", some d.name, d.kind⟩ :: fs) = row (f :: d :: fs) := by
  obtain ⟨name, asName, kind⟩ := f
  obtain ⟨dname, das, dkind⟩ := d
  obtain ⟨rfl, rfl⟩ := h
  have hbare : (FieldKind.tag {}).options = [] := rfl
  have hsep : (FieldKind.tag { separator := some "AS" }).options =
    [("SEPARATOR" : Token), ("AS" : Token)] := rfl
  simp [row, bare, tokens_mk, hsep, hbare, FieldKind.type, Command.text, Command.part]

theorem row_unseparatedFrom (f : Field) (fs : List Field) :
    row (unseparatedFrom f fs) = row (f :: fs) := by
  induction fs generalizing f with
  | nil => exact row_apart f
  | cons d fs ih =>
    rw [unseparatedFrom]
    by_cases h : f.HidesAs d
    · rw [if_pos h, row_cons, ih, ← row_cons, row_hidesAs h]
    · rw [if_neg h, row_append, row_apart, ih, ← row_append]
      rfl

/-- Taking separators for fields changes no token. -/
theorem row_unseparated (fs : List Field) : row (unseparated fs) = row fs := by
  cases fs with
  | nil => rfl
  | cons f fs => exact row_unseparatedFrom f fs

/-! ## Settled fields -/

/-- No separator may be the name of a field. -/
def Settled : List Field → Prop
  | [] => True
  | f :: fs => f.hidden? = none ∧ (∀ d ∈ fs.head?, ¬ f.HidesAs d) ∧ Settled fs

theorem settled_cons_of_mark {f : Field} {fs : List Field} (hf : f.kind.mark = [])
    (hfs : Settled fs) : Settled (f :: fs) := by
  have htag : ∀ o, f.kind = .tag o → o.separator = none := by
    intro o ho
    rw [ho] at hf
    have hnone : (FieldKind.tag {}).mark = [] := rfl
    exact FieldKind.mark_tag_inj.mp (hf.trans hnone.symm)
  refine ⟨?_, fun d _ hd => ?_, hfs⟩
  · cases h : f.hidden? with
    | none => rfl
    | some k =>
      obtain ⟨o, a, ho, hs, -⟩ := hidden?_eq_some_iff.mp h
      rw [htag o ho] at hs
      cases hs
  · cases htag _ hd.1

theorem head?_unseparatedFrom (f : Field) (fs : List Field) :
    (unseparatedFrom f fs).head?.map asName = some f.asName := by
  have hapart : ∀ gs, (f.apart ++ gs).head?.map asName = some f.asName := by
    intro gs
    unfold apart
    cases f.hidden? <;> rfl
  cases fs with
  | nil =>
    rw [unseparatedFrom, ← List.append_nil f.apart]
    exact hapart []
  | cons d fs =>
    rw [unseparatedFrom]
    by_cases h : f.HidesAs d
    · rw [if_pos h]
      rfl
    · rw [if_neg h]
      exact hapart _

theorem settled_apart_append {f : Field} {gs : List Field} (hgs : Settled gs)
    (hf : ∀ d ∈ gs.head?, ¬ f.HidesAs d) : Settled (f.apart ++ gs) := by
  unfold apart
  cases h : f.hidden? with
  | none => exact ⟨h, hf, hgs⟩
  | some k =>
    obtain ⟨o, a, -, -, hk⟩ := hidden?_eq_some_iff.mp h
    exact settled_cons_of_mark rfl (settled_cons_of_mark (TagOptions.of_under_eq_some hk).2.1 hgs)

theorem settled_unseparatedFrom (f : Field) (fs : List Field) :
    Settled (unseparatedFrom f fs) := by
  induction fs generalizing f with
  | nil =>
    rw [unseparatedFrom, ← List.append_nil f.apart]
    exact settled_apart_append trivial fun d hd => nomatch hd
  | cons d fs ih =>
    rw [unseparatedFrom]
    by_cases h : f.HidesAs d
    · rw [if_pos h]
      exact settled_cons_of_mark rfl (ih _)
    · rw [if_neg h]
      refine settled_apart_append (ih d) fun e he hhides => h ⟨hhides.1, ?_⟩
      -- The name that the next field goes under stays as it is.
      have hhead := head?_unseparatedFrom d fs
      rw [Option.mem_def.mp he, Option.map_some, Option.some.injEq] at hhead
      rw [← hhead, hhides.2]

theorem settled_unseparated (fs : List Field) : Settled (unseparated fs) := by
  cases fs with
  | nil => trivial
  | cons f fs => exact settled_unseparatedFrom f fs

end Field

/-! ## Where two readings part -/

theorem Field.natText_notMem_heads (n : Nat) : toString n ∉ heads := by
  intro hn
  obtain ⟨c, hc, hno, -⟩ := exists_letter hn
  rw [Nat.toString_eq_ofList_toDigits, String.toList_ofList] at hc
  rw [Nat.isDigit_of_mem_toDigits (by decide) (by decide) hc] at hno
  cases hno

theorem Command.mem_flag {w : String} {on : Bool} {t : Token} :
    t ∈ flag w on ↔ on = true ∧ t = (w : Token) := by
  cases on <;> simp [flag]

theorem FieldKind.mem_plain_tag {o : TagOptions} {t : Token} (h : t ∈ (tag o).plain.tokens) :
    ∃ w ∈ PlainOptions.words, t = (w : Token) := by
  have hplain : (tag o).plain.tokens =
      Command.flag "CASESENSITIVE" o.caseSensitive ++ (tag o).flags.tokens := rfl
  rw [hplain, FieldFlags.tokens] at h
  simp only [List.mem_append] at h
  rcases h with h | (((h | h) | h) | h) | h <;> exact ⟨_, by decide, (Command.mem_flag.mp h).2⟩

/-- The plain options of a tag are options of the other type only if they can be. -/
theorem FieldKind.exists_under {o : TagOptions} {k : FieldKind} {fs gs : List Field}
    (h : (tag o).plain.tokens ++ Field.row fs = k.options ++ Field.row gs) :
    ∃ k', o.under k.type = some k' := by
  have htrails : ∀ {ws}, (∀ w ∈ ws ++ Field.heads, w ∉ PlainOptions.words) →
      Trails ws ((tag o).plain.tokens ++ Field.row fs) := fun hws =>
    .append (tag o).plain.leads hws (.row _ fs)
  rw [options_eq, List.append_assoc] at h
  have hvalues : k.mark = [] → (tag o).plain.values = k.plain.values := by
    intro hmark
    rw [hmark] at h
    exact (PlainOptions.splits.eq_of_append (.row _ fs) (.row _ gs) h).1
  cases k with
  | text o' =>
    have hv := hvalues rfl
    simp [plain, PlainOptions.values] at hv
    simp [type, TagOptions.under, hv]
  | tag o' => exact ⟨_, rfl⟩
  | numeric o' =>
    have hv := hvalues rfl
    simp [plain, PlainOptions.values, flags] at hv
    simp [type, TagOptions.under, hv]
  | geo o' =>
    have hv := hvalues rfl
    simp [plain, PlainOptions.values, flags] at hv
    simp [type, TagOptions.under, hv]
  | geoshape system =>
    have hsystem : ∀ w ∈ [system.keyword] ++ Field.heads, w ∉ PlainOptions.words := by
      cases system <;> decide
    have hrest : Trails [] ((geoshape system).plain.tokens ++ Field.row gs) :=
      .append (geoshape system).plain.leads (by decide) (.row _ gs)
    exact absurd h.symm (hrest.cons_ne (htrails hsystem) List.mem_cons_self)
  | vector v =>
    have halgorithm : ∀ w ∈ [v.algorithm.keyword] ++ Field.heads, w ∉ PlainOptions.words := by
      cases v.algorithm <;> decide
    -- The number of attributes is no word that stands after a name.
    have hcount : Trails [] ((vector v).mark.tail ++ ((vector v).plain.tokens ++ Field.row gs)) := by
      rw [← List.append_assoc]
      exact .cons (Field.natText_notMem_heads _) _ gs
    exact absurd h.symm (hcount.cons_ne (htrails halgorithm) List.mem_cons_self)

/-- After the separator `AS` the plain options of a tag are the name that a field goes under only if
there are none. -/
theorem FieldKind.plain_tag_eq_nil {o : TagOptions} {fs gs : List Field} {x : String}
    {k : FieldKind} (h : (tag o).plain.tokens ++ Field.row fs =
      (x : Token) :: (k.type.keyword : Token) :: (k.options ++ Field.row gs)) :
    (tag o).plain.tokens = [] := by
  cases hplain : (tag o).plain.tokens with
  | nil => rfl
  | cons t ts =>
    have hts : ¬ BeginsWith Field.heads ts := by
      rintro ⟨u, hu, hhead⟩
      obtain ⟨w, hw, huw⟩ := mem_plain_tag (o := o)
        (hplain ▸ List.mem_cons_of_mem t (List.mem_of_mem_head? hhead))
      rw [Token.ofString_inj] at huw
      subst huw
      exact absurd hw ((by decide : ∀ u ∈ Field.heads, u ∉ PlainOptions.words) u hu)
    rw [hplain, List.cons_append, List.cons.injEq] at h
    exact absurd h.2 (Field.ne_afterName_append_row hts fs ⟨"", none, k⟩ gs)

theorem FieldKind.plain_tag_eq {o : TagOptions} (h : (tag o).plain.tokens = []) :
    o = { separator := o.separator } := by
  have hnone : (tag {}).plain.tokens = [] := rfl
  have hvalues := PlainOptions.values_eq_of_tokens_eq (h.trans hnone.symm)
  obtain ⟨separator, caseSensitive, sortable, noIndex, indexEmpty, indexMissing, suffixTrie⟩ := o
  simp [plain, PlainOptions.values, flags] at hvalues
  simp [hvalues]

theorem Field.hides_of_options_append_eq {f : Field} {o o' : TagOptions} {s : String}
    {fs gs : List Field} (hf : f.kind = .tag o) (hs : o.separator = some s)
    (hs' : o'.separator = none) (h : (FieldKind.tag o).options ++ row fs =
      (FieldKind.tag o').options ++ row gs) :
    (∃ k, f.hidden? = some k) ∨ ∃ d ∈ fs.head?, f.HidesAs d := by
  have htrails : Trails ["SEPARATOR"] ((FieldKind.tag o').options ++ row gs) := by
    rw [FieldKind.options_eq, FieldKind.mark, hs']
    exact .append (FieldKind.tag o').plain.leads (by decide) (.row _ gs)
  have hoptions : (FieldKind.tag o).options ++ row fs =
      ("SEPARATOR" : Token) :: (s : Token) :: ((FieldKind.tag o).plain.tokens ++ row fs) := by
    rw [FieldKind.options_eq, FieldKind.mark, hs]
    rfl
  obtain ⟨g, gs', -, -, hg⟩ :=
    htrails.exists_row List.mem_cons_self (hoptions.symm.trans h)
  obtain ⟨gname, _ | x, k⟩ := g
  · -- The word after `SEPARATOR` is the type of the field.
    rw [afterName_mk_none, List.cons_append, List.cons.injEq, Token.ofString_inj] at hg
    obtain ⟨k', hk'⟩ := FieldKind.exists_under hg.2
    exact .inl ⟨k', hidden?_eq_some_iff.mpr ⟨o, k.type, hf, hs.trans (congrArg some hg.1), hk'⟩⟩
  · -- The word after `SEPARATOR` is `AS`.
    rw [afterName_mk_some] at hg
    simp only [List.cons_append, List.cons.injEq, Token.ofString_inj] at hg
    obtain ⟨rfl, hname⟩ := hg
    have hplain := FieldKind.plain_tag_eq_nil hname
    have ho := FieldKind.plain_tag_eq hplain
    rw [hplain, List.nil_append] at hname
    cases fs with
    | nil => cases hname
    | cons d fs =>
      refine .inr ⟨d, rfl, by rw [hf, ho, hs], ?_⟩
      obtain ⟨dname, _ | y, dk⟩ := d
      · rfl
      · rw [row_cons, afterName_mk_some] at hname
        simp only [List.cons_append, List.cons.injEq, Token.ofString_inj] at hname
        exact absurd hname.2.1 (by cases k.type <;> decide)

namespace FieldKind

/-- Of two fields of one type, only tag fields can have a mark and none. -/
theorem exists_tags_of_mark {k k' : FieldKind} (ht : k.type = k'.type) (hk : k.mark ≠ [])
    (hk' : k'.mark = []) : ∃ o o' s, k = tag o ∧ k' = tag o' ∧ o.separator = some s ∧
      o'.separator = none := by
  cases k <;> cases k' <;> simp [type, mark, Command.table] at ht hk hk'
  case tag.tag o o' =>
    cases hs : o.separator <;> cases hs' : o'.separator <;>
      simp [hs, hs', Command.text, Command.part] at hk hk'
    exact ⟨o, o', _, rfl, rfl, hs, hs'⟩

/-- A mark and what stands after it are determined by the tokens of both, if it is known whether
there is a mark. -/
theorem mark_append_inj {k k' : FieldKind} {r r' : Command} (ht : k.type = k'.type)
    (hm : k.mark = [] ↔ k'.mark = []) (h : k.mark ++ r = k'.mark ++ r') :
    k.mark = k'.mark ∧ r = r' := by
  by_cases hk : k.mark = []
  · rw [hk, hm.mp hk] at h ⊢
    exact ⟨rfl, h⟩
  have hk' := fun hk' => hk (hm.mpr hk')
  cases k <;> cases k' <;> simp [type] at ht
  case tag.tag o o' =>
    rw [mark_tag_inj]
    obtain ⟨s, hs⟩ : ∃ s, o.separator = some s := by
      cases hs : o.separator <;> simp [mark, hs, Command.text, Command.part] at hk ⊢
    obtain ⟨s', hs'⟩ : ∃ s, o'.separator = some s := by
      cases hs' : o'.separator <;> simp [mark, hs', Command.text, Command.part] at hk' ⊢
    simpa [mark, hs, hs', Command.text, Command.part] using h
  case geoshape.geoshape a b => simpa [mark, mark_geoshape_inj] using h
  case vector.vector o o' =>
    rw [mark_vector, mark_vector, Item.tokens_append_inj] at h
    exact ⟨by rw [mark_vector, mark_vector, h.1], h.2⟩
  all_goals exact absurd rfl hk

end FieldKind

namespace Field

theorem head_eq_of_row_cons_eq {f g : Field} {fs gs : List Field}
    (h : row (f :: fs) = row (g :: gs)) : f.name = g.name ∧ f.asName = g.asName ∧
      f.type = g.type ∧ f.kind.options ++ row fs = g.kind.options ++ row gs := by
  rw [row_cons, row_cons, List.cons.injEq, Token.ofString_inj] at h
  obtain ⟨hname, h⟩ := h
  have hkeyword : ∀ a : FieldType, "AS" ≠ a.keyword := fun a => by cases a <;> decide
  obtain ⟨fname, _ | x, k⟩ := f <;> obtain ⟨gname, _ | y, k'⟩ := g <;>
    simp only [afterName_mk_none, afterName_mk_some, List.cons_append, List.cons.injEq,
      Token.ofString_inj, FieldType.keyword_inj] at h
  · exact ⟨hname, rfl, h⟩
  · exact absurd h.1.symm (hkeyword _)
  · exact absurd h.1 (hkeyword _)
  · exact ⟨hname, congrArg some h.2.1, h.2.2⟩

theorem mark_eq_nil_of_settled {f g : Field} {fs gs : List Field} (hf : Settled (f :: fs))
    (ht : f.type = g.type) (h : f.kind.options ++ row fs = g.kind.options ++ row gs)
    (hg : g.kind.mark = []) : f.kind.mark = [] := by
  refine Classical.byContradiction fun hmark => ?_
  obtain ⟨o, o', s, hfk, hgk, hs, hs'⟩ := FieldKind.exists_tags_of_mark ht hmark hg
  rw [hfk, hgk] at h
  rcases hides_of_options_append_eq hfk hs hs' h with ⟨k, hk⟩ | ⟨d, hd, hhides⟩
  · rw [hf.1] at hk
    cases hk
  · exact hf.2.1 d hd hhides

/-- **Settled fields are determined by their tokens.** -/
theorem view_eq_of_row_eq {fs gs : List Field} (hfs : Settled fs) (hgs : Settled gs)
    (h : row fs = row gs) : fs.map view = gs.map view := by
  induction fs generalizing gs with
  | nil =>
    cases gs with
    | nil => rfl
    | cons g gs => cases h
  | cons f fs ih =>
    cases gs with
    | nil => cases h
    | cons g gs =>
      obtain ⟨hname, has, htype, hoptions⟩ := head_eq_of_row_cons_eq h
      have hmark : f.kind.mark = [] ↔ g.kind.mark = [] :=
        ⟨mark_eq_nil_of_settled hgs htype.symm hoptions.symm,
          mark_eq_nil_of_settled hfs htype hoptions⟩
      rw [FieldKind.options_eq, FieldKind.options_eq, List.append_assoc, List.append_assoc]
        at hoptions
      obtain ⟨hmark, hplain⟩ := FieldKind.mark_append_inj htype hmark hoptions
      obtain ⟨hvalues, hrow⟩ := PlainOptions.splits.eq_of_append (.row _ fs) (.row _ gs) hplain
      rw [List.map_cons, List.map_cons, ih hfs.2.2 hgs.2.2 hrow,
        view_eq_iff.mpr ⟨hname, has, htype, hmark, hvalues⟩]

theorem row_eq_iff {fs gs : List Field} :
    row fs = row gs ↔ (unseparated fs).map view = (unseparated gs).map view := by
  constructor
  · intro h
    rw [← row_unseparated fs, ← row_unseparated gs] at h
    exact view_eq_of_row_eq (settled_unseparated fs) (settled_unseparated gs) h
  · intro h
    rw [← row_unseparated fs, ← row_unseparated gs, row_eq_of_view_eq h]

/-! ## Separators that are clear -/

/-- The separators that may be part of a field named `SEPARATOR`. -/
def unclear : List String := ["AS", "TEXT", "TAG", "NUMERIC", "GEO"]

/-- The separator of a tag field, if the field has one, cannot be part of another field. -/
def Clear (f : Field) : Prop := ∀ s ∈ f.separator?, s ∉ unclear

instance (f : Field) : Decidable f.Clear :=
  inferInstanceAs (Decidable (∀ s ∈ f.separator?, s ∉ unclear))

theorem Clear.hidden?_eq_none {f : Field} (h : f.Clear) : f.hidden? = none := by
  cases hk : f.hidden? with
  | none => rfl
  | some k =>
    obtain ⟨o, a, hf, hs, hunder⟩ := hidden?_eq_some_iff.mp hk
    have hseparator : f.separator? = some a.keyword := by rwa [separator?, hf]
    have hclear := h _ hseparator
    cases a with
    | geoshape => cases hunder
    | vector => cases hunder
    | _ => exact absurd (by decide) hclear

theorem Clear.not_hidesAs {f : Field} (h : f.Clear) (d : Field) : ¬ f.HidesAs d := by
  rintro ⟨hf, -⟩
  have hseparator : f.separator? = some "AS" := by rw [separator?, hf]
  exact h _ hseparator (by decide)

theorem unseparatedFrom_eq_cons {f : Field} {fs : List Field} (hf : f.Clear)
    (hfs : ∀ d ∈ fs, d.Clear) : unseparatedFrom f fs = f :: fs := by
  induction fs generalizing f with
  | nil => rw [unseparatedFrom, apart, hf.hidden?_eq_none]
  | cons d fs ih =>
    obtain ⟨hd, hfs⟩ := List.forall_mem_cons.mp hfs
    rw [unseparatedFrom, if_neg (hf.not_hidesAs d), apart, hf.hidden?_eq_none, ih hd hfs]
    rfl

theorem unseparated_eq_self {fs : List Field} (h : ∀ f ∈ fs, f.Clear) : unseparated fs = fs := by
  cases fs with
  | nil => rfl
  | cons f fs =>
    obtain ⟨hf, hfs⟩ := List.forall_mem_cons.mp h
    exact unseparatedFrom_eq_cons hf hfs

end Field

/-! ## Schemas -/

namespace Schema

theorem tokens_eq_row (s : Schema) : s.tokens = ("SCHEMA" : Token) :: Field.row s.fields := rfl

/-- **The tokens of a schema determine its fields** up to the separators that may be names of
fields. If all separators are clear, they determine the fields. -/
theorem tokens_eq_iff (s s' : Schema) :
    (s.tokens = s'.tokens ↔ (Field.unseparated s.fields).map Field.view =
        (Field.unseparated s'.fields).map Field.view) ∧
      ((∀ f ∈ s.fields ++ s'.fields, f.Clear) →
        (s.tokens = s'.tokens ↔ s.fields.map Field.view = s'.fields.map Field.view)) := by
  have hrow : s.tokens = s'.tokens ↔ Field.row s.fields = Field.row s'.fields := by
    rw [tokens_eq_row, tokens_eq_row, List.cons.injEq, and_iff_right rfl]
  rw [hrow, Field.row_eq_iff]
  refine ⟨Iff.rfl, fun hclear => ?_⟩
  rw [Field.unseparated_eq_self fun f hf => hclear f (List.mem_append_left _ hf),
    Field.unseparated_eq_self fun f hf => hclear f (List.mem_append_right _ hf)]

/-- An option and a field with the name of an option. -/
theorem tokens_eq_iff_sortable :
    let option : Schema := ⟨[⟨"title", none, .text { sortable := true }⟩, ⟨"TEXT", none, .geo {}⟩]⟩
    let name : Schema := ⟨[⟨"title", none, .text {}⟩, ⟨"SORTABLE", none, .text {}⟩]⟩
    (∀ f ∈ option.fields ++ name.fields, f.Clear) ∧
      (option.tokens = name.tokens ↔ option.fields.map Field.view = name.fields.map Field.view) :=
  ⟨by decide, (tokens_eq_iff _ _).2 (by decide)⟩

/-- A tag with the separator `TEXT` is written like a tag and a text named `SEPARATOR`. -/
theorem not_view_eq_of_tokens_eq : ¬ ∀ s s' : Schema, s.tokens = s'.tokens →
    s.fields.length = s'.fields.length ∧ s.fields.map Field.view = s'.fields.map Field.view := by
  intro h
  have hlength := (h ⟨[⟨"colors", none, .tag { separator := some "TEXT" }⟩]⟩
    ⟨[⟨"colors", none, .tag {}⟩, ⟨"SEPARATOR", none, .text {}⟩]⟩ rfl).1
  cases hlength

end Schema

end SearchWire
