import SearchWire.Proofs.Command.Codec
import SearchWire.Proofs.Number.Writing
import SearchWire.Schema

/-!
# Fields one after another

The fields of a schema stand one after another with nothing between them, and a field may have any
name, also that of an option. Still the options of a field end where they were meant to end: after
the name of a field stands one of a few words, and a reading that is off by one token finds a name
where it needs such a word, and so on to the end of the schema.

* `Leads`: the words at the front of a part that may be empty;
* `PlainOptions`, `FieldKind.mark`, `FieldKind.options_eq`: the options of a field as a part of its
  own kind and a part that is alike for all kinds;
* `Field.heads`, `Field.afterName`: what stands after the name of a field;
  **`Field.ne_afterName_append_row`**: two readings that are off by a name never meet again;
* `Trails`, `Splits`: where a part of the options ends; `splits_flag`, `splits_text`,
  `Splits.append`, **`PlainOptions.splits`**.
-/

namespace SearchWire

open Command

/-! ## The front of a part -/

/-- A part that is empty or begins with one of some words. -/
def Leads (ws : List String) (c : Command) : Prop := c = [] ∨ BeginsWith ws c

namespace Leads

variable {us vs : List String} {c d : Command}

theorem append (hc : Leads us c) (hd : Leads vs d) : Leads (us ++ vs) (c ++ d) := by
  rcases hc with rfl | hc
  · exact hd.imp_right fun hd => hd.mono fun _ => List.mem_append_right _
  · exact .inr ((hc.append d).mono fun _ => List.mem_append_left _)

theorem not_beginsWith (hc : Leads vs c) (huv : ∀ w ∈ us, w ∉ vs) : ¬ BeginsWith us c := by
  rcases hc with rfl | hc
  · exact not_beginsWith_nil us
  · exact hc.disjoint huv

theorem flag (w : String) (on : Bool) : Leads [w] (Command.flag w on) := (Block.flag w).begins on

theorem text (w : String) (s : Option String) : Leads [w] (Command.text w s) :=
  (Block.text w).begins s

theorem head (w : String) {ws : List String} (hw : w ∈ ws) (c : Command) :
    Leads ws ((w : Token) :: c) := .inr (beginsWith_cons hw c)

end Leads

/-! ## The words of a field -/

namespace FieldType

def keywords : Keywords FieldType :=
  ⟨keyword, [text, tag, numeric, geo, geoshape, vector], fun a => by cases a <;> decide⟩

theorem keyword_inj {a b : FieldType} : a.keyword = b.keyword ↔ a = b := by
  cases a <;> cases b <;> decide

/-- The type of a word. -/
def ofKeyword? (s : String) : Option FieldType := keywords.all.find? fun a => a.keyword == s

theorem ofKeyword?_eq_some_iff {s : String} {a : FieldType} :
    ofKeyword? s = some a ↔ s = a.keyword := by
  constructor
  · intro h
    have hfound := List.find?_some h
    exact (eq_of_beq hfound).symm
  · rintro rfl
    exact keywords.find_keyword a

end FieldType

theorem Phonetic.code_injective : Function.Injective Phonetic.code := by
  intro a b h
  cases a <;> cases b <;> simp [code] at h ⊢

/-- The options that several kinds share or that are written like shared ones: single words, and
words before a number or a name. -/
structure PlainOptions where
  noStem : Bool := false
  weight : Option Binary64 := none
  phonetic : Option Phonetic := none
  caseSensitive : Bool := false
  flags : FieldFlags := {}

def PlainOptions.tokens (o : PlainOptions) : Command :=
  Command.flag "NOSTEM" o.noStem ++ (Command.text "WEIGHT" (o.weight.map Token.realText) ++
    (Command.text "PHONETIC" (o.phonetic.map Phonetic.code) ++
      (Command.flag "CASESENSITIVE" o.caseSensitive ++ o.flags.tokens)))

namespace FieldKind

/-- The options of a kind. -/
def options (k : FieldKind) : Command := k.ownTokens ++ k.flags.tokens

/-- The options that stand before the plain ones: the separator of tags, the coordinate system of
shapes, and the algorithm of vectors with its attributes. -/
def mark : FieldKind → Command
  | tag o => Command.text "SEPARATOR" o.separator
  | geoshape system => [system.keyword]
  | vector o => Command.table o.algorithm.keyword (o.attributes.map fun p => (p.1, p.2))
  | _ => []

/-- The plain options of a kind. -/
def plain (k : FieldKind) : PlainOptions :=
  match k with
  | text o => ⟨o.noStem, o.weight, o.phonetic, false, k.flags⟩
  | tag o => { caseSensitive := o.caseSensitive, flags := k.flags }
  | _ => { flags := k.flags }

theorem options_eq (k : FieldKind) : k.options = k.mark ++ k.plain.tokens := by
  cases k with
  | text o => cases h : o.weight <;> simp [options, ownTokens, mark, plain, PlainOptions.tokens,
      Command.flag, Command.text, Command.real, Command.part, Token.ofReal, h]
  | tag o => exact List.append_assoc ..
  | _ => rfl

end FieldKind

namespace Field

/-- The words that can stand after the name of a field. -/
def heads : List String := "AS" :: FieldType.keywords.all.map FieldType.keyword

theorem keyword_mem_heads (a : FieldType) : a.keyword ∈ heads := by cases a <;> decide

theorem exists_letter {w : String} (hw : w ∈ heads) :
    ∃ c ∈ w.toList, c.isDigit = false ∧ c ∉ Token.realMarks := by
  have hall : heads.all (fun w => w.toList.any fun c =>
      !c.isDigit && !Token.realMarks.contains c) = true := rfl
  obtain ⟨c, hc, h⟩ := List.any_eq_true.mp (List.all_eq_true.mp hall w hw)
  refine ⟨c, hc, ?_⟩
  simpa using h

/-- A field without its name. -/
def afterName (f : Field) : Command :=
  Command.text "AS" f.asName ++ ((f.type.keyword : Token) :: f.kind.options)

theorem afterName_mk_none (name : String) (k : FieldKind) :
    (⟨name, none, k⟩ : Field).afterName = (k.type.keyword : Token) :: k.options := rfl

theorem afterName_mk_some (name asName : String) (k : FieldKind) :
    (⟨name, some asName, k⟩ : Field).afterName =
      ("AS" : Token) :: (asName : Token) :: (k.type.keyword : Token) :: k.options := rfl

theorem beginsWith_afterName (f : Field) (c : Command) : BeginsWith heads (f.afterName ++ c) := by
  obtain ⟨name, _ | asName, k⟩ := f
  · exact beginsWith_cons (keyword_mem_heads k.type) _
  · exact beginsWith_cons List.mem_cons_self _

def row (fs : List Field) : Command := fs.flatMap tokens

theorem row_cons (f : Field) (fs : List Field) :
    row (f :: fs) = (f.name : Token) :: (f.afterName ++ row fs) := rfl

end Field

/-! ## No option is a word that stands after a name -/

theorem FieldFlags.leads (f : FieldFlags) :
    Leads ["NOINDEX", "INDEXMISSING", "INDEXEMPTY", "SORTABLE", "WITHSUFFIXTRIE"] f.tokens :=
  ((((Leads.flag _ f.noIndex).append (Leads.flag _ f.indexMissing)).append
    (Leads.flag _ f.indexEmpty)).append (Leads.flag _ f.sortable)).append
    (Leads.flag _ f.suffixTrie)

def PlainOptions.words : List String :=
  ["NOSTEM", "WEIGHT", "PHONETIC", "CASESENSITIVE", "NOINDEX", "INDEXMISSING", "INDEXEMPTY",
    "SORTABLE", "WITHSUFFIXTRIE"]

theorem PlainOptions.leads (o : PlainOptions) : Leads words o.tokens :=
  (Leads.flag _ o.noStem).append <| (Leads.text _ (o.weight.map Token.realText)).append <|
    (Leads.text _ (o.phonetic.map Phonetic.code)).append <|
      (Leads.flag _ o.caseSensitive).append o.flags.leads

/-- The words at the front of marks. -/
def FieldKind.markWords : List String := ["SEPARATOR", "FLAT", "SPHERICAL", "HNSW", "SVS-VAMANA"]

theorem FieldKind.leads_mark (k : FieldKind) : Leads markWords k.mark := by
  cases k with
  | tag o => exact (Leads.text _ o.separator).imp_right fun h => h.mono (by decide)
  | geoshape system => cases system <;> exact .head _ (by decide) _
  | vector o =>
    have hkeyword : o.algorithm.keyword ∈ markWords := by cases o.algorithm <;> decide
    exact .head _ hkeyword _
  | _ => exact .inl rfl

theorem FieldKind.not_beginsWith_options (k : FieldKind) : ¬ BeginsWith Field.heads k.options := by
  rw [options_eq]
  exact (k.leads_mark.append k.plain.leads).not_beginsWith (by decide)

/-! ## Readings that are off by a name -/

/-- **Two readings that are off by a name never meet again.** What is left of the options of a
field, with more fields after it, is never what stands after the name of a field. -/
theorem Field.ne_afterName_append_row {opts : Command} (hopts : ¬ BeginsWith heads opts)
    (fs : List Field) (g : Field) (gs : List Field) :
    opts ++ row fs ≠ g.afterName ++ row gs := by
  intro h
  have hhead := g.beginsWith_afterName (row gs)
  rw [← h] at hhead
  -- The options are used up, and the name of the next field is the word that is needed. So one
  -- reading is again behind the name of a field, where the other one stands behind its type.
  cases opts with
  | cons t opts => exact hopts hhead
  | nil =>
    cases fs with
    | nil => exact not_beginsWith_nil _ hhead
    | cons f fs =>
      rw [List.nil_append, row_cons] at h
      obtain ⟨gname, _ | gas, gk⟩ := g
      · rw [afterName_mk_none, List.cons_append, List.cons.injEq] at h
        exact ne_afterName_append_row gk.not_beginsWith_options gs f fs h.2.symm
      · obtain ⟨fname, _ | fas, fk⟩ := f
        · simp only [afterName_mk_none, afterName_mk_some, List.cons_append, List.cons.injEq] at h
          exact ne_afterName_append_row fk.not_beginsWith_options fs ⟨gname, none, gk⟩ gs h.2.2
        · simp only [afterName_mk_some, List.cons_append, List.cons.injEq] at h
          exact ne_afterName_append_row gk.not_beginsWith_options gs ⟨fname, none, fk⟩ fs
            h.2.2.2.symm
termination_by fs.length + gs.length

/-! ## Where a part ends -/

/-- What can stand after a part of the options that begins with one of the words: more options and
more fields. The options begin neither with a word of the part nor with one that stands after a
name. -/
def Trails (ws : List String) (r : Command) : Prop :=
  ∃ opts fs, ¬ BeginsWith (ws ++ Field.heads) opts ∧ r = opts ++ Field.row fs

namespace Trails

variable {us vs ws : List String} {r : Command}

theorem row (ws : List String) (fs : List Field) : Trails ws (Field.row fs) :=
  ⟨[], fs, not_beginsWith_nil _, rfl⟩

theorem mono (h : Trails vs r) (huv : ∀ w ∈ us, w ∈ vs) : Trails us r := by
  obtain ⟨opts, fs, ho, rfl⟩ := h
  refine ⟨opts, fs, fun hb => ho (hb.mono fun w hw => ?_), rfl⟩
  exact List.mem_append.mpr ((List.mem_append.mp hw).imp_left (huv w))

theorem append {c : Command} (hc : Leads vs c) (hcu : ∀ w ∈ us ++ Field.heads, w ∉ vs)
    (h : Trails us r) : Trails us (c ++ r) := by
  obtain ⟨opts, fs, ho, rfl⟩ := h
  refine ⟨c ++ opts, fs, ?_, (List.append_assoc ..).symm⟩
  rcases hc with rfl | hc
  · exact ho
  · exact (hc.append opts).disjoint hcu

/-- Nothing begins with a word that stands after a name if it begins with another text. -/
theorem cons {s : String} (hs : s ∉ Field.heads) (opts : Command) (fs : List Field) :
    Trails [] ((s : Token) :: (opts ++ Field.row fs)) := by
  refine ⟨(s : Token) :: opts, fs, ?_, rfl⟩
  exact (beginsWith_cons (List.mem_singleton_self s) opts).disjoint fun w hw hws =>
    hs (List.mem_singleton.mp hws ▸ hw)

theorem ne_afterName (h : Trails ws r) (g : Field) (gs : List Field) :
    r ≠ g.afterName ++ Field.row gs := by
  obtain ⟨opts, fs, ho, rfl⟩ := h
  exact Field.ne_afterName_append_row (not_beginsWith_append.mp ho).2 fs g gs

/-- A word that cannot be an option any more is the name of a field. -/
theorem exists_row {w : String} {c : Command} (h : Trails ws r) (hw : w ∈ ws)
    (hr : (w : Token) :: c = r) :
    ∃ g gs, g.name = w ∧ r = Field.row (g :: gs) ∧ c = g.afterName ++ Field.row gs := by
  obtain ⟨opts, fs, ho, rfl⟩ := h
  cases opts with
  | cons t opts =>
    rw [List.cons_append, List.cons.injEq] at hr
    exact absurd (hr.1 ▸ beginsWith_cons (List.mem_append_left _ hw) opts) ho
  | nil =>
    cases fs with
    | nil => cases hr
    | cons g gs =>
      rw [List.nil_append, Field.row_cons, List.cons.injEq, Token.ofString_inj] at hr
      exact ⟨g, gs, hr.1.symm, rfl, hr.2⟩

/-- A word that is an option in one reading is one in every reading, unless a word that stands
after a name comes next. -/
theorem cons_ne {w : String} {c : Command} (hc : Trails us c) (h : Trails ws r) (hw : w ∈ ws) :
    (w : Token) :: c ≠ r := by
  intro hr
  obtain ⟨g, gs, -, -, hg⟩ := h.exists_row hw hr
  exact hc.ne_afterName g gs hg

end Trails

/-- A part of the options whose end can be found: what the part says and what comes after it are
determined by the tokens of both. -/
structure Splits {α β : Type} (ws : List String) (f : α → Command) (v : α → β) : Prop where
  leads : ∀ a, Leads ws (f a)
  eq_of_append : ∀ {a b : α} {r r' : Command}, Trails ws r → Trails ws r' →
    f a ++ r = f b ++ r' → v a = v b ∧ r = r'

section Splits

variable {α β γ : Type}

theorem splits_flag (w : String) (on : α → Bool) :
    Splits [w] (fun a => Command.flag w (on a)) on where
  leads a := .flag w (on a)
  eq_of_append {a b r r'} hr hr' h := by
    cases ha : on a <;> cases hb : on b <;> simp only [ha, hb, Command.flag] at h
    · exact ⟨rfl, h⟩
    · exact absurd h.symm (hr'.cons_ne hr List.mem_cons_self)
    · exact absurd h (hr.cons_ne hr' List.mem_cons_self)
    · exact ⟨rfl, (List.cons.inj h).2⟩

theorem splits_text (w : String) (s : α → Option String) (hs : ∀ a, ∀ x ∈ s a, x ∉ Field.heads) :
    Splits [w] (fun a => Command.text w (s a)) s where
  leads a := .text w (s a)
  eq_of_append {a b r r'} hr hr' h := by
    have hcons : ∀ {a x r}, s a = some x → Trails [w] r → Trails [] ((x : Token) :: r) := by
      rintro a x _ ha ⟨opts, fs, -, rfl⟩
      exact .cons (hs a x ha) opts fs
    cases ha : s a with
    | none =>
      cases hb : s b with
      | none =>
        simp only [ha, hb] at h
        exact ⟨rfl, h⟩
      | some y =>
        simp only [ha, hb] at h
        exact absurd h.symm ((hcons hb hr').cons_ne hr List.mem_cons_self)
    | some x =>
      cases hb : s b with
      | none =>
        simp only [ha, hb] at h
        exact absurd h ((hcons ha hr).cons_ne hr' List.mem_cons_self)
      | some y =>
        simp only [ha, hb] at h
        obtain ⟨-, hxy⟩ := List.cons.inj h
        obtain ⟨hx, hr⟩ := List.cons.inj hxy
        exact ⟨congrArg some (Token.ofString_inj.mp hx), hr⟩

theorem Splits.append {us vs : List String} {f g : α → Command} {v : α → β} {v' : α → γ}
    (hf : Splits us f v) (hg : Splits vs g v')
    (huv : ∀ w ∈ us ++ Field.heads, w ∉ vs := by decide) :
    Splits (us ++ vs) (fun a => f a ++ g a) fun a => (v a, v' a) where
  leads a := (hf.leads a).append (hg.leads a)
  eq_of_append {a b r r'} hr hr' h := by
    have hmiddle : ∀ {a r}, Trails (us ++ vs) r → Trails us (g a ++ r) := fun hr =>
      .append (hg.leads _) huv (hr.mono fun _ => List.mem_append_left _)
    rw [List.append_assoc, List.append_assoc] at h
    obtain ⟨hv, hrest⟩ := hf.eq_of_append (hmiddle hr) (hmiddle hr') h
    obtain ⟨hv', hr⟩ := hg.eq_of_append (hr.mono fun _ => List.mem_append_right _)
      (hr'.mono fun _ => List.mem_append_right _) hrest
    exact ⟨Prod.ext hv hv', hr⟩

theorem Splits.imp {ws : List String} {f : α → Command} {v : α → β} {v' : α → γ}
    (hf : Splits ws f v) (hv : ∀ a b, v a = v b → v' a = v' b) : Splits ws f v' where
  leads := hf.leads
  eq_of_append {a b _ _} hr hr' h := (hf.eq_of_append hr hr' h).imp_left (hv a b)

theorem Splits.comap {ws : List String} {f : α → Command} {v : α → β} (hf : Splits ws f v)
    (p : γ → α) : Splits ws (fun c => f (p c)) fun c => v (p c) where
  leads c := hf.leads (p c)
  eq_of_append := hf.eq_of_append

end Splits

theorem FieldFlags.splits :
    Splits ["NOINDEX", "INDEXMISSING", "INDEXEMPTY", "SORTABLE", "WITHSUFFIXTRIE"]
      FieldFlags.tokens id :=
  (((((splits_flag "NOINDEX" noIndex).append (splits_flag "INDEXMISSING" indexMissing)).append
    (splits_flag "INDEXEMPTY" indexEmpty)).append (splits_flag "SORTABLE" sortable)).append
    (splits_flag "WITHSUFFIXTRIE" suffixTrie)).imp fun a b h => by
      cases a
      cases b
      simp_all

namespace PlainOptions

/-- What plain options say; the weight is the text of a number. -/
def values (o : PlainOptions) : Bool × Option String × Option Phonetic × Bool × FieldFlags :=
  (o.noStem, o.weight.map Token.realText, o.phonetic, o.caseSensitive, o.flags)

theorem realText_notMem_heads (x : Binary64) : Token.realText x ∉ Field.heads := by
  intro hx
  obtain ⟨c, hc, hdigit, hmark⟩ := Field.exists_letter hx
  rcases Token.mem_realText hc with h | h
  · rw [hdigit] at h
    cases h
  · exact hmark h

theorem splits_weight :
    Splits ["WEIGHT"] (fun o : PlainOptions => Command.text "WEIGHT" (o.weight.map Token.realText))
      fun o => o.weight.map Token.realText := by
  refine splits_text "WEIGHT" _ fun o s hs => ?_
  obtain ⟨x, -, rfl⟩ := Option.map_eq_some_iff.mp hs
  exact realText_notMem_heads x

theorem splits_phonetic : Splits ["PHONETIC"]
    (fun o : PlainOptions => Command.text "PHONETIC" (o.phonetic.map Phonetic.code)) phonetic := by
  refine (splits_text "PHONETIC" _ fun o s hs => ?_).imp fun a b h =>
    Option.map_injective Phonetic.code_injective h
  obtain ⟨p, -, rfl⟩ := Option.map_eq_some_iff.mp hs
  cases p <;> decide

/-- **The plain options of a field end where they were meant to end,** whatever the fields after it
are called. -/
theorem splits : Splits words tokens values :=
  (splits_flag "NOSTEM" noStem).append <| splits_weight.append <| splits_phonetic.append <|
    (splits_flag "CASESENSITIVE" caseSensitive).append (FieldFlags.splits.comap flags)

end PlainOptions

end SearchWire
