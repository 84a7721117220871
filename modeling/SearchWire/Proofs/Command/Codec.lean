import SearchWire.Command
import SearchWire.Proofs.Number.Natural

/-!
# Codecs of commands

A codec writes a value as tokens and reads it back from the front of a command. Reading stops where
the value stops, unless a word follows that would still be read as a part of it (`stops`). Blocks
and clauses tell the words they begin with (`leads`), so they may follow a codec whose stops are
none of these.

* `BeginsWith`: the word at the front of a command;
* `Codec`, `Block`, `Clause`, `Item`, with `Codec.read_append` as their law; **`Codec.tokens_inj`**;
* `Item.text`, `Item.number`, `Item.counted`, `Item.members`: what can stand anywhere;
* `Clause.word`, `Clause.either`, `Clause.optional`, `Clause.many`, `Keywords.clause`;
* `Block.andThen`, `Block.flag`, `Block.listing`, `Block.params`.
-/

namespace SearchWire.Command

/-! ## The front of a command -/

/-- The first token is one of the words. -/
def BeginsWith (words : List String) (c : Command) : Prop :=
  ∃ w ∈ words, c.head? = some (Token.ofString w)

instance (words : List String) (c : Command) : Decidable (BeginsWith words c) :=
  inferInstanceAs (Decidable (∃ w ∈ words, c.head? = some (Token.ofString w)))

theorem not_beginsWith_nil (words : List String) : ¬ BeginsWith words [] := by
  rintro ⟨w, _, hw⟩
  cases hw

theorem beginsWith_cons {words : List String} {w : String} (hw : w ∈ words) (c : Command) :
    BeginsWith words (Token.ofString w :: c) := ⟨w, hw, rfl⟩

theorem BeginsWith.append {words : List String} {c : Command} (h : BeginsWith words c)
    (d : Command) : BeginsWith words (c ++ d) := by
  obtain ⟨w, hw, hc⟩ := h
  exact ⟨w, hw, by rw [List.head?_append, hc, Option.some_or]⟩

theorem BeginsWith.mono {us vs : List String} {c : Command} (h : BeginsWith us c)
    (huv : ∀ w ∈ us, w ∈ vs) : BeginsWith vs c := by
  obtain ⟨w, hw, hc⟩ := h
  exact ⟨w, huv w hw, hc⟩

theorem BeginsWith.disjoint {us vs : List String} {c : Command} (h : BeginsWith vs c)
    (huv : ∀ w ∈ us, w ∉ vs) : ¬ BeginsWith us c := by
  rintro ⟨u, hu, hcu⟩
  obtain ⟨v, hv, hcv⟩ := h
  rw [hcu, Option.some.injEq, Token.ofString_inj] at hcv
  subst hcv
  exact huv u hu hv

theorem not_beginsWith_append {us vs : List String} {c : Command} :
    ¬ BeginsWith (us ++ vs) c ↔ ¬ BeginsWith us c ∧ ¬ BeginsWith vs c := by
  simp only [BeginsWith, List.mem_append, or_and_right, exists_or, not_or]

/-! ## Codecs -/

/-- A writer of values and a reader of the front of a command. -/
structure Codec (α : Type) where
  tokens : α → Command
  /-- The value at the front of a command, and the tokens after it. -/
  read : Command → Option (α × Command)
  /-- Words that would be read as a part of the value before them. -/
  stops : List String
  read_append : ∀ a rest, ¬ BeginsWith stops rest → read (tokens a ++ rest) = some (a, rest)

/-- A codec whose tokens, if there are any, begin with one of some words. -/
structure Block (α : Type) extends Codec α where
  leads : List String
  begins : ∀ a, tokens a = [] ∨ BeginsWith leads (tokens a)

/-- A block that is never empty. -/
structure Clause (α : Type) extends Block α where
  nonempty : ∀ a, tokens a ≠ []

/-- A codec that ends in itself, whatever follows. -/
structure Item (α : Type) extends Codec α where
  stops_eq_nil : stops = []

instance {α : Type} : CoeOut (Item α) (Codec α) := ⟨Item.toCodec⟩

/-- After a codec that stops before the leads of a block, the block can stand. -/
theorem Block.not_beginsWith_tokens_append {α : Type} (B : Block α) {words : List String} (b : α)
    {rest : Command} (hw : ∀ w ∈ words, w ∉ B.leads) (hr : ¬ BeginsWith words rest) :
    ¬ BeginsWith words (B.tokens b ++ rest) := by
  rcases B.begins b with hb | hb
  · rwa [hb, List.nil_append]
  · exact (hb.append rest).disjoint hw

theorem Clause.beginsWith_append {α : Type} (A : Clause α) (a : α) (rest : Command) :
    BeginsWith A.leads (A.tokens a ++ rest) :=
  ((A.begins a).resolve_left (A.nonempty a)).append rest

namespace Codec

variable {α β : Type}

/-- The value of a whole command. -/
def readAll (A : Codec α) (c : Command) : Option α :=
  (A.read c).bind fun p => if p.2 = [] then some p.1 else none

@[simp] theorem readAll_tokens (A : Codec α) (a : α) : A.readAll (A.tokens a) = some a := by
  have h := A.read_append a [] (not_beginsWith_nil _)
  rw [List.append_nil] at h
  rw [readAll, h, Option.bind_some, if_pos rfl]

/-- **The tokens of a value determine it.** -/
theorem tokens_inj (A : Codec α) {a b : α} : A.tokens a = A.tokens b ↔ a = b := by
  constructor
  · intro h
    have hr := congrArg A.readAll h
    rw [readAll_tokens, readAll_tokens] at hr
    exact Option.some.inj hr
  · rintro rfl
    rfl

/-- Values that can be told from values of another codec. -/
def convert (A : Codec α) (f : β → α) (g : α → Option β) (h : ∀ b, g (f b) = some b) :
    Codec β where
  tokens b := A.tokens (f b)
  read c := (A.read c).bind fun p => (g p.1).map fun b => (b, p.2)
  stops := A.stops
  read_append b rest hr := by
    rw [A.read_append (f b) rest hr, Option.bind_some, h, Option.map_some]

/-- A value and a block after it. -/
def andThen (A : Codec α) (B : Block β) (h : ∀ w ∈ A.stops, w ∉ B.leads := by decide) :
    Codec (α × β) where
  tokens p := A.tokens p.1 ++ B.tokens p.2
  read c := (A.read c).bind fun p => (B.read p.2).map fun q => ((p.1, q.1), q.2)
  stops := A.stops ++ B.stops
  read_append p rest hr := by
    obtain ⟨hA, hB⟩ := not_beginsWith_append.mp hr
    rw [List.append_assoc, A.read_append p.1 _ (B.not_beginsWith_tokens_append p.2 h hA),
      Option.bind_some, B.read_append p.2 rest hB, Option.map_some]

end Codec

/-! ## Items -/

namespace Item

variable {α β : Type}

theorem read_tokens_append (A : Item α) (a : α) (rest : Command) :
    A.read (A.tokens a ++ rest) = some (a, rest) := by
  apply A.read_append
  rw [A.stops_eq_nil]
  rintro ⟨w, hw, _⟩
  cases hw

/-- An item and what stands after it are determined by the tokens of both. -/
theorem tokens_append_inj (A : Item α) {a b : α} {c d : Command} :
    A.tokens a ++ c = A.tokens b ++ d ↔ a = b ∧ c = d := by
  constructor
  · intro h
    have hread := congrArg A.read h
    rw [read_tokens_append, read_tokens_append, Option.some.injEq, Prod.mk.injEq] at hread
    exact hread
  · rintro ⟨rfl, rfl⟩
    rfl

/-- The item of a writer and a reader that takes back what was written. -/
def ofRead (tokens : α → Command) (read : Command → Option (α × Command))
    (h : ∀ a rest, read (tokens a ++ rest) = some (a, rest)) : Item α where
  tokens := tokens
  read := read
  stops := []
  read_append a rest _ := h a rest
  stops_eq_nil := rfl

/-- The first token. -/
def readToken : Command → Option (Token × Command)
  | [] => none
  | t :: rest => some (t, rest)

/-- Any one token. -/
def token : Item Token := ofRead ([·]) readToken fun _ _ => rfl

/-- Values that can be told from values of another item. -/
def convert (A : Item α) (f : β → α) (g : α → Option β) (h : ∀ b, g (f b) = some b) :
    Item β where
  toCodec := A.toCodec.convert f g h
  stops_eq_nil := A.stops_eq_nil

def text : Item String :=
  token.convert Token.ofString (fun t => some t.text) fun s => by rw [Token.text_ofString]

def number : Item Nat := token.convert Token.ofNat Token.natural? Token.natural?_ofNat

def pair (A : Item α) (B : Codec β) : Codec (α × β) where
  tokens p := A.tokens p.1 ++ B.tokens p.2
  read c := (A.read c).bind fun p => (B.read p.2).map fun q => ((p.1, q.1), q.2)
  stops := B.stops
  read_append p rest hr := by
    rw [List.append_assoc, A.read_tokens_append, Option.bind_some, B.read_append p.2 rest hr,
      Option.map_some]

def both (A : Item α) (B : Item β) : Item (α × β) where
  toCodec := A.pair B
  stops_eq_nil := B.stops_eq_nil

end Item

/-! ## Repetition -/

section Repetition

variable {α : Type}

/-- Values read one after another as long as `more` holds of what is left, at most `fuel` many. -/
def readWhile (more : Command → Prop) [DecidablePred more] (read : Command → Option (α × Command)) :
    Nat → Command → Option (List α × Command)
  | 0, c => some ([], c)
  | fuel + 1, c =>
    if more c then
      (read c).bind fun p => (readWhile more read fuel p.2).map fun q => (p.1 :: q.1, q.2)
    else some ([], c)

/-- Values written one after another are read one after another. -/
theorem readWhile_flatMap (A : Codec α) (more : Command → Prop) [DecidablePred more]
    (hmore : ∀ a c, more (A.tokens a ++ c)) {rest : Command} (hrest : ¬ more rest)
    (hstop : ∀ as : List α, ¬ BeginsWith A.stops (as.flatMap A.tokens ++ rest)) (as : List α) :
    ∀ fuel, as.length ≤ fuel →
      readWhile more A.read fuel (as.flatMap A.tokens ++ rest) = some (as, rest) := by
  induction as with
  | nil =>
    intro fuel _
    cases fuel with
    | zero => rfl
    | succ fuel => rw [List.flatMap_nil, List.nil_append, readWhile, if_neg hrest]
  | cons a as ih =>
    intro fuel hf
    cases fuel with
    | zero => exact absurd hf (Nat.not_succ_le_zero _)
    | succ fuel =>
      rw [List.flatMap_cons, List.append_assoc, readWhile, if_pos (hmore _ _),
        A.read_append a _ (hstop as), Option.bind_some, ih fuel (Nat.le_of_succ_le_succ hf),
        Option.map_some]

theorem length_le_length_flatMap {f : α → Command} (hf : ∀ a, f a ≠ []) (as : List α) :
    as.length ≤ (as.flatMap f).length := by
  induction as with
  | nil => exact Nat.zero_le _
  | cons a as ih =>
    have ha : 0 < (f a).length := List.length_pos_iff.mpr (hf a)
    rw [List.flatMap_cons, List.length_append, List.length_cons]
    omega

/-- The tokens after their number. -/
def readCounted (c : Command) : Option (Command × Command) :=
  (Item.number.read c).bind fun p =>
    if p.1 ≤ p.2.length then some (p.2.take p.1, p.2.drop p.1) else none

theorem readCounted_append (items rest : Command) :
    readCounted (counted items ++ rest) = some (items, rest) := by
  have hn : Item.number.read (counted items ++ rest) = some (items.length, items ++ rest) :=
    Item.number.read_tokens_append items.length (items ++ rest)
  rw [readCounted, hn, Option.bind_some, if_pos (by rw [List.length_append]; omega),
    List.take_left, List.drop_left]

namespace Item

/-- Any tokens after their number. -/
def counted : Item Command := ofRead Command.counted readCounted readCounted_append

/-- A value after the number of its tokens. -/
def within (A : Codec α) : Item α := counted.convert A.tokens A.readAll A.readAll_tokens

/-- The values that a command consists of. -/
def members (A : Item α) (c : Command) : Option (List α) :=
  (readWhile (· ≠ []) A.read c.length c).bind fun p => if p.2 = [] then some p.1 else none

theorem members_flatMap (A : Item α) (hne : ∀ a, A.tokens a ≠ []) (as : List α) :
    A.members (as.flatMap A.tokens) = some as := by
  have hstop : ∀ bs : List α, ¬ BeginsWith A.stops (bs.flatMap A.tokens ++ []) := by
    rintro bs ⟨w, hw, _⟩
    rw [A.stops_eq_nil] at hw
    cases hw
  have hr := readWhile_flatMap A.toCodec (· ≠ [])
    (fun a c hc => hne a (List.append_eq_nil_iff.mp hc).1) (fun h => h rfl) hstop as _
    (length_le_length_flatMap hne as)
  rw [List.append_nil] at hr
  rw [members, hr, Option.bind_some, if_pos rfl]

def entry : Item (String × Token) := text.both token

theorem members_entries (pairs : List (String × Token)) :
    entry.members (Command.entries pairs) = some pairs :=
  entry.members_flatMap (fun _ => List.cons_ne_nil _ _) pairs

theorem map_text_words (texts : List String) :
    some ((Command.words texts).map Token.text) = some texts := by
  have h : Token.text ∘ Token.ofString = id := funext Token.text_ofString
  rw [Command.words, List.map_map, h, List.map_id]

def words : Item (List String) :=
  counted.convert Command.words (fun c => some (c.map Token.text)) map_text_words

/-- Names and values in turn after the number of all of them. -/
def entries : Item (List (String × Token)) :=
  counted.convert Command.entries entry.members members_entries

end Item

end Repetition

/-! ## Clauses -/

namespace Clause

variable {α β : Type}

def word (w : String) (A : Codec α) : Clause α where
  tokens a := Token.ofString w :: A.tokens a
  read
    | [] => none
    | t :: rest => if t = Token.ofString w then A.read rest else none
  stops := A.stops
  read_append a rest hr := by
    rw [List.cons_append]
    exact (if_pos rfl).trans (A.read_append a rest hr)
  leads := [w]
  begins a := .inr (beginsWith_cons List.mem_cons_self _)
  nonempty _ := List.cons_ne_nil _ _

/-- Values that can be told from values of another clause. -/
def convert (A : Clause α) (f : β → α) (g : α → Option β) (h : ∀ b, g (f b) = some b) :
    Clause β where
  toCodec := A.toCodec.convert f g h
  leads := A.leads
  begins b := A.begins (f b)
  nonempty b := A.nonempty (f b)

/-- A clause and a block after it. -/
def andThen (A : Clause α) (B : Block β) (h : ∀ w ∈ A.stops, w ∉ B.leads := by decide) :
    Clause (α × β) where
  toCodec := A.toCodec.andThen B h
  leads := A.leads
  begins p := .inr (A.beginsWith_append p.1 _)
  nonempty p h := A.nonempty p.1 (List.append_eq_nil_iff.mp h).1

/-- A clause of one of two kinds. -/
def either (A : Clause α) (B : Clause β) (h : ∀ w ∈ A.leads, w ∉ B.leads := by decide) :
    Clause (α ⊕ β) where
  tokens := Sum.elim A.tokens B.tokens
  read c :=
    if BeginsWith A.leads c then (A.read c).map fun p => (.inl p.1, p.2)
    else (B.read c).map fun p => (.inr p.1, p.2)
  stops := A.stops ++ B.stops
  read_append s rest hr := by
    obtain ⟨hA, hB⟩ := not_beginsWith_append.mp hr
    cases s with
    | inl a =>
      rw [Sum.elim_inl, if_pos (A.beginsWith_append a rest), A.read_append a rest hA,
        Option.map_some]
    | inr b =>
      rw [Sum.elim_inr, if_neg ((B.beginsWith_append b rest).disjoint h),
        B.read_append b rest hB, Option.map_some]
  leads := A.leads ++ B.leads
  begins
    | .inl a => .inr (((A.begins a).resolve_left (A.nonempty a)).mono fun _ hw =>
        List.mem_append_left _ hw)
    | .inr b => .inr (((B.begins b).resolve_left (B.nonempty b)).mono fun _ hw =>
        List.mem_append_right _ hw)
  nonempty
    | .inl a => A.nonempty a
    | .inr b => B.nonempty b

/-- A clause that may be missing. -/
def optional (A : Clause α) : Block (Option α) where
  tokens := part A.tokens
  read c :=
    if BeginsWith A.leads c then (A.read c).map fun p => (some p.1, p.2) else some (none, c)
  stops := A.leads ++ A.stops
  read_append o rest hr := by
    obtain ⟨hl, hs⟩ := not_beginsWith_append.mp hr
    cases o with
    | none => exact if_neg hl
    | some a =>
      rw [part, if_pos (A.beginsWith_append a rest), A.read_append a rest hs, Option.map_some]
  leads := A.leads
  begins
    | none => .inl rfl
    | some a => A.begins a

theorem optional_tokens_eq_nil_iff (A : Clause α) (o : Option α) :
    A.optional.tokens o = [] ↔ o = none := by
  cases o with
  | none => exact iff_of_true rfl rfl
  | some a => exact iff_of_false (A.nonempty a) (Option.some_ne_none a)

/-- A clause any number of times. -/
def many (A : Clause α) (h : ∀ w ∈ A.stops, w ∉ A.leads := by decide) : Block (List α) where
  tokens as := as.flatMap A.tokens
  read c := readWhile (BeginsWith A.leads) A.read c.length c
  stops := A.leads ++ A.stops
  read_append as rest hr := by
    obtain ⟨hl, hs⟩ := not_beginsWith_append.mp hr
    -- What follows a value is the rest or the lead of the next value; neither is a stop.
    have hstop : ∀ bs : List α, ¬ BeginsWith A.stops (bs.flatMap A.tokens ++ rest) := by
      rintro (_ | ⟨b, bs⟩)
      · exact hs
      · rw [List.flatMap_cons, List.append_assoc]
        exact (A.beginsWith_append b _).disjoint h
    have hf : as.length ≤ (as.flatMap A.tokens ++ rest).length := by
      have := length_le_length_flatMap A.nonempty as
      rw [List.length_append]
      omega
    exact readWhile_flatMap A.toCodec _ A.beginsWith_append hl hstop as _ hf
  leads := A.leads
  begins
    | [] => .inl rfl
    | a :: _ => .inr (A.beginsWith_append a _)

theorem many_tokens_eq_nil_iff (A : Clause α) (h : ∀ w ∈ A.stops, w ∉ A.leads) (as : List α) :
    (A.many h).tokens as = [] ↔ as = [] := by
  cases as with
  | nil => exact iff_of_true rfl rfl
  | cons a as =>
    exact iff_of_false (fun hn => A.nonempty a (List.append_eq_nil_iff.mp hn).1)
      (List.cons_ne_nil a as)

end Clause

/-! ## Enumerations -/

/-- An enumeration whose words tell its values. -/
structure Keywords (α : Type) where
  keyword : α → String
  all : List α
  find_keyword : ∀ a, all.find? (fun b => keyword b == keyword a) = some a

namespace Keywords

variable {α β : Type}

def item (K : Keywords α) : Item α :=
  Item.text.convert K.keyword (fun s => K.all.find? fun b => K.keyword b == s) K.find_keyword

theorem beginsWith_item (K : Keywords α) (a : α) (c : Command) :
    BeginsWith (K.all.map K.keyword) (K.item.tokens a ++ c) :=
  beginsWith_cons (List.mem_map_of_mem (List.mem_of_find?_eq_some (K.find_keyword a))) c

/-- One of the words and a value after it. -/
def clauseWith (K : Keywords α) (B : Codec β) : Clause (α × β) where
  toCodec := K.item.pair B
  leads := K.all.map K.keyword
  begins p := .inr (K.beginsWith_item p.1 _)
  nonempty _ := List.cons_ne_nil _ _

theorem clauseWith_entries_tokens (K : Keywords α) (a : α) (pairs : List (String × Token)) :
    (K.clauseWith Item.entries.toCodec).tokens (a, pairs) = table (K.keyword a) pairs :=
  (table_eq_counted (K.keyword a) pairs).symm

def clause (K : Keywords α) : Clause α where
  toCodec := K.item
  leads := K.all.map K.keyword
  begins a := .inr (K.beginsWith_item a [])
  nonempty _ := List.cons_ne_nil _ _

end Keywords

/-! ## Blocks -/

namespace Block

variable {α β : Type}

/-- Values that can be told from values of another block. -/
def convert (A : Block α) (f : β → α) (g : α → Option β) (h : ∀ b, g (f b) = some b) :
    Block β where
  toCodec := A.toCodec.convert f g h
  leads := A.leads
  begins b := A.begins (f b)

/-- A block after another one. -/
def andThen (A : Block α) (B : Block β) (h : ∀ w ∈ A.stops, w ∉ B.leads := by decide) :
    Block (α × β) where
  toCodec := A.toCodec.andThen B h
  leads := A.leads ++ B.leads
  begins p := by
    change A.tokens p.1 ++ B.tokens p.2 = [] ∨ BeginsWith _ (A.tokens p.1 ++ B.tokens p.2)
    rcases A.begins p.1 with ha | ha
    · rw [ha, List.nil_append]
      exact (B.begins p.2).imp_right fun hb => hb.mono fun _ hw => List.mem_append_right _ hw
    · exact .inr ((ha.append _).mono fun _ hw => List.mem_append_left _ hw)

@[simp] theorem convert_tokens (A : Block α) (f : β → α) (g : α → Option β)
    (h : ∀ b, g (f b) = some b) (b : β) : (A.convert f g h).tokens b = A.tokens (f b) := rfl

@[simp] theorem andThen_tokens (A : Block α) (B : Block β) (h : ∀ w ∈ A.stops, w ∉ B.leads)
    (p : α × β) : (A.andThen B h).tokens p = A.tokens p.1 ++ B.tokens p.2 := rfl

def flag (w : String) : Block Bool where
  tokens := Command.flag w
  read c := if BeginsWith [w] c then some (true, c.tail) else some (false, c)
  stops := [w]
  read_append on rest hr := by
    cases on with
    | false => exact if_neg hr
    | true => exact if_pos (beginsWith_cons List.mem_cons_self _)
  leads := [w]
  begins
    | false => .inl rfl
    | true => .inr (beginsWith_cons List.mem_cons_self _)

/-- A word and a text after it, if there is one. -/
def text (w : String) : Block (Option String) := (Clause.word w Item.text).optional

/-- A word and a number after it, if there is one. -/
def number (w : String) : Block (Option Nat) := (Clause.word w Item.number).optional

/-- A word and the items after it with their number, if there are any. -/
def listing (w : String) : Block Command where
  tokens := Command.listing w
  read c := if BeginsWith [w] c then (Clause.word w Item.counted).read c else some ([], c)
  stops := [w]
  read_append items rest hr := by
    cases items with
    | nil => exact if_neg hr
    | cons t ts =>
      refine (if_pos (beginsWith_cons List.mem_cons_self _)).trans ?_
      exact (Clause.word w Item.counted).read_append (t :: ts) rest
        (by rintro ⟨w, hw, _⟩; cases hw)
  leads := [w]
  begins
    | [] => .inl rfl
    | _ :: _ => .inr (beginsWith_cons List.mem_cons_self _)

/-- A word and the texts after it with their number, if there are any. -/
def words (w : String) : Block (List String) :=
  (listing w).convert Command.words (fun c => some (c.map Token.text)) Item.map_text_words

/-- Named parameters, if there are any. -/
def params : Block (Bindings Token) :=
  (listing "PARAMS").convert entries Item.entry.members Item.members_entries

end Block

theorem params_eq_tokens (b : Bindings Token) : params b = Block.params.tokens b := by
  cases b with
  | nil => rfl
  | cons p b => exact table_eq_counted "PARAMS" (p :: b)

end SearchWire.Command
