import SearchWire.Proofs.Command.Codec

/-!
# Clauses around a block

A clause that may stand before a block and after it belongs to neither side once the block is
empty. `Around` holds such clauses where a reader finds them.

* `Around`, `Around.place`, `Around.clauses`;
* **`Around.place_left_eq_place_right_iff`**: when the side of a clause is lost;
* `Around.block`: a block with clauses around it, again as a block.
-/

namespace SearchWire.Command

variable {α φ : Type}

/-- Values of a clause before and after a value of a block. After an empty block there are none,
since those would be read before it. -/
structure Around (φ : Type) (M : Block α) where
  before : List φ
  middle : α
  after : List φ
  placed : M.tokens middle = [] → after = []

namespace Around

variable {M : Block α}

/-- The clauses before and after a block, placed where they are read. -/
def place (M : Block α) (before : List φ) (middle : α) (after : List φ) : Around φ M :=
  if h : M.tokens middle = [] then ⟨before ++ after, middle, [], fun _ => rfl⟩
  else ⟨before, middle, after, fun hm => absurd hm h⟩

/-- All clauses in the order in which they are written. -/
def clauses (a : Around φ M) : List φ := a.before ++ a.after

@[simp] theorem middle_place (M : Block α) (before : List φ) (middle : α) (after : List φ) :
    (place M before middle after).middle = middle := by
  unfold place
  split <;> rfl

@[simp] theorem clauses_place (M : Block α) (before : List φ) (middle : α) (after : List φ) :
    (place M before middle after).clauses = before ++ after := by
  unfold place
  split
  · exact List.append_nil _
  · rfl

/-- A clause before a block is placed like one after it just if the block is empty. -/
theorem place_left_eq_place_right_iff (M : Block α) (middle : α) (x y : φ) :
    place M [x] middle [] = place M [] middle [y] ↔ x = y ∧ M.tokens middle = [] := by
  unfold place
  by_cases hm : M.tokens middle = []
  · simp [hm]
  · simp [hm]

/-- The tokens of a block with clauses around it. -/
def tokens (F : Clause φ) (a : Around φ M) : Command :=
  a.before.flatMap F.tokens ++ (M.tokens a.middle ++ a.after.flatMap F.tokens)

theorem tokens_place (F : Clause φ) (M : Block α) (before : List φ) (middle : α)
    (after : List φ) : (place M before middle after).tokens F =
      before.flatMap F.tokens ++ (M.tokens middle ++ after.flatMap F.tokens) := by
  unfold place
  split
  · next hm =>
    rw [tokens, hm, List.flatMap_append, List.flatMap_nil, List.append_nil, List.append_nil,
      List.nil_append]
  · rfl

/-- A block with clauses around it. The clauses before it end where it begins, and if it is empty
there are none after it. -/
def block (F : Clause φ) (M : Block α) (hF : ∀ w ∈ F.stops, w ∉ F.leads := by decide)
    (hFM : ∀ w ∈ F.leads ++ F.stops, w ∉ M.leads := by decide)
    (hMF : ∀ w ∈ M.stops, w ∉ F.leads := by decide) : Block (Around φ M) where
  tokens := tokens F
  read c :=
    ((F.many hF).read c).bind fun p => (M.read p.2).bind fun q =>
      ((F.many hF).read q.2).bind fun r =>
        if h : M.tokens q.1 = [] → r.1 = [] then some (⟨p.1, q.1, r.1, h⟩, r.2) else none
  stops := F.leads ++ F.stops ++ M.stops
  read_append a rest hr := by
    obtain ⟨hF', hM'⟩ := not_beginsWith_append.mp hr
    have hlast := (F.many hF).read_append a.after rest hF'
    have hmiddle := M.read_append a.middle ((F.many hF).tokens a.after ++ rest)
      ((F.many hF).not_beginsWith_tokens_append a.after hMF hM')
    -- After an empty block there are no more clauses, so the first run ends at the rest.
    have hstop : ¬ BeginsWith (F.many hF).stops
        (M.tokens a.middle ++ ((F.many hF).tokens a.after ++ rest)) := by
      by_cases hm : M.tokens a.middle = []
      · rw [hm, a.placed hm]
        exact hF'
      · exact (((M.begins a.middle).resolve_left hm).append _).disjoint hFM
    have hfirst := (F.many hF).read_append a.before _ hstop
    have hassoc : tokens F a ++ rest = (F.many hF).tokens a.before ++
        (M.tokens a.middle ++ ((F.many hF).tokens a.after ++ rest)) := by
      simp only [tokens, List.append_assoc]
      rfl
    rw [hassoc, hfirst, Option.bind_some, hmiddle, Option.bind_some, hlast, Option.bind_some,
      dif_pos a.placed]
  leads := F.leads ++ M.leads
  begins a := by
    have hmono : ∀ w ∈ F.leads, w ∈ F.leads ++ M.leads := fun _ hw => List.mem_append_left _ hw
    unfold tokens
    rcases hb : a.before with _ | ⟨x, xs⟩
    · rcases M.begins a.middle with hm | hm
      · exact .inl (by rw [hm, a.placed hm]; rfl)
      · exact .inr ((hm.append _).mono fun _ hw => List.mem_append_right _ hw)
    · rw [List.flatMap_cons, List.append_assoc]
      exact .inr ((F.beginsWith_append x _).mono hmono)

end Around

end SearchWire.Command
