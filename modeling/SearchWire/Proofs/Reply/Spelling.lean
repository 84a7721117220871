import SearchWire.Proofs.Reply.Shapes

/-!
# Spelling suggestions

The reply to a spelling check is read just if each of its entries is: a label, a term, and
suggestions of a number and a text each. Each term then has the suggestions of its last entry, all
of them and in their order.

* `Reply.Suggests`, `Reply.Spells`: what suggestions and entries tell; `Reply.spelling_eq_ok_iff`:
  all that reading the reply does;
* `Reply.IsSuggestion`, `Reply.IsSpelling`: the shapes that are read;
* **`Reply.spelling_exact`**.
-/

namespace SearchWire.Reply

/-! ## What entries tell -/

/-- A suggestion as it is sent: a score and a text. -/
inductive Suggests : Reply → Suggestion → Prop
  | mk {r score text : Reply} {x : Binary64} {s : String} (hparts : r.Lists [score, text])
      (hscore : score.real? = some x) (htext : text.text? = some s) : Suggests r ⟨x, s⟩

theorem suggestion_eq_ok_iff {r : Reply} {s : Suggestion} :
    suggestion r = .ok s ↔ Suggests r s := by
  constructor
  · intro h
    obtain ⟨parts, hparts, h⟩ := bind_eq_ok_iff.mp h
    split at h
    case h_1 score text =>
      cases hscore : score.real? with
      | none =>
        rw [hscore] at h
        cases h
      | some x =>
        rw [hscore] at h
        obtain ⟨s, hs, ⟨⟩⟩ := bind_eq_ok_iff.mp h
        exact .mk (items_eq_ok_iff.mp hparts) hscore (string_eq_ok_iff.mp hs)
    case h_2 => cases h
  · rintro ⟨hparts, hscore, htext⟩
    simp only [suggestion, items_eq_ok_iff.mpr hparts, hscore, string_eq_ok_iff.mpr htext, bind,
      Except.bind]
    rfl

/-- An entry as it is sent: a label, which may be anything, a term and a list of suggestions. -/
inductive Spells : Reply → String × List Suggestion → Prop
  | mk {r label term list : Reply} {items : List Reply} {s : String} {ss : List Suggestion}
      (hparts : r.Lists [label, term, list]) (hterm : term.text? = some s)
      (hlist : list.Lists items) (hitems : List.Forall₂ Suggests items ss) : Spells r (s, ss)

theorem spellingTerm_eq_ok_iff {r : Reply} {t : String × List Suggestion} :
    spellingTerm r = .ok t ↔ Spells r t := by
  have hread (items : List Reply) (ss : List Suggestion) :
      items.mapM suggestion = .ok ss ↔ List.Forall₂ Suggests items ss := by
    simp only [mapM_eq_ok_iff, suggestion_eq_ok_iff]
  constructor
  · intro h
    obtain ⟨parts, hparts, h⟩ := bind_eq_ok_iff.mp h
    split at h
    case h_1 label term list =>
      obtain ⟨s, hs, h⟩ := bind_eq_ok_iff.mp h
      obtain ⟨items, hitems, h⟩ := bind_eq_ok_iff.mp h
      obtain ⟨ss, hss, ⟨⟩⟩ := bind_eq_ok_iff.mp h
      exact .mk (items_eq_ok_iff.mp hparts) (string_eq_ok_iff.mp hs) (items_eq_ok_iff.mp hitems)
        ((hread items ss).mp hss)
    case h_2 => cases h
  · rintro ⟨hparts, hterm, hlist, hitems⟩
    simp only [spellingTerm, items_eq_ok_iff.mpr hparts, string_eq_ok_iff.mpr hterm,
      items_eq_ok_iff.mpr hlist, (hread _ _).mpr hitems, bind, Except.bind]
    rfl

/-- **All that reading the reply does.** -/
theorem spelling_eq_ok_iff {r : Reply} {b : Bindings (List Suggestion)} : r.spelling = .ok b ↔
    ∃ entries terms, r.Lists entries ∧ List.Forall₂ Spells entries terms ∧ b = .ofList terms := by
  constructor
  · intro h
    obtain ⟨entries, hentries, h⟩ := bind_eq_ok_iff.mp h
    obtain ⟨terms, hterms, ⟨⟩⟩ := bind_eq_ok_iff.mp h
    simp only [mapM_eq_ok_iff, spellingTerm_eq_ok_iff] at hterms
    exact ⟨entries, terms, items_eq_ok_iff.mp hentries, hterms, rfl⟩
  · rintro ⟨entries, terms, hentries, hterms, rfl⟩
    have hread : entries.mapM spellingTerm = .ok terms := by
      simpa only [mapM_eq_ok_iff, spellingTerm_eq_ok_iff] using hterms
    simp only [spelling, items_eq_ok_iff.mpr hentries, hread, bind, Except.bind]
    rfl

/-! ## Shapes -/

/-- Two items, a number and a scalar. -/
def IsSuggestion (r : Reply) : Prop :=
  ∃ score text, r.Lists [score, text] ∧ (∃ x, score.real? = some x) ∧ ∃ s, text.text? = some s

/-- Three items, of which the second is a scalar and the third a list of suggestions. -/
def IsSpelling (r : Reply) : Prop :=
  ∃ label term list items, r.Lists [label, term, list] ∧ (∃ s, term.text? = some s) ∧
    list.Lists items ∧ ∀ i ∈ items, i.IsSuggestion

theorem exists_suggests_iff {r : Reply} : (∃ s, r.Suggests s) ↔ r.IsSuggestion := by
  constructor
  · rintro ⟨_, hparts, hscore, htext⟩
    exact ⟨_, _, hparts, ⟨_, hscore⟩, _, htext⟩
  · rintro ⟨score, text, hparts, ⟨x, hscore⟩, s, htext⟩
    exact ⟨⟨x, s⟩, hparts, hscore, htext⟩

theorem exists_spells_iff {r : Reply} : (∃ t, r.Spells t) ↔ r.IsSpelling := by
  constructor
  · rintro ⟨_, hparts, hterm, hlist, hitems⟩
    refine ⟨_, _, _, _, hparts, ⟨_, hterm⟩, hlist, fun i hi => exists_suggests_iff.mp ?_⟩
    exact exists_forall₂_iff.mp ⟨_, hitems⟩ i hi
  · rintro ⟨label, term, list, items, hparts, ⟨s, hterm⟩, hlist, hitems⟩
    obtain ⟨ss, hss⟩ := exists_forall₂_iff.mpr fun i hi => exists_suggests_iff.mpr (hitems i hi)
    exact ⟨(s, ss), hparts, hterm, hlist, hss⟩

theorem exists_spelling_iff {r : Reply} : (∃ b, r.spelling = .ok b) ↔
    ∃ entries, r.Lists entries ∧ ∀ e ∈ entries, e.IsSpelling := by
  simp only [spelling_eq_ok_iff]
  constructor
  · rintro ⟨b, entries, terms, hentries, hterms, -⟩
    exact ⟨entries, hentries, fun e he =>
      exists_spells_iff.mp (exists_forall₂_iff.mp ⟨terms, hterms⟩ e he)⟩
  · rintro ⟨entries, hentries, hshapes⟩
    obtain ⟨terms, hterms⟩ := exists_forall₂_iff.mpr fun e he =>
      exists_spells_iff.mpr (hshapes e he)
    exact ⟨_, entries, terms, hentries, hterms, rfl⟩

theorem not_isSpelling_of_suggestion {r label term list i : Reply} {items : List Reply}
    (hparts : r.Lists [label, term, list]) (hlist : list.Lists items) (hi : i ∈ items)
    (h : ¬ i.IsSuggestion) : ¬ r.IsSpelling := by
  rintro ⟨_, _, list', items', hparts', -, hlist', hitems⟩
  cases hparts.unique hparts'
  obtain rfl := hlist.unique hlist'
  exact h (hitems i hi)

/-! ## The whole reply -/

/-- **Suggestions are read exactly, and all of them or none.** The map has the terms of the entries
as its keys, and under each of them the suggestions of the last entry with this term. -/
theorem spelling_exact (r : Reply) :
    ((∃ b, r.spelling = .ok b) ↔ ∃ entries, r.Lists entries ∧ ∀ e ∈ entries, e.IsSpelling) ∧
    (∀ b, r.spelling = .ok b → ∃ entries terms, r.Lists entries ∧
      List.Forall₂ Spells entries terms ∧
      (∀ key, key ∈ b.names ↔ ∃ t ∈ terms, t.1 = key) ∧
      ∀ before t after, terms = before ++ t :: after → (∀ t' ∈ after, t'.1 ≠ t.1) →
        b.find? t.1 = some t.2) ∧
    ∀ entries, r.Lists entries →
      (∃ e ∈ entries, ¬ e.IsSpelling ∨ ∃ label term list items i, e.Lists [label, term, list] ∧
        list.Lists items ∧ i ∈ items ∧ ¬ i.IsSuggestion) → Fails r.spelling := by
  refine ⟨exists_spelling_iff, fun b hb => ?_, fun entries hentries hbad => ?_⟩
  · obtain ⟨entries, terms, hentries, hterms, rfl⟩ := spelling_eq_ok_iff.mp hb
    refine ⟨entries, terms, hentries, hterms, fun key => ?_, fun before t after hsplit hlast => ?_⟩
    · rw [Bindings.mem_names_ofList]
      exact List.mem_map
    · rw [hsplit]
      refine Bindings.find?_ofList_append_cons fun hmem => ?_
      obtain ⟨t', ht', hname⟩ := List.mem_map.mp hmem
      exact hlast t' ht' hname
  · by_contra hok
    obtain ⟨entries', hentries', hshapes⟩ := exists_spelling_iff.mp (not_fails_iff.mp hok)
    obtain rfl := hentries.unique hentries'
    obtain ⟨e, he, h | ⟨label, term, list, items, i, hparts, hlist, hi, h⟩⟩ := hbad
    · exact h (hshapes e he)
    · exact not_isSpelling_of_suggestion hparts hlist hi h (hshapes e he)

/-- The later of two entries with one term counts, also if it has no suggestions. -/
example : (array [.array [.okay, .simple "bik", .array [.array [.int 1, .simple "bike"]]],
    .array [.nil, .simple "bik", .nil]]).spelling = .ok [("bik", [])] := by
  rfl

end SearchWire.Reply
