import SearchWire.Number.Numeral
import SearchWire.Token

/-!
# Natural numbers as tokens

A number written in decimal is read back.

* `Numeral.digitsFrom?_of_isDigit`, `Numeral.digitsValue?_eq_some_iff`: the value of a run of digits;
* `Numeral.Writes`, `Numeral.natural?_eq_some_iff`: the texts that are natural numbers;
* `Token.natural?`, **`Token.natural?_ofNat`**.
-/

namespace SearchWire

namespace Numeral

theorem digit?_of_isDigit {c : Char} (hc : c.isDigit = true) :
    digit? c = some (c.toNat - '0'.toNat) := by
  have hb : '0' ≤ c ∧ c ≤ '9' := by simpa [Char.isDigit, Char.le_def] using hc
  rw [digit?, if_pos hb]

theorem digitsFrom?_of_isDigit (cs : List Char) (value : Nat) (h : ∀ c ∈ cs, c.isDigit = true) :
    digitsFrom? value cs = some (Nat.ofDigitChars 10 cs value) := by
  induction cs generalizing value with
  | nil => rw [digitsFrom?, Nat.ofDigitChars_nil]
  | cons c cs ih =>
    rw [digitsFrom?, digit?_of_isDigit (h c List.mem_cons_self), Option.bind_some,
      ih _ fun d hd => h d (List.mem_cons_of_mem _ hd), Nat.ofDigitChars_cons]

theorem digitsValue?_toDigits (n : Nat) : digitsValue? (Nat.toDigits 10 n) = some n := by
  have hd := digitsFrom?_of_isDigit (Nat.toDigits 10 n) 0 fun c hc =>
    Nat.isDigit_of_mem_toDigits (by decide) (by decide) hc
  rw [Nat.ofDigitChars_ten_toDigits] at hd
  cases hn : Nat.toDigits 10 n with
  | nil => exact absurd hn Nat.toDigits_ne_nil
  | cons c cs =>
    rw [hn] at hd
    exact hd

theorem isDigit_of_digit? {c : Char} {d : Nat} (h : digit? c = some d) : c.isDigit = true := by
  unfold digit? at h
  split at h
  case isTrue hc => simpa [Char.isDigit, Char.le_def] using hc
  case isFalse => cases h

theorem digitsFrom?_eq_some_iff {cs : List Char} {value n : Nat} : digitsFrom? value cs = some n ↔
    (∀ c ∈ cs, c.isDigit = true) ∧ Nat.ofDigitChars 10 cs value = n := by
  constructor
  · intro h
    have hcs : ∀ c ∈ cs, c.isDigit = true := by
      induction cs generalizing value with
      | nil => exact fun c hc => absurd hc List.not_mem_nil
      | cons c cs ih =>
        obtain ⟨d, hd, hrest⟩ := Option.bind_eq_some_iff.mp h
        exact List.forall_mem_cons.mpr ⟨isDigit_of_digit? hd, ih hrest⟩
    rw [digitsFrom?_of_isDigit cs value hcs] at h
    exact ⟨hcs, Option.some.inj h⟩
  · rintro ⟨hcs, rfl⟩
    exact digitsFrom?_of_isDigit cs value hcs

theorem digitsValue?_eq_some_iff {cs : List Char} {n : Nat} : digitsValue? cs = some n ↔
    cs ≠ [] ∧ (∀ c ∈ cs, c.isDigit = true) ∧ Nat.ofDigitChars 10 cs 0 = n := by
  cases cs with
  | nil => simp [digitsValue?]
  | cons c cs => simp [digitsValue?, digitsFrom?_eq_some_iff]

/-- A text of decimal digits, with a plus sign before them or without, for a number of at most 64
bits. -/
structure Writes (s : String) (n : Nat) : Prop where
  digits : ∃ ds : List Char, (s.toList = ds ∨ s.toList = '+' :: ds) ∧ ds ≠ [] ∧
    (∀ c ∈ ds, c.isDigit = true) ∧ Nat.ofDigitChars 10 ds 0 = n
  bounded : n < words

theorem natural?_eq_some_iff {s : String} {n : Nat} : natural? s = some n ↔ Writes s n := by
  simp only [natural?, Option.filter_eq_some_iff, digitsValue?_eq_some_iff, decide_eq_true_eq]
  constructor
  · rintro ⟨hdigits, hbound⟩
    refine ⟨?_, hbound⟩
    split at hdigits
    case h_1 rest hs => exact ⟨rest, .inr hs, hdigits⟩
    case h_2 => exact ⟨_, .inl rfl, hdigits⟩
  · rintro ⟨⟨ds, hs, hdigits⟩, hbound⟩
    refine ⟨?_, hbound⟩
    split
    case h_1 rest hplus =>
      rcases hs with hs | hs
      · -- A plus sign is no digit.
        have hmem : '+' ∈ ds := by
          rw [← hs, hplus]
          exact List.mem_cons_self
        cases hdigits.2.1 _ hmem
      · cases hplus.symm.trans hs
        exact hdigits
    case h_2 hplus =>
      rcases hs with hs | hs
      · rw [hs]
        exact hdigits
      · exact absurd hs (hplus ds)

end Numeral

namespace Token

/-- The natural number that a token spells in decimal. -/
def natural? (t : Token) : Option Nat := Numeral.digitsValue? t.text.toList

@[simp] theorem natural?_ofNat (n : Nat) : (ofNat n).natural? = some n := by
  rw [natural?, ofNat, text_ofString, Nat.toString_eq_ofList_toDigits, String.toList_ofList]
  exact Numeral.digitsValue?_toDigits n

end Token

end SearchWire
