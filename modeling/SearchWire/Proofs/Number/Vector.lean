import SearchWire.Token

/-!
# Vectors are read back

A vector is written as words of four octets, the lowest octet first, and every pattern of bits is
kept: reading the words of a token gives the vector that it was made from, and only that one.

* `littleEndian`: the number that octets stand for; `Binary32.littleEndian_bytes`,
  `Binary32.bytes_ofBytes`: a pattern and its octets;
* `Token.toVector?`, **`Token.toVector?_eq_some_iff`**: the vector that a token is;
  `Token.exists_words?_iff`: octets are a vector just if their number is a multiple of four;
* `Token.size_ofVector`, `Token.octets_ofVector_append`, `Token.ofVector_inj`;
  **`Token.ofVector_lossless`**.
-/

namespace SearchWire

/-- The number that octets stand for, the lowest first. -/
def littleEndian : List UInt8 → Nat
  | [] => 0
  | b :: bs => b.toNat + 256 * littleEndian bs

namespace Binary32

/-- The number whose pattern octets stand for. -/
def ofBytes (bytes : List UInt8) : Binary32 := ⟨.ofNat (littleEndian bytes)⟩

theorem eq_iff_bits_eq {x y : Binary32} : x = y ↔ x.bits = y.bits := by
  cases x
  cases y
  simp

theorem littleEndian_bytes (x : Binary32) : littleEndian x.bytes = x.bits.toNat := by
  have hx := x.bits.toNat_lt
  simp only [bytes, littleEndian, UInt32.toNat_toUInt8, UInt32.toNat_shiftRight,
    Nat.shiftRight_eq_div_pow, UInt32.toNat_ofNat, Nat.reducePow, Nat.reduceMod] at hx ⊢
  omega

theorem ofBytes_bytes (x : Binary32) : ofBytes x.bytes = x := by
  rw [ofBytes, littleEndian_bytes, UInt32.ofNat_toNat]

theorem bytes_ofBytes (a b c d : UInt8) : (ofBytes [a, b, c, d]).bytes = [a, b, c, d] := by
  have ha := a.toNat_lt
  have hb := b.toNat_lt
  have hc := c.toNat_lt
  have hd := d.toNat_lt
  -- Octets are digits to the base 256, and each of the four is taken out by division.
  simp only [bytes, ofBytes, littleEndian, List.cons.injEq, and_true, ← UInt8.toNat_inj,
    UInt32.toNat_toUInt8, UInt32.toNat_shiftRight, Nat.shiftRight_eq_div_pow, UInt32.toNat_ofNat',
    UInt32.toNat_ofNat, Nat.reducePow, Nat.reduceMod] at *
  omega

end Binary32

namespace Token

/-- The words that octets are, four octets each. -/
def words? : List UInt8 → Option (List Binary32)
  | [] => some []
  | a :: b :: c :: d :: rest => (words? rest).map (.ofBytes [a, b, c, d] :: ·)
  | _ => none

/-- The vector that a token is. -/
def toVector? (t : Token) : Option (List Binary32) := words? t.octets

theorem words?_bytes_append (x : Binary32) (octets : List UInt8) :
    words? (x.bytes ++ octets) = (words? octets).map (x :: ·) := by
  have hcons : words? (x.bytes ++ octets) = (words? octets).map (Binary32.ofBytes x.bytes :: ·) :=
    rfl
  rw [hcons, x.ofBytes_bytes]

theorem words?_flatMap_bytes (v : List Binary32) : words? (v.flatMap Binary32.bytes) = some v := by
  induction v with
  | nil => rfl
  | cons x v ih => rw [List.flatMap_cons, words?_bytes_append, ih, Option.map_some]

theorem flatMap_bytes_of_words? {octets : List UInt8} {v : List Binary32}
    (h : words? octets = some v) : v.flatMap Binary32.bytes = octets := by
  fun_induction words? octets generalizing v with
  | case1 =>
    cases h
    rfl
  | case2 a b c d rest ih =>
    obtain ⟨v, hv, rfl⟩ := Option.map_eq_some_iff.mp h
    rw [List.flatMap_cons, Binary32.bytes_ofBytes, ih hv]
    rfl
  | case3 => cases h

/-- **A token is a vector just if it was made from it.** -/
theorem toVector?_eq_some_iff {t : Token} {v : List Binary32} :
    t.toVector? = some v ↔ t = ofVector v := by
  constructor
  · intro h
    rw [ofVector, flatMap_bytes_of_words? h]
  · rintro rfl
    exact words?_flatMap_bytes v

theorem exists_words?_iff {octets : List UInt8} :
    (∃ v, words? octets = some v) ↔ 4 ∣ octets.length := by
  fun_induction words? octets with
  | case1 => simp
  | case2 a b c d rest ih =>
    have hlength : 4 ∣ (a :: b :: c :: d :: rest).length ↔ 4 ∣ rest.length := by
      simp only [List.length_cons]
      omega
    rw [hlength, ← ih]
    constructor
    · rintro ⟨_, h⟩
      obtain ⟨v, hv, -⟩ := Option.map_eq_some_iff.mp h
      exact ⟨v, hv⟩
    · rintro ⟨v, hv⟩
      exact ⟨_, Option.map_eq_some_iff.mpr ⟨v, hv, rfl⟩⟩
  | case3 octets hnil hcons =>
    have hdvd : ¬ 4 ∣ octets.length := by
      rcases octets with _ | ⟨a, _ | ⟨b, _ | ⟨c, _ | ⟨d, rest⟩⟩⟩⟩
      · exact absurd rfl hnil
      · simp
      · simp
      · simp
      · exact absurd rfl (hcons a b c d rest)
    simp [hdvd]

theorem size_ofVector (v : List Binary32) : (ofVector v).size = 4 * v.length := by
  induction v with
  | nil => rfl
  | cons x v ih =>
    have hsize : (ofVector (x :: v)).size = (ofVector v).size + 4 := rfl
    rw [hsize, ih, List.length_cons, Nat.mul_succ]

theorem octets_ofVector_append (v w : List Binary32) :
    (ofVector (v ++ w)).octets = (ofVector v).octets ++ (ofVector w).octets := List.flatMap_append

theorem ofVector_inj {v w : List Binary32} : ofVector v = ofVector w ↔ v = w := by
  rw [← toVector?_eq_some_iff, toVector?, ofVector, words?_flatMap_bytes, Option.some.injEq,
    eq_comm]

/-- **Vectors are written without loss.** Each number takes four octets, which are its pattern with
the lowest octet first; a token is read as a vector just if it was made from it, and every token
whose size is a multiple of four is one. So vectors with the same token have the same length and the
same patterns, and a vector after another one is written after it. -/
theorem ofVector_lossless (v w : List Binary32) (t : Token) :
    (ofVector v).size = 4 * v.length ∧
      (t.toVector? = some v ↔ t = ofVector v) ∧
      ((∃ u, t.toVector? = some u) ↔ 4 ∣ t.size) ∧
      (ofVector (v ++ w)).octets = (ofVector v).octets ++ (ofVector w).octets ∧
      (ofVector v = ofVector w ↔ v.length = w.length ∧
        ∀ i (hv : i < v.length) (hw : i < w.length), v[i].bits = w[i].bits) := by
  refine ⟨size_ofVector v, toVector?_eq_some_iff, exists_words?_iff, octets_ofVector_append v w, ?_⟩
  rw [ofVector_inj, List.ext_getElem_iff]
  simp only [Binary32.eq_iff_bits_eq]

/-- One, and a NaN with a payload. -/
example : (ofVector [⟨0x3f800000⟩, ⟨0xffc00123⟩]).octets =
    [0, 0, 0x80, 0x3f, 0x23, 0x01, 0xc0, 0xff] := by
  rfl

end Token

end SearchWire
