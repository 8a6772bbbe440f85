import Mathlib.Order.Interval.Finset.Nat
import Mathlib.Data.Nat.Size

/-!
# Support — bit arrays of 64-bit words

A bit array kept as a list of `uint64` words, bit `k` in word `k / 64` at position
`63 - k % 64` from the least significant bit, so that bit 0 is the most significant bit of
word 0; and Go's shifts on `uint64`, which give 0 for a count of 64 or more where Lean's take the
count modulo 64.

* `Go.shl`, `Go.shr`, `Go.shr8`: `x << n` and `x >> n` on `uint64`, and `x >> n` on `byte`;
  `Go.leadingZeros64`, `Go.leadingZeros32`: `bits.LeadingZeros64` and `bits.LeadingZeros32`, from
  the bit length.
* `WordBits.bitAt`, `WordBits.single`: one bit of a word, and the word of one bit, with the
  rules for `|||`, `&&& ~~~` and `&&&` against a single bit.
* `WordBits.test`, `WordBits.set`, `WordBits.clear`: reading, setting and clearing bit `k` of an
  array; `test_set` and `test_clear` say that each changes bit `k` only.
* `filter_test_set`, `filter_test_clear`: the set bits of any finite set of positions after
  setting or clearing one.
* `int64_toInt_add`, `int64_toInt_sub`, `int64_toInt_mul`, `int64_toInt_div`,
  `int64_toInt_ofNat`: Go's `int64` arithmetic is the arithmetic of `Int` whenever the result fits,
  and division by a positive `int64` truncates (`tdiv_eq_ite`); its remainder keeps the sign of
  the dividend (`tmod_neg_of_not_dvd`).
* `int64_toNat_toUInt64`, `int64_toNat_toUInt64_emod`, `bmod_two_pow_succ`: the unsigned word of
  an `int64` is its value modulo `2 ^ 64`, so a narrow word sign-extended into it comes back out
  of its low bits; a `uint64` read as an `int64` is its value wrapped (`uint64_toInt_toInt64`).
-/

namespace Go

/-- Go's `x << n` on `uint64`. -/
def shl (x n : UInt64) : UInt64 := if n < 64 then x <<< n else 0

/-- Go's `x >> n` on `uint64`. -/
def shr (x n : UInt64) : UInt64 := if n < 64 then x >>> n else 0

/-- Go's `x >> n` on `byte`, for a count of type `uint`. -/
def shr8 (x : UInt8) (n : Nat) : UInt8 := if n < 8 then x >>> n.toUInt8 else 0

/-- Go's `bits.LeadingZeros64(x)`. -/
def leadingZeros64 (x : UInt64) : Nat := 64 - x.toNat.size

/-- Go's `bits.LeadingZeros32(x)`. -/
def leadingZeros32 (x : UInt32) : Nat := 32 - x.toNat.size

/-- The bit length of `n` is `k` when `n` lies in `[2 ^ (k - 1), 2 ^ k)`. -/
theorem size_eq_of_bounds {n k : Nat} (hlt : n < 2 ^ k) (hge : ∀ j, j + 1 = k → 2 ^ j ≤ n) :
    n.size = k := by
  apply le_antisymm (Nat.size_le.mpr hlt)
  rcases k with _ | j
  · exact Nat.zero_le _
  · exact Nat.lt_size.mpr (hge j rfl)

theorem shl_of_lt {n : Nat} (x : UInt64) (h : n < 64) : shl x n.toUInt64 = x <<< n.toUInt64 := by
  have hlt : n.toUInt64 < 64 := by
    rw [UInt64.lt_iff_toNat_lt, Nat.toUInt64_eq, UInt64.toNat_ofNat']
    simp only [Nat.mod_eq_of_lt (Nat.lt_trans h (by decide : 64 < 2 ^ 64))]
    exact h
  simp only [shl, if_pos hlt]

theorem shr_of_lt {n : Nat} (x : UInt64) (h : n < 64) : shr x n.toUInt64 = x >>> n.toUInt64 := by
  have hlt : n.toUInt64 < 64 := by
    rw [UInt64.lt_iff_toNat_lt, Nat.toUInt64_eq, UInt64.toNat_ofNat']
    simp only [Nat.mod_eq_of_lt (Nat.lt_trans h (by decide : 64 < 2 ^ 64))]
    exact h
  simp only [shr, if_pos hlt]

end Go

namespace WordBits

/-! ### Bits of one word -/

/-- Bit `i` of a word, counted from the least significant. -/
def bitAt (w : UInt64) (i : Nat) : Bool := w.toBitVec.getLsbD i

/-- The word with bit `i` alone set. -/
def single (i : Nat) : UInt64 := 1 <<< i.toUInt64

/-- The word with every bit set, `math.MaxUint64`. -/
def full : UInt64 := 0xFFFFFFFFFFFFFFFF

theorem bitAt_ge {i : Nat} (w : UInt64) (h : 64 ≤ i) : bitAt w i = false :=
  BitVec.getLsbD_of_ge _ _ h

@[simp] theorem bitAt_or (a b : UInt64) (i : Nat) : bitAt (a ||| b) i = (bitAt a i || bitAt b i) := by
  simp [bitAt]

@[simp] theorem bitAt_and (a b : UInt64) (i : Nat) : bitAt (a &&& b) i = (bitAt a i && bitAt b i) := by
  simp [bitAt]

@[simp] theorem bitAt_and_not (a b : UInt64) (i : Nat) :
    bitAt (a &&& ~~~b) i = (bitAt a i && !bitAt b i) := by
  by_cases hi : i < 64
  · simp [bitAt, hi]
  · rw [bitAt_ge _ (Nat.le_of_not_lt hi), bitAt_ge a (Nat.le_of_not_lt hi), Bool.false_and]

@[simp] theorem bitAt_zero (i : Nat) : bitAt 0 i = false := by
  simp [bitAt]

@[simp] theorem bitAt_single {i : Nat} (j : Nat) (hi : i < 64) : bitAt (single i) j = (j == i) := by
  simp only [bitAt, single, UInt64.toBitVec_shiftLeft, Nat.toUInt64_eq, UInt64.toBitVec_ofNat]
  -- what is left compares `j` with `i` through `decide`s
  by_cases hj : j = i
  · subst hj
    simp only [beq_self_eq_true]
    simp
    omega
  · have hfalse : (j == i) = false := beq_false_of_ne hj
    rw [hfalse]
    simp
    omega

theorem bitAt_ext {a b : UInt64} (h : ∀ i < 64, bitAt a i = bitAt b i) : a = b :=
  UInt64.toBitVec_inj.mp (BitVec.eq_of_getLsbD_eq h)

theorem bitAt_full {i : Nat} (h : i < 64) : bitAt full i = true := by
  have : full.toBitVec = BitVec.allOnes 64 := by decide
  simp only [bitAt, this, BitVec.getLsbD_allOnes, h, decide_true]

/-- A word short of full has a clear bit. -/
theorem exists_clear_of_ne_full {w : UInt64} (h : w ≠ full) : ∃ i < 64, bitAt w i = false := by
  by_contra hall
  push Not at hall
  apply h
  apply bitAt_ext
  intro i hi
  rw [bitAt_full hi]
  simpa using hall i hi

/-- Testing a single bit with `&&&`. -/
theorem and_single_eq_zero_iff (w : UInt64) {i : Nat} (hi : i < 64) :
    w &&& single i = 0 ↔ bitAt w i = false := by
  constructor
  · intro h
    have h' : bitAt (w &&& single i) i = false := by
      rw [h]
      exact bitAt_zero i
    rw [bitAt_and, bitAt_single _ hi] at h'
    simpa using h'
  · intro h
    apply bitAt_ext
    intro j _
    rw [bitAt_and, bitAt_single _ hi, bitAt_zero]
    by_cases hj : j = i
    · subst hj
      simp [h]
    · simp [hj]

theorem and_single_eq_single_iff (w : UInt64) {i : Nat} (hi : i < 64) :
    w &&& single i = single i ↔ bitAt w i = true := by
  constructor
  · intro h
    have h' : bitAt (w &&& single i) i = bitAt (single i) i := by rw [h]
    rw [bitAt_and, bitAt_single _ hi] at h'
    simpa using h'
  · intro h
    apply bitAt_ext
    intro j _
    rw [bitAt_and, bitAt_single _ hi]
    by_cases hj : j = i
    · subst hj
      simp [h]
    · simp [hj]

/-! ### Bits of an array of words -/

/-- The position in its word of bit `k`. -/
def pos (k : Nat) : Nat := 63 - k % 64

theorem pos_lt (k : Nat) : pos k < 64 := by
  unfold pos
  omega

/-- Bit `k` of the array; past its end every bit is clear. -/
def test (ws : List UInt64) (k : Nat) : Bool := bitAt (ws.getD (k / 64) 0) (pos k)

/-- The array with bit `k` set. -/
def set (ws : List UInt64) (k : Nat) : List UInt64 := ws.modify (k / 64) (· ||| single (pos k))

/-- The array with bit `k` clear. -/
def clear (ws : List UInt64) (k : Nat) : List UInt64 := ws.modify (k / 64) (· &&& ~~~single (pos k))

/-- Two bits in one word at one position are one bit. -/
theorem eq_of_div_pos {k k' : Nat} (hd : k' / 64 = k / 64) (hp : pos k' = pos k) : k' = k := by
  unfold pos at hp
  omega

theorem getD_modify (ws : List UInt64) (f : UInt64 → UInt64) (n m : Nat) :
    (ws.modify n f).getD m 0 = if n = m ∧ m < ws.length then f (ws.getD m 0) else ws.getD m 0 := by
  simp only [List.getD_eq_getElem?_getD, List.getElem?_modify]
  by_cases hm : m < ws.length
  · simp only [List.getElem?_eq_getElem hm, Option.map_eq_map, Option.map_some, Option.getD_some, hm,
      and_true]
  · simp [hm]

@[simp] theorem length_set (ws : List UInt64) (k : Nat) : (set ws k).length = ws.length :=
  List.length_modify _ _ _

@[simp] theorem length_clear (ws : List UInt64) (k : Nat) : (clear ws k).length = ws.length :=
  List.length_modify _ _ _

/-- Setting bit `k` of the array, when its word is there, sets that bit and no other. -/
theorem test_set {ws : List UInt64} {k : Nat} (h : k / 64 < ws.length) (k' : Nat) :
    test (set ws k) k' = (test ws k' || k' == k) := by
  unfold test set
  rw [getD_modify]
  by_cases hd : k / 64 = k' / 64
  · rw [if_pos ⟨hd, hd ▸ h⟩, bitAt_or, bitAt_single _ (pos_lt k)]
    by_cases hk : k' = k
    · subst hk
      simp
    · have hp : pos k' ≠ pos k := fun hp => hk (eq_of_div_pos hd.symm hp)
      rw [beq_false_of_ne hp, beq_false_of_ne hk]
  · have hk : k' ≠ k := fun hk => hd (hk ▸ rfl)
    rw [if_neg (fun h' => hd h'.1)]
    simp [hk]

/-- Clearing bit `k` of the array clears that bit and no other. -/
theorem test_clear (ws : List UInt64) (k k' : Nat) : test (clear ws k) k' = (test ws k' && k' != k) := by
  unfold test clear
  rw [getD_modify]
  by_cases hd : k / 64 = k' / 64
  · by_cases hl : k' / 64 < ws.length
    · rw [if_pos ⟨hd, hl⟩, bitAt_and_not, bitAt_single _ (pos_lt k)]
      by_cases hk : k' = k
      · subst hk
        simp
      · have hp : pos k' ≠ pos k := fun hp => hk (eq_of_div_pos hd.symm hp)
        rw [beq_false_of_ne hp, bne_iff_ne.mpr hk]
        rfl
    · -- past the array's end the bit reads clear either way
      rw [if_neg (fun h' => hl h'.2)]
      have hnil : ws.getD (k' / 64) 0 = 0 := by
        rw [List.getD_eq_getElem?_getD, List.getElem?_eq_none (Nat.le_of_not_lt hl)]
        rfl
      rw [hnil, bitAt_zero, Bool.false_and]
  · have hk : k' ≠ k := fun hk => hd (hk ▸ rfl)
    rw [if_neg (fun h' => hd h'.1)]
    simp [hk]

/-- Every bit of a word of the array is bit `64 * n + j` of the array. -/
theorem test_word (ws : List UInt64) {n j : Nat} (hj : j < 64) :
    test ws (n * 64 + j) = bitAt (ws.getD n 0) (63 - j) := by
  have hdiv : (n * 64 + j) / 64 = n := by omega
  have hpos : pos (n * 64 + j) = 63 - j := by
    unfold pos
    omega
  rw [test, hdiv, hpos]

/-- An array of full words has every bit set that falls in it. -/
theorem test_of_full {ws : List UInt64} (h : ∀ n < ws.length, ws.getD n 0 = full) {k : Nat}
    (hk : k < 64 * ws.length) : test ws k = true := by
  unfold test
  rw [h (k / 64) (by omega)]
  exact bitAt_full (pos_lt k)

/-- Setting bit `j` of word `n` rewrites that word. -/
theorem set_eq_set (ws : List UInt64) {n j : Nat} (hj : j < 64) :
    set ws (n * 64 + j) = ws.set n (ws.getD n 0 ||| single (63 - j)) := by
  have hdiv : (n * 64 + j) / 64 = n := by omega
  have hpos : pos (n * 64 + j) = 63 - j := by
    unfold pos
    omega
  rw [set, hdiv, hpos, List.modify_eq_set, List.getD_eq_getElem?_getD]
  rfl

/-- Clearing bit `k` rewrites its word. -/
theorem clear_eq_set (ws : List UInt64) (k : Nat) :
    clear ws k = ws.set (k / 64) (ws.getD (k / 64) 0 &&& ~~~single (pos k)) := by
  rw [clear, List.modify_eq_set, List.getD_eq_getElem?_getD]
  rfl

/-! ### Counting set bits -/

section Count

variable (S : Finset Nat) (ws : List UInt64)

/-- The set bits of `S`, after setting a bit of `S` whose word is there, gain that bit. -/
theorem filter_test_set {k : Nat} (h : k / 64 < ws.length) (hk : k ∈ S) :
    S.filter (fun k' => test (set ws k) k') = insert k (S.filter fun k' => test ws k') := by
  ext k'
  simp only [Finset.mem_filter, Finset.mem_insert, test_set h, Bool.or_eq_true, beq_iff_eq]
  constructor
  · rintro ⟨hk', hset | rfl⟩
    · exact .inr ⟨hk', hset⟩
    · exact .inl rfl
  · rintro (rfl | ⟨hk', hset⟩)
    · exact ⟨hk, .inr rfl⟩
    · exact ⟨hk', .inl hset⟩

/-- The set bits of `S`, after clearing a bit, lose that bit. -/
theorem filter_test_clear (k : Nat) :
    S.filter (fun k' => test (clear ws k) k') = (S.filter fun k' => test ws k').erase k := by
  ext k'
  simp only [Finset.mem_filter, test_clear, Bool.and_eq_true, bne_iff_ne, Finset.mem_erase]
  constructor
  · rintro ⟨hk', hset, hne⟩
    exact ⟨hne, hk', hset⟩
  · rintro ⟨hne, hk', hset⟩
    exact ⟨hk', hset, hne⟩

end Count

end WordBits

namespace Go

/-! ### Signed arithmetic that does not overflow -/

theorem int64_toInt_add {a b : Int64} (hlo : -2 ^ 63 ≤ a.toInt + b.toInt) (hhi : a.toInt + b.toInt < 2 ^ 63) :
    (a + b).toInt = a.toInt + b.toInt := by
  rw [Int64.toInt_add]
  exact Int.bmod_eq_of_le_mul_two (by omega) (by omega)

theorem int64_toInt_sub {a b : Int64} (hlo : -2 ^ 63 ≤ a.toInt - b.toInt) (hhi : a.toInt - b.toInt < 2 ^ 63) :
    (a - b).toInt = a.toInt - b.toInt := by
  rw [Int64.toInt_sub]
  exact Int.bmod_eq_of_le_mul_two (by omega) (by omega)

theorem int64_toInt_mul {a b : Int64} (hlo : -2 ^ 63 ≤ a.toInt * b.toInt) (hhi : a.toInt * b.toInt < 2 ^ 63) :
    (a * b).toInt = a.toInt * b.toInt := by
  rw [Int64.toInt_mul]
  exact Int.bmod_eq_of_le_mul_two (by omega) (by omega)

/-- Truncated division is floor division of the magnitude, with the dividend's sign. -/
theorem tdiv_eq_ite (a b : Int) : a.tdiv b = if 0 ≤ a then a / b else -((-a) / b) := by
  split
  · exact Int.tdiv_eq_ediv_of_nonneg (by assumption)
  · rename_i h
    rw [← Int.tdiv_eq_ediv_of_nonneg (by omega), Int.neg_tdiv, Int.neg_neg]

/-- Division by a positive `int64` truncates, and never overflows: the quotient has the
dividend's sign and no greater magnitude. -/
theorem int64_toInt_div {a b : Int64} (hb : 0 < b.toInt) : (a / b).toInt = a.toInt.tdiv b.toInt := by
  have ha₁ := Int64.le_toInt a
  have ha₂ := Int64.toInt_lt a
  have hq := Int.natAbs_tdiv_le_natAbs a.toInt b.toInt
  rw [Int64.toInt_div]
  rcases Int.le_total 0 a.toInt with h | h
  · have := Int.tdiv_nonneg h (Int.le_of_lt hb)
    exact Int.bmod_eq_of_le_mul_two (by omega) (by omega)
  · have := Int.tdiv_nonneg (Int.neg_nonneg_of_nonpos h) (Int.le_of_lt hb)
    rw [Int.neg_tdiv] at this
    exact Int.bmod_eq_of_le_mul_two (by omega) (by omega)

theorem int64_toInt_ofNat {n : Nat} (h : n < 2 ^ 63) : (Int64.ofNat n).toInt = n := by
  have hs : Int64.size = 2 ^ 64 := rfl
  rw [Int64.toInt_ofNat', hs]
  exact Int.bmod_eq_of_le_mul_two (by omega) (by omega)

/-- Go's `%` keeps the sign of the dividend: a negative one not a multiple of the divisor
leaves a negative remainder. -/
theorem tmod_neg_of_not_dvd {a b : Int} (ha : a < 0) (hd : ¬ b ∣ a) : a.tmod b < 0 := by
  have h : a.tmod b = -((-a).tmod b) := by rw [Int.neg_tmod, Int.neg_neg]
  rcases Int.emod_pos_of_not_dvd (fun h' => hd ((Int.dvd_neg).1 h')) with hb | hpos
  · subst hb
    simpa [Int.tmod_zero] using ha
  · rw [h, Int.tmod_eq_emod_of_nonneg (by omega)]
    omega

/-! ### Narrow words inside an `int64` -/

/-- The unsigned word of an `int64` is its value modulo `2 ^ 64`. -/
theorem int64_toNat_toUInt64 (x : Int64) : (x.toUInt64.toNat : Int) = x.toInt % 2 ^ 64 := by
  have hlt := x.toBitVec.isLt
  have hmod := @Int.bmod_emod (x.toBitVec.toNat : Int) (2 ^ 64)
  simp only [Int.natCast_pow, Int.cast_ofNat_Int] at hmod
  rw [← Int64.toNat_toBitVec, ← Int64.toInt_toBitVec, BitVec.toInt_eq_toNat_bmod, hmod]
  omega

/-- `bmod` keeps a value of the signed range of `w + 1` bits. -/
theorem bmod_two_pow_succ {m : Int} {w : Nat} (hlo : -2 ^ w ≤ m) (hhi : m < 2 ^ w) :
    m.bmod (2 ^ (w + 1)) = m := by
  refine Int.bmod_eq_of_le_mul_two ?_ ?_ <;> push_cast <;> rw [pow_succ] <;> omega

/-- An `int64` holding the `w`-bit two's complement of `n < 2 ^ w` has `n` in its low `w`
bits. -/
theorem int64_toNat_toUInt64_emod {x : Int64} {w n : Nat} (hw : w ≤ 64) (hn : n < 2 ^ w)
    (hx : x.toInt = (n : Int).bmod (2 ^ w)) : x.toUInt64.toNat % 2 ^ w = n := by
  have hdvd : (2 : Int) ^ w ∣ 2 ^ 64 := pow_dvd_pow 2 hw
  have hmod := @Int.bmod_emod (n : Int) (2 ^ w)
  simp only [Int.natCast_pow, Int.cast_ofNat_Int] at hmod
  have hn' : (n : Int) < 2 ^ w := by exact_mod_cast hn
  have h : ((x.toUInt64.toNat % 2 ^ w : Nat) : Int) = n := by
    rw [Int.natCast_emod, Int.natCast_pow, Int.cast_ofNat_Int, int64_toNat_toUInt64,
      Int.emod_emod_of_dvd _ hdvd, hx, hmod]
    exact Int.emod_eq_of_lt (Int.natCast_nonneg n) hn'
  exact Int.ofNat_inj.mp h

/-- A `uint64`'s bits read as an `int64`: its value wrapped to the signed range. -/
theorem uint64_toInt_toInt64 (v : UInt64) : v.toInt64.toInt = (v.toNat : Int).bmod (2 ^ 64) := by
  have hs : Int64.size = 2 ^ 64 := rfl
  have h := int64_toNat_toUInt64 v.toInt64
  have hmod := @Int.emod_bmod v.toInt64.toInt (2 ^ 64)
  simp only [Int.natCast_pow, Int.cast_ofNat_Int] at hmod
  rw [UInt64.toUInt64_toInt64] at h
  rw [h, hmod, ← hs, Int64.toInt_bmod_size]

end Go
