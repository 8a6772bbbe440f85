import Gocql.Marshal.Integers

/-!
# Marshal — the varint codec

A CQL `varint` is a big-endian two's-complement integer of any length.  `marshal.go` has two
encoders for it: `encBigInt2C` for a `big.Int`, and `marshalVarint`, which writes a Go integer
at eight bytes (nine for a `uint64` above `math.MaxInt64`) and then trims redundant leading
bytes in a loop.  It has two decoders: `decBigInt2C` into a `big.Int`, and `unmarshalVarint`,
which sign-extends at most eight bytes into an `int64` and reads the nine-byte form back into a
`uint64`.

* `encBigInt2C_minimal`, `sval_encBigInt2C`: `encBigInt2C n` is the minimal two's-complement
  string of `n`, so by `BigEndian.minimal_length_le` a shortest one.
* `trimLeading_spec`: the trimming loop keeps the value and leaves no redundant byte, so by
  `BigEndian.minimal_unique` `marshalVarint` agrees with `encBigInt2C` (`marshalVarint_int64`,
  `marshalVarint_uint64`, `marshalVarint_bigInt`).
* `toInt_varintInt64`: the sign extension of `unmarshalVarint` computes the two's-complement
  value of at most eight bytes.
* `marshalVarint_roundTrip`: the decoders read the minimal string back at every destination
  the encoders are paired with.
-/

namespace Gocql

open BigEndian

/-! ### `encBigInt2C` -/

/-- The magnitude bytes of a positive `n`, with a `0x00` put before a leading top bit. -/
theorem encBigInt2C_pos {n : Int} (hn : 0 < n) :
    Minimal (encBigInt2C n) ∧ sval (encBigInt2C n) = n := by
  have hm : n.natAbs ≠ 0 := by omega
  obtain ⟨b, bs, hb, hb0⟩ := ofNat_cons hm
  have hval : (val (b :: bs) : Int) = n := by rw [← hb, val_ofNat]; omega
  simp only [encBigInt2C, if_neg hn.ne', if_pos hn, bigIntBytes, hb, and_0x80_pos_iff]
  by_cases top : 0x80 ≤ b.toNat
  · rw [if_pos top]
    exact ⟨minimal_zero_cons top bs, by rw [sval_zero_cons_val, hval]⟩
  · rw [if_neg top]
    have hff : b ≠ 0xFF := by rintro rfl; exact top (by decide)
    refine ⟨minimal_of_ne hb0 hff bs, ?_⟩
    rw [← hval]
    simp [sval, top]

/-- The sizes `encBigInt2C` works with for a negative `n` of magnitude `m`: with
`q = BitLen(n) / 8`, `256^q ≤ 2m` and `m < 128 · 256^q`. -/
theorem bitLen_bounds {n : Int} (hn : n < 0) :
    256 ^ (bitLen n / 8) ≤ 2 * n.natAbs ∧ n.natAbs < 128 * 256 ^ (bitLen n / 8) := by
  have hk : 0 < bitLen n := Nat.size_pos.mpr (by omega)
  have hlo : 2 ^ (bitLen n - 1) ≤ n.natAbs := Nat.lt_size.mp (show bitLen n - 1 < bitLen n by omega)
  have hhi : n.natAbs < 2 ^ bitLen n := Nat.lt_size_self _
  have h256 : ∀ j, (256 : Nat) ^ j = 2 ^ (8 * j) := fun j => by rw [pow_mul]; norm_num
  constructor
  · calc 256 ^ (bitLen n / 8) = 2 ^ (8 * (bitLen n / 8)) := h256 _
      _ ≤ 2 ^ bitLen n := Nat.pow_le_pow_right (by norm_num) (Nat.mul_div_le _ 8)
      _ = 2 * 2 ^ (bitLen n - 1) := by rw [← pow_succ']; congr 1; omega
      _ ≤ 2 * n.natAbs := by omega
  · calc n.natAbs < 2 ^ bitLen n := hhi
      _ ≤ 2 ^ (8 * (bitLen n / 8) + 7) := Nat.pow_le_pow_right (by norm_num) (by omega)
      _ = 128 * 256 ^ (bitLen n / 8) := by rw [h256, pow_add]; ring

/-- Two leading `0xFF` bytes would leave a magnitude `m` too small for its bit length. -/
theorem not_ff_ff (m : Nat) (rest : List UInt8) (h2m : 256 * 256 ^ rest.length ≤ 2 * m)
    (hv : val (0xFF :: 0xFF :: rest) + m = 256 * (256 * 256 ^ rest.length)) : False := by
  have h255 : (0xFF : UInt8).toNat = 255 := rfl
  rw [val_cons, val_cons, h255, List.length_cons, pow_succ] at hv
  have hR : 0 < 256 ^ rest.length := by positivity
  generalize 256 ^ rest.length = R at *
  nlinarith

/-- For a negative `n`, the bytes of `n + 2 ^ length`, with one redundant `0xff` removed. -/
theorem encBigInt2C_neg {n : Int} (hn : n < 0) :
    Minimal (encBigInt2C n) ∧ sval (encBigInt2C n) = n := by
  obtain ⟨hQ₁, hQ₂⟩ := bitLen_bounds hn
  obtain ⟨q, hq⟩ : ∃ q, bitLen n / 8 = q := ⟨_, rfl⟩
  obtain ⟨m, hm⟩ : ∃ m, n.natAbs = m := ⟨_, rfl⟩
  rw [hq, hm] at hQ₁ hQ₂
  have hmn : (m : Int) = -n := by omega
  have hpow : (2 : Int) ^ ((q + 1) * 8) = 256 * 256 ^ q := by
    rw [mul_comm, pow_mul]; norm_num [pow_succ]; ring
  -- the string encodes `v = 256 · 256^q - m`, which lies in `(128 · 256^q, 256 · 256^q)`
  have hv : (n + 2 ^ ((q + 1) * 8)).natAbs = 256 * 256 ^ q - m := by
    have hQ : ((256 ^ q : Nat) : Int) = 256 ^ q := by push_cast; ring
    rw [hpow]
    omega
  have hlen : (ofNat (256 * 256 ^ q - m)).length = q + 1 := by
    apply length_ofNat_eq <;> rw [pow_succ'] <;> omega
  obtain ⟨b₀, rest, hb, hb0⟩ := ofNat_cons (show 256 * 256 ^ q - m ≠ 0 by omega)
  have hval : val (b₀ :: rest) = 256 * 256 ^ q - m := by rw [← hb, val_ofNat]
  rw [hb, List.length_cons, Nat.add_right_cancel_iff] at hlen
  have htop : 0x80 ≤ b₀.toNat := by
    rw [top_bit_iff, hval, hlen]; omega
  have hsval : sval (b₀ :: rest) = n := by
    simp only [sval, if_pos htop, hval, hlen]
    push_cast [show m ≤ 256 * 256 ^ q by omega]
    rw [pow_succ]
    omega
  simp only [encBigInt2C, if_neg hn.ne, if_neg (not_lt.mpr hn.le), bigIntBytes, hq, hv, hb]
  split
  · -- `b = 0xff :: b₁ :: rest'`: the `0xff` goes when `b₁` has its top bit set
    rename_i b₁ rest' heq
    injection heq with h₀ hrest
    subst h₀ hrest
    split
    · rename_i h1
      have h1' : 0x80 ≤ b₁.toNat := (and_0x80_pos_iff b₁).mp (by
        have : b₁ &&& 0x80 ≠ 0 := h1
        exact UInt8.pos_iff_ne_zero.mpr this)
      refine ⟨minimal_of_ne (by rintro rfl; exact absurd h1' (by decide)) ?_ rest', ?_⟩
      · rintro rfl
        simp only [List.length_cons] at hlen
        subst hlen
        rw [pow_succ] at hQ₁ hQ₂ hval
        exact not_ff_ff m rest' (by omega) (by rw [hval]; omega)
      · rw [← sval_ff_cons h1' rest', hsval]
    · rename_i h1
      have h1' : b₁.toNat < 0x80 := by
        by_contra hc
        exact h1 (UInt8.pos_iff_ne_zero.mp ((and_0x80_pos_iff b₁).mpr (by omega)))
      exact ⟨minimal_ff_cons h1' rest', hsval⟩
  · rename_i hnot
    refine ⟨?_, hsval⟩
    cases rest with
    | nil => trivial
    | cons b₁ rest' =>
        by_cases hff : b₀ = 0xFF
        · subst hff
          exact absurd rfl (hnot b₁ rest')
        · exact minimal_of_ne hb0 hff _

/-- **`encBigInt2C n` is minimal.** -/
theorem encBigInt2C_minimal (n : Int) : Minimal (encBigInt2C n) := by
  rcases lt_trichotomy n 0 with h | rfl | h
  · exact (encBigInt2C_neg h).1
  · trivial
  · exact (encBigInt2C_pos h).1

/-- **`encBigInt2C n` denotes `n`.** -/
theorem sval_encBigInt2C (n : Int) : sval (encBigInt2C n) = n := by
  rcases lt_trichotomy n 0 with h | rfl | h
  · exact (encBigInt2C_neg h).2
  · rfl
  · exact (encBigInt2C_pos h).2

/-! ### `marshalVarint` -/

/-- The loop of `marshalVarint` that trims down to the most significant byte, on the suffix
`retBytes[i:]` it has reached: it stops at a byte that is neither `0x00` nor `0xFF`, steps past
a `0x00` or `0xFF` repeated, and otherwise drops the leading byte only when the next one carries
the same sign. -/
def trimLeading : List UInt8 → List UInt8
  | b₀ :: b₁ :: rest =>
      if b₀ ≠ 0 ∧ b₀ ≠ 0xFF then b₀ :: b₁ :: rest
      else if b₀ = 0 ∧ b₁ ≠ 0 then
        if b₁ &&& 0x80 = 0 then b₁ :: rest else b₀ :: b₁ :: rest
      else if b₀ = 0xFF ∧ b₁ ≠ 0xFF then
        if b₁ &&& 0x80 > 0 then b₁ :: rest else b₀ :: b₁ :: rest
      else trimLeading (b₁ :: rest)
  | bs => bs

/-- `marshalVarint`: a `uint64` above `math.MaxInt64` takes nine bytes, every other value what
`marshalBigInt` gives; then the leading bytes are trimmed. -/
def marshalVarint : GoValue → Except MarshalError GoBytes
  | .unset => .ok none
  | .uint64 v =>
      let retBytes := if maxInt64 < v.toNat then 0 :: putUint64 v else putUint64 v
      .ok (some (trimLeading retBytes))
  | v => (marshalBigInt v).map (Option.map trimLeading)

/-- **The trimming loop leaves a minimal string of the same value.**  The induction follows the
loop: each step either stops at a needed byte or drops one that sign extension restores. -/
theorem trimLeading_spec : ∀ (b : UInt8) (bs : List UInt8),
    Minimal (trimLeading (b :: bs)) ∧ sval (trimLeading (b :: bs)) = sval (b :: bs)
  | b, [] => ⟨trivial, rfl⟩
  | b₀, b₁ :: rest => by
      obtain ⟨ih₁, ih₂⟩ := trimLeading_spec b₁ rest
      have h1 := and_0x80_pos_iff b₁
      rw [trimLeading]
      split_ifs with hne h0 hclear hff hset
      · exact ⟨minimal_of_ne hne.1 hne.2 _, rfl⟩
      · -- `0x00` before a byte with its top bit clear
        have hb : b₁.toNat < 0x80 := by
          have : ¬ b₁ &&& 0x80 > 0 := by rw [hclear]; decide
          rw [h1] at this; omega
        refine ⟨minimal_of_ne h0.2 (by rintro rfl; exact absurd hb (by decide)) _, ?_⟩
        rw [h0.1, sval_zero_cons hb]
      · have hb : 0x80 ≤ b₁.toNat := h1.mp (UInt8.pos_iff_ne_zero.mpr hclear)
        rw [h0.1]
        exact ⟨minimal_zero_cons hb rest, rfl⟩
      · -- `0xFF` before a byte with its top bit set
        have hb : 0x80 ≤ b₁.toNat := h1.mp hset
        refine ⟨minimal_of_ne (by rintro rfl; exact absurd hb (by decide)) hff.2 _, ?_⟩
        rw [hff.1, sval_ff_cons hb]
      · have hb : b₁.toNat < 0x80 := by rw [h1] at hset; omega
        rw [hff.1]
        exact ⟨minimal_ff_cons hb rest, rfl⟩
      · -- a repeated `0x00` or `0xFF`: the loop goes on one byte later
        refine ⟨ih₁, ih₂.trans ?_⟩
        have hb₀ : b₀ = 0 ∨ b₀ = 0xFF := by
          by_contra hc; exact hne ⟨fun h => hc (.inl h), fun h => hc (.inr h)⟩
        rcases hb₀ with rfl | rfl
        · have : b₁ = 0 := by by_contra hc; exact h0 ⟨rfl, hc⟩
          subst this
          exact (sval_zero_cons (by decide) rest).symm
        · have : b₁ = 0xFF := by by_contra hc; exact hff ⟨rfl, hc⟩
          subst this
          exact (sval_ff_cons (by decide) rest).symm

/-- A fixed-width two's-complement string trims to `encBigInt2C` of its value. -/
theorem trimLeading_eq_encBigInt2C (b : UInt8) (bs : List UInt8) :
    trimLeading (b :: bs) = encBigInt2C (sval (b :: bs)) := by
  obtain ⟨hmin, hval⟩ := trimLeading_spec b bs
  exact minimal_unique hmin (encBigInt2C_minimal _) (by rw [hval, sval_encBigInt2C])

/-- `marshalVarint` of an `int64` is `encBigInt2C` of it. -/
theorem marshalVarint_int64 (x : Int64) :
    marshalVarint (.int64 x) = .ok (some (encBigInt2C x.toInt)) := by
  have h := trimLeading_eq_encBigInt2C (goByte (x.toInt >>> (56 : Nat))) (encBigInt x).tail
  rw [← sval_encBigInt x]
  exact congrArg (fun bs => Except.ok (some bs)) h

/-- The eight bytes of `putUint64 u` lead with a set top bit exactly above `math.MaxInt64`. -/
theorem putUint64_top_bit (u : UInt64) :
    ∃ b bs, putUint64 u = b :: bs ∧ (0x80 ≤ b.toNat ↔ maxInt64 < u.toNat) := by
  obtain ⟨b, bs, hb⟩ : ∃ b bs, putUint64 u = b :: bs := ⟨_, _, rfl⟩
  have hlen : bs.length = 7 := by
    have := congrArg List.length hb
    simp only [putUint64, List.length_cons, List.length_nil] at this
    omega
  refine ⟨b, bs, hb, ?_⟩
  rw [top_bit_iff, ← hb, val_putUint64, hlen, maxInt64]
  omega

/-- Above `math.MaxInt64` the minimal string of a `uint64` is its eight bytes behind `0x00`. -/
theorem encBigInt2C_of_gt_maxInt64 {u : UInt64} (hu : maxInt64 < u.toNat) :
    encBigInt2C u.toNat = 0 :: putUint64 u := by
  obtain ⟨b, bs, hb, htop⟩ := putUint64_top_bit u
  refine minimal_unique (encBigInt2C_minimal _) ?_ ?_
  · rw [hb]; exact minimal_zero_cons (htop.mpr hu) bs
  · rw [sval_encBigInt2C, sval_zero_cons_val, val_putUint64]

/-- `marshalVarint` of a `uint64` is `encBigInt2C` of it, at nine bytes above `MaxInt64`. -/
theorem marshalVarint_uint64 (u : UInt64) :
    marshalVarint (.uint64 u) = .ok (some (encBigInt2C u.toNat)) := by
  simp only [marshalVarint]
  congr 2
  obtain ⟨b, bs, hb, htop⟩ := putUint64_top_bit u
  split
  · rw [trimLeading_eq_encBigInt2C, sval_zero_cons_val, val_putUint64]
  · rename_i hle
    -- below `2^63` the leading byte of the eight has its top bit clear
    rw [hb, trimLeading_eq_encBigInt2C, sval, if_neg (fun h => hle (htop.mp h)), ← hb,
      val_putUint64, sub_zero]

/-- The trimming loop leaves a minimal string as it is. -/
theorem trimLeading_of_minimal {bs : List UInt8} (h : Minimal bs) : trimLeading bs = bs := by
  cases bs with
  | nil => exact absurd h id
  | cons b bs =>
      obtain ⟨hmin, hval⟩ := trimLeading_spec b bs
      exact minimal_unique hmin h hval

/-- `marshalVarint` of a `big.Int` is `encBigInt2C` of it. -/
theorem marshalVarint_bigInt (n : Int) :
    marshalVarint (.bigInt n) = .ok (some (encBigInt2C n)) := by
  simp only [marshalVarint, marshalBigInt, Except.map, Option.map,
    trimLeading_of_minimal (encBigInt2C_minimal n)]

/-! ### `unmarshalVarint` -/

/-- `int64Val` of `unmarshalVarint`: `bytesToInt64` of at most eight bytes, less `2 ^ (8 * len)`
when the leading byte's top bit is set and fewer than eight bytes were read. -/
def varintInt64 (data : List UInt8) : Int64 :=
  match data with
  | b :: _ =>
      if data.length < 8 ∧ b &&& 0x80 > 0 then
        bytesToInt64 data - ((1 : Int64) <<< Int64.ofNat (data.length * 8))
      else bytesToInt64 data
  | [] => bytesToInt64 data

/-- `unmarshalVarint`: a `*big.Int` decodes every length; a `*uint64` takes the nine-byte form
with a leading `0x00`; every other destination takes at most eight bytes, sign-extended. -/
def unmarshalVarint (typ : CqlType) (data : List UInt8) (dest : IntDest) :
    Except UnmarshalError GoValue :=
  if dest = .bigInt then unmarshalIntlike typ 0 data dest
  else if dest = .uint64 ∧ data.length = 9 ∧ data.head? = some 0 then
    .ok (.uint64 (bytesToUint64 data.tail))
  else if 8 < data.length then .error (.varintOutOfRange data dest)
  else unmarshalIntlike typ (varintInt64 data) data dest

theorem toInt_one_shiftLeft {k : Nat} (h1 : 1 ≤ k) (h2 : k < 8) :
    ((1 : Int64) <<< Int64.ofNat (k * 8)).toInt = 2 ^ (k * 8) := by
  interval_cases k <;> decide

/-- Up to eight bytes sign-extend to their two's-complement value modulo `2 ^ 64`. -/
theorem toInt_varintInt64_bmod {data : List UInt8} (hlen : data.length ≤ 8) :
    (varintInt64 data).toInt = (sval data).bmod (2 ^ 64) := by
  cases data with
  | nil => decide
  | cons b bs =>
      have hsize : Int64.size = 2 ^ 64 := rfl
      have hpow : (2 : Int) ^ ((b :: bs).length * 8) = 256 ^ (bs.length + 1) := by
        rw [List.length_cons, pow_mul']; norm_num
      simp only [varintInt64, bytesToInt64, orBytes_zero, sval, and_0x80_pos_iff]
      by_cases htop : 0x80 ≤ b.toNat
      · rw [if_pos htop]
        by_cases hshort : (b :: bs).length < 8
        · -- fewer than eight bytes: the subtraction is the sign extension
          rw [if_pos ⟨hshort, htop⟩, Int64.toInt_sub, Int64.toInt_ofNat',
            toInt_one_shiftLeft (by simp) hshort, hsize, Int.bmod_sub_bmod, hpow]
        · -- eight bytes: \`Int64.ofNat\` already wraps around
          have h8 : bs.length + 1 = 8 := by
            simp only [List.length_cons] at hlen hshort; omega
          have hwrap : (256 : Int) ^ 8 = 1 * ((2 ^ 64 : Nat) : Int) := by norm_num
          rw [if_neg (fun h => hshort h.1), Int64.toInt_ofNat', hsize, h8, hwrap,
            Int.sub_mul_bmod_self_right]
      · rw [if_neg htop, if_neg (fun h => htop h.2), Int64.toInt_ofNat', sub_zero, hsize]

/-- Up to eight bytes sign-extend to their two's-complement value. -/
theorem toInt_varintInt64 {data : List UInt8} (hlen : data.length ≤ 8) :
    (varintInt64 data).toInt = sval data := by
  rw [toInt_varintInt64_bmod hlen]
  cases data with
  | nil => rfl
  | cons b bs =>
      obtain ⟨hlo, hhi⟩ := sval_bounds b bs
      have hP : (256 : Int) ^ bs.length ≤ 256 ^ 7 :=
        pow_le_pow_right₀ (by norm_num) (by simp only [List.length_cons] at hlen; omega)
      exact Int.bmod_eq_of_le (by push_cast; omega) (by push_cast; omega)

/-- The minimal string of an `int64` takes at most the eight bytes of `encBigInt`. -/
theorem length_encBigInt2C_int64 (x : Int64) : (encBigInt2C x.toInt).length ≤ 8 := by
  have h : (encBigInt2C x.toInt).length ≤ (encBigInt x).length :=
    minimal_length_le (encBigInt2C_minimal x.toInt) (by simp [encBigInt])
      (by rw [sval_encBigInt, sval_encBigInt2C])
  simpa [encBigInt] using h

/-- At most eight bytes sign-extend back to the `int64` they denote. -/
theorem varintInt64_encBigInt2C (x : Int64) : varintInt64 (encBigInt2C x.toInt) = x :=
  Int64.toInt_inj.mp (by rw [toInt_varintInt64 (length_encBigInt2C_int64 x), sval_encBigInt2C])

/-- `unmarshalVarint` into a `*big.Int` reads `decBigInt2C`, whatever the length. -/
theorem unmarshalVarint_bigInt (typ : CqlType) (n : Int) :
    unmarshalVarint typ (encBigInt2C n) .bigInt = .ok (.bigInt n) := by
  simp only [unmarshalVarint, if_pos, unmarshalIntlike, decBigInt2C_eq_sval, sval_encBigInt2C]

/-- `unmarshalVarint` into an `*int64` inverts `encBigInt2C`. -/
theorem unmarshalVarint_int64 (typ : CqlType) (x : Int64) :
    unmarshalVarint typ (encBigInt2C x.toInt) .int64 = .ok (.int64 x) := by
  have hlen := length_encBigInt2C_int64 x
  rw [unmarshalVarint, if_neg (by decide), if_neg (by simp), if_neg (by omega),
    varintInt64_encBigInt2C]
  rfl

/-- `unmarshalVarint` into a `*uint64` inverts `encBigInt2C`: through the nine-byte form above
`math.MaxInt64`, through the sign extension below it. -/
theorem unmarshalVarint_uint64 (u : UInt64) :
    unmarshalVarint .varint (encBigInt2C u.toNat) .uint64 = .ok (.uint64 u) := by
  by_cases hu : maxInt64 < u.toNat
  · have hlen : (putUint64 u).length = 8 := by simp [putUint64]
    rw [encBigInt2C_of_gt_maxInt64 hu, unmarshalVarint, if_neg (by decide),
      if_pos ⟨rfl, by simp [hlen], rfl⟩]
    simp only [List.tail_cons, bytesToUint64, orBytes_zero, val_putUint64, UInt64.ofNat_toNat]
  · -- below `2^63` the value is the `int64` of the same bits
    have hx : ((Int64.ofNat u.toNat).toInt : Int) = u.toNat := by
      have hsize : Int64.size = 2 ^ 64 := rfl
      unfold maxInt64 at hu
      rw [Int64.toInt_ofNat', hsize]
      exact Int.bmod_eq_of_le (by push_cast; omega) (by push_cast; omega)
    have hlen := length_encBigInt2C_int64 (Int64.ofNat u.toNat)
    have hv := varintInt64_encBigInt2C (Int64.ofNat u.toNat)
    rw [hx] at hlen hv
    rw [unmarshalVarint, if_neg (by decide), if_neg (by omega), if_neg (by omega), hv]
    simp only [unmarshalIntlike, Int64.toUInt64_ofNat', UInt64.ofNat_toNat]
    rfl

/-! ### The round trip -/

/-- **The varint codec.**  `encBigInt2C` is inverted by `decBigInt2C` and gives the minimal,
hence shortest, two's-complement string; `marshalVarint` gives that string for every `big.Int`,
`int64` and `uint64`, and `unmarshalVarint` reads it back at the same type. -/
theorem marshalVarint_roundTrip :
    (∀ n : Int, decBigInt2C (encBigInt2C n) = n ∧ Minimal (encBigInt2C n) ∧
      (∀ bs : List UInt8, bs ≠ [] → decBigInt2C bs = n → (encBigInt2C n).length ≤ bs.length) ∧
      marshalVarint (.bigInt n) = .ok (some (encBigInt2C n)) ∧
      unmarshalVarint .varint (encBigInt2C n) .bigInt = .ok (.bigInt n)) ∧
    (∀ x : Int64, marshalVarint (.int64 x) = .ok (some (encBigInt2C x.toInt)) ∧
      unmarshalVarint .varint (encBigInt2C x.toInt) .int64 = .ok (.int64 x)) ∧
    (∀ u : UInt64, marshalVarint (.uint64 u) = .ok (some (encBigInt2C u.toNat)) ∧
      unmarshalVarint .varint (encBigInt2C u.toNat) .uint64 = .ok (.uint64 u)) := by
  refine ⟨fun n => ⟨?_, encBigInt2C_minimal n, ?_, marshalVarint_bigInt n,
    unmarshalVarint_bigInt _ n⟩, fun x => ⟨marshalVarint_int64 x, unmarshalVarint_int64 _ x⟩,
    fun u => ⟨marshalVarint_uint64 u, unmarshalVarint_uint64 u⟩⟩
  · rw [decBigInt2C_eq_sval, sval_encBigInt2C]
  · intro bs hbs hdec
    rw [decBigInt2C_eq_sval] at hdec
    exact minimal_length_le (encBigInt2C_minimal n) hbs (by rw [hdec, sval_encBigInt2C])

end Gocql
