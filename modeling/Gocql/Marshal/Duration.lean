import Gocql.Marshal.Integers
import Gocql.Support.WordBits

/-!
# Marshal — the duration codec

A CQL `duration` is three signed variable-length integers: months, days and nanoseconds.  Each
is zig-zag encoded (`encIntZigZag`), so that small magnitudes of either sign become small
unsigned numbers, and written in the unsigned VInt form: a first byte whose leading ones count
the bytes that follow, then those bytes, most significant first.  `encVint` picks the number of
bytes from the leading zeros of the zig-zag value, `(639 - 9 * lead0) >> 6`; `decVint` reads
the count back from the leading ones of the first byte.

* `encIntZigZag`, `decIntZigZag`, `encVint`, `decVint`, `encVints`, `decVints`,
  `marshalDuration`, `unmarshalDuration`: the source's.
* `decIntZigZag_encIntZigZag`: zig-zag is inverted for every `int64`, both signs and both ends.
* `encVint_of_lt`, `encVint_of_ge`: the bytes `encVint` writes, one byte below 128 and otherwise a
  first byte of `e` marker ones, a zero and the top of the value, then `e` bytes of the rest.
* `decVint_encVint`: `decVint` reads back what `encVint` wrote, at any offset and whatever follows.
* `encVint_length_minimal`: the length is the least VInt length of the zig-zag value
  (`IsMinVintLength`, over `vintBits`: seven value bits to a byte up to eight bytes, 64 in nine).
* `vint_roundTrip`: the three together with `unmarshalDuration_marshalDuration`, that every
  `Duration` comes back as it was written.
-/

namespace Gocql

open Go

/-! ### The source -/

/-- `encIntZigZag(n)`: `uint64((n >> 63) ^ (n << 1))`, the shift right arithmetic. -/
def encIntZigZag (n : Int64) : UInt64 := ((n >>> 63) ^^^ (n <<< 1)).toUInt64

/-- `decIntZigZag(n)`: `int64((n >> 1) ^ -(n & 1))`. -/
def decIntZigZag (n : UInt64) : Int64 := ((n >>> 1) ^^^ (-(n &&& 1))).toInt64

/-- `encVint`'s loop, from `i` down to 0: `buf[i] = byte(vEnc)`, then `vEnc >>= 8`. -/
def encVintLoop : Nat → UInt64 → List UInt8 → List UInt8
  | 0, vEnc, buf => buf.set 0 vEnc.toUInt8
  | i + 1, vEnc, buf => encVintLoop i (vEnc >>> 8) (buf.set (i + 1) vEnc.toUInt8)

/-- The number of bytes `encVint` writes for a zig-zag value with `lead0` leading zeros,
`(639 - lead0*9) >> 6`. -/
def vintNumBytes (lead0 : Nat) : Nat := (639 - lead0 * 9) / 64

/-- `encVint(v)`. -/
def encVint (v : Int64) : List UInt8 :=
  let vEnc := encIntZigZag v
  let numBytes := vintNumBytes (leadingZeros64 vEnc)
  -- it can be 1 or 0 if v == 0
  if numBytes ≤ 1 then [vEnc.toUInt8]
  else
    let extraBytes := numBytes - 1
    let buf := encVintLoop extraBytes vEnc (List.replicate numBytes 0)
    buf.modify 0 fun b => b ||| ~~~(shr8 0xff extraBytes)

/-- `encVints(months, seconds, nanos)`. -/
def encVints (months seconds : Int32) (nanos : Int64) : List UInt8 :=
  encVint months.toInt64 ++ encVint seconds.toInt64 ++ encVint nanos

/-- The errors of `decVint`. -/
inductive VintError where
  /-- `unexpected eof` -/
  | unexpectedEOF
  /-- `data expect to have %d bytes, but it has only %d` -/
  | tooShort (want got : Nat)
  deriving DecidableEq, Repr

/-- `decVint`'s loop over the `n` bytes after position `i`: `ret <<= 8`, `ret |= data[i+1]`. -/
def decVintLoop (data : List UInt8) : Nat → Nat → UInt64 → UInt64
  | 0, _, ret => ret
  | n + 1, i, ret => decVintLoop data n (i + 1) ((ret <<< 8) ||| (data.getD (i + 1) 0 &&& 0xff).toUInt64)

/-- `decVint(data, start)`: the value and the position after it. -/
def decVint (data : List UInt8) (start : Nat) : Except VintError (Int64 × Nat) :=
  if data.length ≤ start then .error .unexpectedEOF
  else
    let firstByte := data.getD start 0
    if firstByte &&& 0x80 = 0 then .ok (decIntZigZag firstByte.toUInt64, start + 1)
    else
      let numBytes := leadingZeros32 (~~~firstByte).toUInt32 - 24
      let ret := (firstByte &&& shr8 0xff numBytes).toUInt64
      if data.length < start + numBytes + 1 then .error (.tooShort (start + numBytes + 1) data.length)
      else .ok (decIntZigZag (decVintLoop data numBytes start ret), start + numBytes + 1)

/-- The errors of `decVints`: which of the three values could not be read. -/
inductive DurationError where
  /-- `failed to extract month: %s` -/
  | month (e : VintError)
  /-- `failed to extract days: %s` -/
  | days (e : VintError)
  /-- `failed to extract nanoseconds: %s` -/
  | nanoseconds (e : VintError)
  deriving DecidableEq, Repr

/-- `decVints(data)`. -/
def decVints (data : List UInt8) : Except DurationError (Int32 × Int32 × Int64) := do
  let (month, i) ← (decVint data 0).mapError .month
  let (days, i) ← (decVint data i).mapError .days
  let (nanos, _) ← (decVint data i).mapError .nanoseconds
  pure (month.toInt32, days.toInt32, nanos)

/-- `Duration`. -/
structure Duration where
  months : Int32
  days : Int32
  nanoseconds : Int64
  deriving DecidableEq, Repr

/-- The Go values `marshalDuration` switches on: `unsetColumn`, `int64`, `time.Duration` (its
nanoseconds), `Duration`, `nil`, a named type of kind `int64`, and any other. -/
inductive DurationValue where
  | unset
  | int64 (v : Int64)
  | timeDuration (nanos : Int64)
  | duration (d : Duration)
  | nil
  | namedInt64 (v : Int64)
  | other
  deriving DecidableEq, Repr

/-- `marshalDuration`; its error is `can not marshal %T into %s`. -/
def marshalDuration : DurationValue → Except Unit GoBytes
  | .unset => .ok none
  | .int64 v => .ok (some (encVints 0 0 v))
  | .timeDuration nanos => .ok (some (encVints 0 0 nanos))
  | .duration d => .ok (some (encVints d.months d.days d.nanoseconds))
  | .nil => .ok none
  | .namedInt64 v => .ok (some (encBigInt v))
  | .other => .error ()

/-- `unmarshalDuration` into a `*Duration`: empty data is the zero duration. -/
def unmarshalDuration (data : GoBytes) : Except DurationError Duration :=
  let data := data.getD []
  if data.length = 0 then .ok ⟨0, 0, 0⟩
  else do
    let (months, days, nanos) ← decVints data
    pure ⟨months, days, nanos⟩

/-! ### Zig-zag -/

theorem sshiftRight_63 (x : BitVec 64) :
    x.sshiftRight 63 = if x.msb then BitVec.allOnes 64 else 0#64 := by
  have hlast : x.getLsbD 63 = x.msb := (BitVec.msb_eq_getLsbD_last x).symm
  apply BitVec.eq_of_getLsbD_eq
  intro i hi
  rw [BitVec.getLsbD_sshiftRight]
  cases hm : x.msb
  · rcases Nat.eq_zero_or_pos i with rfl | h
    · simp only [Nat.add_zero, hlast, hm]; simp
    · simp [show ¬ 63 + i < 64 by omega]
  · rw [if_pos rfl, BitVec.getLsbD_allOnes]
    rcases Nat.eq_zero_or_pos i with rfl | h
    · simp only [Nat.add_zero, hlast, hm]; simp
    · simp [show ¬ 63 + i < 64 by omega, hi]

theorem shl_shr_one {x : BitVec 64} (hm : x.msb = false) : (x <<< 1) >>> 1 = x := by
  have hlast : x.getLsbD 63 = x.msb := (BitVec.msb_eq_getLsbD_last x).symm
  apply BitVec.eq_of_getLsbD_eq
  intro i hi
  rw [BitVec.getLsbD_ushiftRight, BitVec.getLsbD_shiftLeft]
  rcases Nat.lt_or_ge i 63 with h | h
  · simp [show 1 + i < 64 by omega]
  · obtain rfl : i = 63 := by omega
    rw [hlast, hm]; simp

theorem not_shl_shr_one {x : BitVec 64} (hm : x.msb = true) :
    ((BitVec.allOnes 64 ^^^ x <<< 1) >>> 1) ^^^ BitVec.allOnes 64 = x := by
  have hlast : x.getLsbD 63 = x.msb := (BitVec.msb_eq_getLsbD_last x).symm
  apply BitVec.eq_of_getLsbD_eq
  intro i hi
  rw [BitVec.getLsbD_xor, BitVec.getLsbD_ushiftRight, BitVec.getLsbD_xor, BitVec.getLsbD_shiftLeft,
    BitVec.getLsbD_allOnes, BitVec.getLsbD_allOnes]
  rcases Nat.lt_or_ge i 63 with h | h
  · simp [show 1 + i < 64 by omega, hi]
  · obtain rfl : i = 63 := by omega
    rw [hlast, hm]; simp

theorem neg_and_one (y : BitVec 64) :
    -(y &&& 1#64) = if y.getLsbD 0 then BitVec.allOnes 64 else 0#64 := by
  rw [BitVec.and_one_eq_setWidth_ofBool_getLsbD]
  cases y.getLsbD 0 <;> decide

/-- Zig-zag decoding inverts zig-zag encoding on every `int64`. -/
theorem decIntZigZag_encIntZigZag (v : Int64) : decIntZigZag (encIntZigZag v) = v := by
  apply Int64.toBitVec_inj.mp
  simp only [decIntZigZag, encIntZigZag, Int64.toBitVec_xor, UInt64.toBitVec_toInt64, UInt64.toBitVec_xor,
    UInt64.toBitVec_shiftRight, UInt64.toBitVec_neg, UInt64.toBitVec_and, Int64.toBitVec_toUInt64,
    Int64.toBitVec_shiftRight, Int64.toBitVec_shiftLeft]
  have h63 : ((Int64.toBitVec 63).smod 64).toNat = 63 := by decide
  have h1 : ((Int64.toBitVec 1).smod 64).toNat = 1 := by decide
  have h1' : (1#64 % 64).toNat = 1 := by decide
  have h1'' : UInt64.toBitVec 1 = 1#64 := rfl
  rw [h1'', neg_and_one, BitVec.sshiftRight_eq', BitVec.shiftLeft_eq', BitVec.ushiftRight_eq', h63, h1, h1',
    sshiftRight_63]
  generalize v.toBitVec = x
  -- the low bit of the encoding is the sign, so the mask the decoder builds is the sign word
  have hlow : (x <<< 1).getLsbD 0 = false := by simp
  cases hm : x.msb
  · simp only [Bool.false_eq_true, if_false, BitVec.zero_xor, hlow, BitVec.xor_zero]
    exact shl_shr_one hm
  · simp only [if_true, BitVec.getLsbD_xor, BitVec.getLsbD_allOnes, hlow]
    simp
    exact not_shl_shr_one hm

/-! ### The bytes `encVint` writes -/

/-- The low `k` bytes of `x`, most significant first. -/
def beBytes : Nat → Nat → List UInt8
  | 0, _ => []
  | k + 1, x => beBytes k (x / 256) ++ [UInt8.ofNat x]

theorem length_beBytes (k x : Nat) : (beBytes k x).length = k := by
  induction k generalizing x with
  | zero => rfl
  | succ k ih => simp [beBytes, ih]

theorem val_beBytes (k x : Nat) : BigEndian.val (beBytes k x) = x % 256 ^ k := by
  induction k generalizing x with
  | zero => simp [beBytes, Nat.mod_one]
  | succ k ih =>
    rw [beBytes, BigEndian.val_append, ih, BigEndian.val_cons, List.length_singleton]
    simp only [BigEndian.val_nil, List.length_nil, pow_zero, pow_one, mul_one, add_zero]
    rw [pow_succ', Nat.mod_mul, UInt8.toNat_ofNat']
    ring

theorem beBytes_succ (k x : Nat) : beBytes (k + 1) x = UInt8.ofNat (x / 256 ^ k) :: beBytes k x := by
  induction k generalizing x with
  | zero => simp [beBytes]
  | succ k ih =>
    rw [beBytes, ih, beBytes, Nat.div_div_eq_div_mul, ← pow_succ']
    rfl

/-- The loop writes the low `i + 1` bytes of `vEnc` over the front of the buffer. -/
theorem encVintLoop_eq (i : Nat) (x : UInt64) (buf : List UInt8) (h : i < buf.length) :
    encVintLoop i x buf = beBytes (i + 1) x.toNat ++ buf.drop (i + 1) := by
  induction i generalizing x buf with
  | zero =>
    cases buf with
    | nil => simp at h
    | cons b buf => rfl
  | succ i ih =>
    have hx : (x >>> 8).toNat = x.toNat / 256 := by
      rw [UInt64.toNat_shiftRight, Nat.shiftRight_eq_div_pow]; rfl
    rw [encVintLoop, ih _ _ (by simp; omega), List.drop_set, if_neg (by omega), Nat.sub_self,
      List.drop_eq_getElem_cons h, List.set_cons_zero, hx]
    show _ = (beBytes (i + 1) (x.toNat / 256) ++ [UInt8.ofNat x.toNat]) ++ _
    rw [List.append_assoc]
    rfl

/-- The marker and the value mask of a first byte, for each count of extra bytes. -/
theorem marker_toNat {e : Nat} (he : e ≤ 8) :
    (~~~(shr8 0xff e)).toNat = 256 - 2 ^ (8 - e) ∧ (shr8 0xff e).toNat = 2 ^ (8 - e) - 1 := by
  have key : ∀ e < 9, (~~~(shr8 0xff e)).toNat = 256 - 2 ^ (8 - e) ∧
      (shr8 0xff e).toNat = 2 ^ (8 - e) - 1 := by
    decide
  exact key e (by omega)

/-- The marker ones and the value's top bits do not overlap. -/
theorem firstByte_toNat {e t : Nat} (he : e ≤ 8) (ht : t < 2 ^ (8 - e)) :
    (UInt8.ofNat t ||| ~~~(shr8 0xff e)).toNat = 2 ^ (8 - e) * (2 ^ e - 1) + t := by
  have h8 : 2 ^ (8 - e) * 2 ^ e = 256 := by rw [← pow_add, Nat.sub_add_cancel he]; rfl
  have hm : 256 - 2 ^ (8 - e) = 2 ^ (8 - e) * (2 ^ e - 1) := by rw [Nat.mul_sub_one, h8]
  have htt : t < 256 := lt_of_lt_of_le ht (h8 ▸ Nat.le_mul_of_pos_right _ (Nat.two_pow_pos e))
  rw [UInt8.toNat_or, (marker_toNat he).1, UInt8.toNat_ofNat', Nat.mod_eq_of_lt htt, hm, Nat.or_comm,
    Nat.two_pow_add_eq_or_of_lt ht]

/-- What the length formula gives for a zig-zag value of `s` bits. -/
theorem vintNumBytes_spec {s : Nat} (hs : s ≤ 64) :
    (vintNumBytes (64 - s) ≤ 1 ↔ s ≤ 7) ∧
      (2 ≤ vintNumBytes (64 - s) → vintNumBytes (64 - s) ≤ 9 ∧ 7 * (vintNumBytes (64 - s) - 1) < s ∧
        s ≤ (7 - (vintNumBytes (64 - s) - 1)) + 8 * (vintNumBytes (64 - s) - 1)) := by
  unfold vintNumBytes
  omega

theorem leadingZeros64_eq (z : UInt64) : leadingZeros64 z = 64 - z.toNat.size := rfl

theorem size_toNat_le (z : UInt64) : z.toNat.size ≤ 64 := Nat.size_le.mpr z.toNat_lt

/-- A zig-zag value below 128 is one byte. -/
theorem encVint_of_lt {v : Int64} (h : (encIntZigZag v).toNat < 128) :
    encVint v = [(encIntZigZag v).toUInt8] := by
  have hs : (encIntZigZag v).toNat.size ≤ 7 := Nat.size_le.mpr h
  have := (vintNumBytes_spec (size_toNat_le (encIntZigZag v))).1
  rw [encVint, if_pos (by rw [leadingZeros64_eq]; exact this.mpr hs)]

/-- A larger one is a first byte of `e` marker ones, a zero and the top of the value, then `e`
bytes of the rest; the value has more than `7 * e` bits, and fits the bits that are left. -/
theorem encVint_of_ge {v : Int64} (h : 128 ≤ (encIntZigZag v).toNat) :
    ∃ e, 1 ≤ e ∧ e ≤ 8 ∧ (encIntZigZag v).toNat < 2 ^ (7 - e) * 256 ^ e ∧
      7 * e < (encIntZigZag v).toNat.size ∧
      encVint v = (UInt8.ofNat ((encIntZigZag v).toNat / 256 ^ e) ||| ~~~(shr8 0xff e)) ::
        beBytes e (encIntZigZag v).toNat := by
  set z := encIntZigZag v with hz
  have hs7 : 7 < z.toNat.size := Nat.lt_size.mpr h
  obtain ⟨hshort, hlong⟩ := vintNumBytes_spec (size_toNat_le z)
  set n := vintNumBytes (64 - z.toNat.size) with hn
  have h2 : 2 ≤ n := by by_contra h'; exact absurd (hshort.mp (by omega)) (by omega)
  obtain ⟨h9, hlo, hhi⟩ := hlong h2
  refine ⟨n - 1, by omega, by omega, ?_, hlo, ?_⟩
  · calc z.toNat < 2 ^ z.toNat.size := Nat.lt_size_self _
      _ ≤ 2 ^ ((7 - (n - 1)) + 8 * (n - 1)) := Nat.pow_le_pow_right (by decide) hhi
      _ = 2 ^ (7 - (n - 1)) * 256 ^ (n - 1) := by rw [pow_add, pow_mul]; rfl
  · have hn1 : n - 1 + 1 = n := by omega
    have hbuf : encVintLoop (n - 1) z (List.replicate n 0) = beBytes (n - 1 + 1) z.toNat := by
      rw [encVintLoop_eq _ _ _ (by simp; omega), hn1, List.drop_replicate, Nat.sub_self, List.replicate_zero,
        List.append_nil]
    rw [encVint, if_neg (by rw [leadingZeros64_eq, ← hz, ← hn]; omega)]
    dsimp only
    rw [← hz, leadingZeros64_eq, ← hn, hbuf, beBytes_succ]
    rfl

example : encVint 64 = [0x80, 0x80] := by decide

/-! ### Reading them back -/

/-- One step of the decode loop: shift the accumulator a byte up and put the next byte in. -/
theorem shl_or_byte (ret : UInt64) (b : UInt8) :
    ((ret <<< 8) ||| (b &&& 0xff).toUInt64).toNat = (ret.toNat * 256 + b.toNat) % 2 ^ 64 := by
  have hb : (b &&& 0xff).toNat = b.toNat := by
    rw [UInt8.toNat_and]; exact Nat.and_two_pow_sub_one_of_lt_two_pow (n := 8) b.toNat_lt
  have hlt : b.toNat < 2 ^ 8 := b.toNat_lt
  rw [UInt64.toNat_or, UInt64.toNat_shiftLeft, UInt8.toNat_toUInt64, hb]
  have hs : ret.toNat <<< (UInt64.toNat 8 % 64) % 2 ^ 64 = 2 ^ 8 * (ret.toNat % 2 ^ 56) := by
    rw [Nat.shiftLeft_eq]; show ret.toNat * 2 ^ 8 % 2 ^ 64 = _; omega
  rw [hs, ← Nat.two_pow_add_eq_or_of_lt hlt]
  omega

/-- The decode loop accumulates the bytes after the first, most significant first. -/
theorem decVintLoop_append (bs rest : List UInt8) :
    ∀ (pre : List UInt8) (i : Nat) (ret : UInt64), pre.length = i + 1 →
      decVintLoop (pre ++ bs ++ rest) bs.length i ret =
        UInt64.ofNat (ret.toNat * 256 ^ bs.length + BigEndian.val bs) := by
  induction bs with
  | nil => intro pre i ret _; simp [decVintLoop]
  | cons b bs ih =>
    intro pre i ret hi
    have hb : (pre ++ b :: bs ++ rest).getD (i + 1) 0 = b := by
      rw [List.getD_eq_getElem?_getD, List.append_assoc, List.getElem?_append_right (by omega), hi,
        Nat.sub_self]; rfl
    have hdata : pre ++ b :: bs ++ rest = (pre ++ [b]) ++ bs ++ rest := by simp
    rw [List.length_cons, decVintLoop, hb, hdata, ih (pre ++ [b]) (i + 1) _ (by simp [hi])]
    apply UInt64.toNat_inj.mp
    rw [UInt64.toNat_ofNat', UInt64.toNat_ofNat', shl_or_byte, BigEndian.val_cons, ← Nat.mod_add_mod,
      Nat.mod_mul_mod, Nat.mod_add_mod]
    congr 1
    ring

/-- The decoder's reading of a first byte of `e` marker ones, a zero and `t`: its top bit is set,
its ones count `e`, and its mask leaves `t`. -/
theorem firstByte_decode {e t : Nat} {f : UInt8} (he1 : 1 ≤ e) (he : e ≤ 8) (ht : t < 2 ^ (7 - e))
    (hf : f.toNat = 2 ^ (8 - e) * (2 ^ e - 1) + t) :
    0x80 ≤ f.toNat ∧ leadingZeros32 (~~~f).toUInt32 - 24 = e ∧
      (f &&& shr8 0xff e).toUInt64 = UInt64.ofNat t := by
  have h8 : 2 ^ (8 - e) * 2 ^ e = 256 := by rw [← pow_add, Nat.sub_add_cancel he]; rfl
  have hPt : t < 2 ^ (8 - e) := lt_of_lt_of_le ht (Nat.pow_le_pow_right (by decide) (by omega))
  have hf' : f.toNat = 256 - 2 ^ (8 - e) + t := by rw [hf, Nat.mul_sub_one, h8]
  have hP128 : 2 ^ (8 - e) ≤ 2 ^ 7 := Nat.pow_le_pow_right (by decide) (by omega)
  have hf8 := f.toNat_lt
  refine ⟨by simp at hP128; omega, ?_, ?_⟩
  · -- the ones of the complement stop where the marker's zero is
    have hsize : (255 - f.toNat).size = 8 - e := by
      apply size_eq_of_bounds (by omega)
      intro j hj
      have hP : 2 ^ (8 - e) = 2 * 2 ^ j := by rw [← hj, pow_succ]; ring
      have hj' : 7 - e = j := by omega
      rw [hj'] at ht
      rw [hP] at hf' hP128
      omega
    have hlz : leadingZeros32 (~~~f).toUInt32 = 32 - (8 - e) := by
      rw [leadingZeros32, UInt8.toNat_toUInt32, UInt8.toNat_not]
      exact congrArg (32 - ·) hsize
    omega
  · apply UInt64.toNat_inj.mp
    rw [UInt8.toNat_toUInt64, UInt8.toNat_and, (marker_toNat he).2, Nat.and_two_pow_sub_one_eq_mod, hf,
      Nat.mul_add_mod, Nat.mod_eq_of_lt hPt, UInt64.toNat_ofNat', Nat.mod_eq_of_lt (by simp at hP128; omega)]

theorem and_0x80_eq_zero_iff (b : UInt8) : b &&& 0x80 = 0 ↔ b.toNat < 0x80 := by
  rw [← Nat.not_le, ← and_0x80_pos_iff, gt_iff_lt, UInt8.lt_iff_toNat_lt, UInt8.toNat_inj.symm.eq]
  simp only [UInt8.toNat_zero]
  omega

theorem getD_append_length (pre rest : List UInt8) (b : UInt8) :
    (pre ++ b :: rest).getD pre.length 0 = b := by
  simp

/-- `decVint` reads back what `encVint` wrote, at any offset and whatever follows. -/
theorem decVint_encVint (pre rest : List UInt8) (v : Int64) :
    decVint (pre ++ encVint v ++ rest) pre.length = .ok (v, pre.length + (encVint v).length) := by
  rcases Nat.lt_or_ge (encIntZigZag v).toNat 128 with hsmall | hbig
  · -- one byte, its top bit clear: the zig-zag value itself
    have hb : ((encIntZigZag v).toUInt8 &&& 0x80) = 0 := by
      rw [and_0x80_eq_zero_iff]; simp; omega
    have hz : (encIntZigZag v).toUInt8.toUInt64 = encIntZigZag v := by
      apply UInt64.toNat_inj.mp; simp; omega
    rw [encVint_of_lt hsmall, decVint, if_neg (by simp), List.append_assoc, List.singleton_append,
      getD_append_length, if_pos hb, hz, decIntZigZag_encIntZigZag]
    rfl
  · -- a marker byte: its ones count the bytes that follow, its low bits are the value's top
    obtain ⟨e, he1, he8, hlt, -, henc⟩ := encVint_of_ge hbig
    set z := (encIntZigZag v).toNat with hz
    have ht : z / 256 ^ e < 2 ^ (7 - e) := (Nat.div_lt_iff_lt_mul (by positivity)).mpr hlt
    have hf := firstByte_toNat he8 (lt_of_lt_of_le ht (Nat.pow_le_pow_right (by decide) (by omega)))
    obtain ⟨h80, hlz, hret⟩ := firstByte_decode he1 he8 ht hf
    have hloop := decVintLoop_append (beBytes e z) rest (pre ++ [UInt8.ofNat (z / 256 ^ e) ||| ~~~(shr8 0xff e)])
      pre.length (UInt64.ofNat (z / 256 ^ e)) (by simp)
    have ht64 : (UInt64.ofNat (z / 256 ^ e)).toNat = z / 256 ^ e :=
      (UInt64.toNat_ofNat').trans (Nat.mod_eq_of_lt (lt_of_le_of_lt (Nat.div_le_self _ _) (hz ▸ UInt64.toNat_lt _)))
    rw [length_beBytes, val_beBytes, ht64, Nat.div_add_mod', hz, UInt64.ofNat_toNat, List.append_assoc,
      List.append_assoc, List.singleton_append] at hloop
    rw [henc, decVint, if_neg (by simp), List.append_assoc, List.cons_append, getD_append_length,
      if_neg (mt (and_0x80_eq_zero_iff _).mp (by omega))]
    dsimp only
    rw [hlz, hret, if_neg (by simp [length_beBytes]), hloop, decIntZigZag_encIntZigZag, List.length_cons,
      length_beBytes, Nat.add_assoc]

example : decVint (encVint (-9223372036854775808) ++ [7]) 0 = .ok (-9223372036854775808, 9) := by decide

/-! ### The least length -/

/-- The value bits a VInt of `n` bytes carries: seven to a byte up to eight bytes, all 64 in nine. -/
def vintBits (n : Nat) : Nat := if n ≤ 8 then 7 * n else 64

/-- `n` is the least VInt length whose value bits hold `z`. -/
def IsMinVintLength (z n : Nat) : Prop :=
  1 ≤ n ∧ n ≤ 9 ∧ z < 2 ^ vintBits n ∧ ∀ m, 1 ≤ m → m < n → 2 ^ vintBits m ≤ z

/-- `encVint` writes the least VInt length of the zig-zag value. -/
theorem encVint_length_minimal (v : Int64) :
    IsMinVintLength (encIntZigZag v).toNat (encVint v).length := by
  rcases Nat.lt_or_ge (encIntZigZag v).toNat 128 with hsmall | hbig
  · rw [encVint_of_lt hsmall]
    exact ⟨le_rfl, by simp, hsmall, fun m h1 h2 => absurd h2 (by simp; omega)⟩
  · obtain ⟨e, he1, he8, hlt, hsize, henc⟩ := encVint_of_ge hbig
    rw [henc, List.length_cons, length_beBytes]
    refine ⟨by omega, by omega, ?_, ?_⟩
    · -- eight bytes or fewer carry seven bits each; nine carry the whole word
      unfold vintBits
      split
      · calc (encIntZigZag v).toNat < 2 ^ (7 - e) * 256 ^ e := hlt
          _ = 2 ^ (7 * (e + 1)) := by
            rw [show (256 : Nat) = 2 ^ 8 from rfl, ← pow_mul, ← pow_add]
            congr 1
            omega
      · exact UInt64.toNat_lt _
    · -- a shorter VInt carries fewer bits than the value has
      intro m hm1 hm
      rw [vintBits, if_pos (by omega)]
      exact Nat.lt_size.mp (by omega)

theorem encVint_ne_nil (v : Int64) : encVint v ≠ [] := by
  intro h
  have := (encVint_length_minimal v).1
  rw [h] at this
  exact absurd this (by decide)

/-! ### Durations -/

theorem decVints_encVints (months days : Int32) (nanos : Int64) :
    decVints (encVints months days nanos) = .ok (months, days, nanos) := by
  have h1 := decVint_encVint [] (encVint days.toInt64 ++ encVint nanos) months.toInt64
  have h2 := decVint_encVint (encVint months.toInt64) (encVint nanos) days.toInt64
  have h3 := decVint_encVint (encVint months.toInt64 ++ encVint days.toInt64) [] nanos
  rw [List.nil_append, ← List.append_assoc, List.length_nil, Nat.zero_add] at h1
  rw [List.append_nil, List.length_append] at h3
  rw [decVints, encVints, h1]
  simp only [Except.mapError, bind, Except.bind, h2, h3, Int32.toInt32_toInt64]
  rfl

/-- `unmarshalDuration` gives back every `Duration` that `marshalDuration` wrote. -/
theorem unmarshalDuration_marshalDuration (d : Duration) :
    ∃ data, marshalDuration (.duration d) = .ok data ∧ unmarshalDuration data = .ok d := by
  refine ⟨_, rfl, ?_⟩
  have hne : (encVints d.months d.days d.nanoseconds).length ≠ 0 := by
    simp [encVints, encVint_ne_nil]
  rw [unmarshalDuration, Option.getD_some, if_neg hne, decVints_encVints]
  rfl

/-- The VInt codec round-trips every `int64` with any bytes after it, at the least length, and
every `Duration` comes back from its encoding exactly. -/
theorem vint_roundTrip :
    (∀ (v : Int64) (rest : List UInt8), decVint (encVint v ++ rest) 0 = .ok (v, (encVint v).length)) ∧
    (∀ v : Int64, IsMinVintLength (encIntZigZag v).toNat (encVint v).length) ∧
    (∀ d : Duration, ∃ data, marshalDuration (.duration d) = .ok data ∧ unmarshalDuration data = .ok d) := by
  refine ⟨fun v rest => ?_, encVint_length_minimal, unmarshalDuration_marshalDuration⟩
  have h := decVint_encVint [] rest v
  rwa [List.nil_append, List.length_nil, Nat.zero_add] at h

end Gocql
