import Gocql.Support.MurmurHash3
import Gocql.Support.WordBits
import Mathlib.Data.FinEnum
import Mathlib.Tactic.IntervalCases

/-!
# Internal — `Murmur3H1`, the token of the Murmur3 partitioner

`Murmur3H1` (`internal/murmur/murmur.go`) in Go's `int64`: Java's signed `long` arithmetic as
Cassandra's `Murmur3Partitioner` runs it, with casts to `uint64` where Java shifts with `>>>`,
tail bytes widened through `int8`, and the tail as a `switch` over `length & 15` whose cases fall
through from the case of the tail's length down to case 1.  Blocks are read with
`binary.LittleEndian.Uint64` (`murmur_appengine.go`).

Read as an unsigned word, the result is the first word of MurmurHash3_x64_128 with the tail
bytes sign-extended (`MurmurHash3.hashH1 signExt`), and it is the reference hash whenever
the tail bytes are below `0x80` (`murmur3H1_eq_reference`).  The proof follows the code:

* every operation commutes with `Int64.toUInt64` (`fmix_toUInt64`, `rotl_toUInt64`,
  `block_toUInt64`, `getBlock_toUInt64`), so one round of the body loop is `MurmurHash3.round`
  (`bodyBlock_toUInt64`), and so is the whole loop (`foldl_bodyBlock_toUInt64`);
* the cases from 8 down to 1 build `k1` a byte at a time and mix it into `h1`
  (`tailSwitch_low`), the cases from 15 down to 9 build `k2` and mix it into `h2` and then fall
  into case 8 (`tailSwitch_high`), so the switch is `MurmurHash3.tailMix` (`tailSwitch_toUInt64`).
-/

namespace Gocql.Murmur

open MurmurHash3

def c1 : Int64 := -8663945395140668459
def c2 : Int64 := 5545529020109919103
def fmix1 : Int64 := -49064778989728563
def fmix2 : Int64 := -4265267296055464877

/-- Go's `x << n` on `int64` for an unsigned count: the bits of `x` moved up, 0 from 64 on. -/
def shl (x : Int64) (n : UInt64) : Int64 := (Go.shl x.toUInt64 n).toInt64

def fmix (n : Int64) : Int64 :=
  -- cast to unsigned for logical right bitshift
  let n := n ^^^ (Go.shr n.toUInt64 33).toInt64
  let n := n * fmix1
  let n := n ^^^ (Go.shr n.toUInt64 33).toInt64
  let n := n * fmix2
  n ^^^ (Go.shr n.toUInt64 33).toInt64

def block (p : UInt8) : Int64 := p.toInt8.toInt64

def rotl (x : Int64) (r : UInt8) : Int64 :=
  shl x r.toUInt64 ||| (Go.shr x.toUInt64 (64 - r).toUInt64).toInt64

/-- `binary.LittleEndian.Uint64(b)`. -/
def littleEndianUint64 (b : List UInt8) : UInt64 :=
  (b.getD 0 0).toUInt64 ||| (b.getD 1 0).toUInt64 <<< 8 ||| (b.getD 2 0).toUInt64 <<< 16 |||
    (b.getD 3 0).toUInt64 <<< 24 ||| (b.getD 4 0).toUInt64 <<< 32 ||| (b.getD 5 0).toUInt64 <<< 40 |||
    (b.getD 6 0).toUInt64 <<< 48 ||| (b.getD 7 0).toUInt64 <<< 56

def getBlock (data : List UInt8) (n : Nat) : Int64 × Int64 :=
  ((littleEndianUint64 (data.drop (n * 16))).toInt64,
   (littleEndianUint64 (data.drop (n * 16 + 8))).toInt64)

/-- The four variables of `Murmur3H1`. -/
structure Vars where
  h1 : Int64
  h2 : Int64
  k1 : Int64
  k2 : Int64

/-- One pass of the body loop, over block `i`. -/
def bodyBlock (data : List UInt8) (v : Vars) (i : Nat) : Vars :=
  let (k1, k2) := getBlock data i
  let k1 := k1 * c1
  let k1 := rotl k1 31
  let k1 := k1 * c2
  let h1 := v.h1 ^^^ k1
  let h1 := rotl h1 27
  let h1 := h1 + v.h2
  let h1 := h1 * 5 + 0x52dce729
  let k2 := k2 * c2
  let k2 := rotl k2 33
  let k2 := k2 * c1
  let h2 := v.h2 ^^^ k2
  let h2 := rotl h2 31
  let h2 := h2 + h1
  let h2 := h2 * 5 + 0x38495ab5
  ⟨h1, h2, k1, k2⟩

/-- The body of one case of the tail `switch`, without its `fallthrough`. -/
def tailCase (tail : List UInt8) : Nat → Vars → Vars
  | 15, v => { v with k2 := v.k2 ^^^ shl (block (tail.getD 14 0)) 48 }
  | 14, v => { v with k2 := v.k2 ^^^ shl (block (tail.getD 13 0)) 40 }
  | 13, v => { v with k2 := v.k2 ^^^ shl (block (tail.getD 12 0)) 32 }
  | 12, v => { v with k2 := v.k2 ^^^ shl (block (tail.getD 11 0)) 24 }
  | 11, v => { v with k2 := v.k2 ^^^ shl (block (tail.getD 10 0)) 16 }
  | 10, v => { v with k2 := v.k2 ^^^ shl (block (tail.getD 9 0)) 8 }
  | 9, v =>
    let k2 := v.k2 ^^^ block (tail.getD 8 0)
    let k2 := k2 * c2
    let k2 := rotl k2 33
    let k2 := k2 * c1
    { v with k2 := k2, h2 := v.h2 ^^^ k2 }
  | 8, v => { v with k1 := v.k1 ^^^ shl (block (tail.getD 7 0)) 56 }
  | 7, v => { v with k1 := v.k1 ^^^ shl (block (tail.getD 6 0)) 48 }
  | 6, v => { v with k1 := v.k1 ^^^ shl (block (tail.getD 5 0)) 40 }
  | 5, v => { v with k1 := v.k1 ^^^ shl (block (tail.getD 4 0)) 32 }
  | 4, v => { v with k1 := v.k1 ^^^ shl (block (tail.getD 3 0)) 24 }
  | 3, v => { v with k1 := v.k1 ^^^ shl (block (tail.getD 2 0)) 16 }
  | 2, v => { v with k1 := v.k1 ^^^ shl (block (tail.getD 1 0)) 8 }
  | 1, v =>
    let k1 := v.k1 ^^^ block (tail.getD 0 0)
    let k1 := k1 * c1
    let k1 := rotl k1 31
    let k1 := k1 * c2
    { v with k1 := k1, h1 := v.h1 ^^^ k1 }
  | _, v => v

/-- `switch length & 15` from case `c`: every case falls through to the one below it. -/
def tailSwitch (tail : List UInt8) : Nat → Vars → Vars
  | 0, v => v
  | c + 1, v => tailSwitch tail c (tailCase tail (c + 1) v)

def murmur3H1 (data : List UInt8) : Int64 :=
  let length := data.length
  -- body
  let nBlocks := length / 16
  let v := (List.range nBlocks).foldl (bodyBlock data) ⟨0, 0, 0, 0⟩
  -- tail
  let tail := data.drop (nBlocks * 16)
  let v := tailSwitch tail (length &&& 15) { v with k1 := 0, k2 := 0 }
  let h1 := v.h1 ^^^ Int64.ofNat length
  let h2 := v.h2 ^^^ Int64.ofNat length
  let h1 := h1 + h2
  let h2 := h2 + h1
  let h1 := fmix h1
  let h2 := fmix h2
  h1 + h2

/-- Two test vectors of `murmur_test.go`: `"hello"`, and a key whose tail has bytes
`0x8b` and `0xb8`, where the sign of a tail byte shows. -/
example : murmur3H1 [0x68, 0x65, 0x6c, 0x6c, 0x6f] = (0xcbd8a7b341bd9b02 : UInt64).toInt64 := by
  decide

example : murmur3H1 [0x00, 0x10, 0x43, 0x27, 0x52, 0x9f, 0xb6, 0x45, 0xdd, 0x00, 0xb8, 0x83, 0xec,
    0x39, 0xae, 0x44, 0x8b, 0xb8, 0x00, 0x00, 0x04, 0x00, 0x06, 0x6a, 0x6b, 0x00] =
    -9223371632693506265 := by
  decide

/-! ### Every operation, read as an unsigned word -/

/-- The unsigned words of `h1` and `h2`. -/
def Vars.state (v : Vars) : UInt64 × UInt64 := (v.h1.toUInt64, v.h2.toUInt64)

theorem c1_toUInt64 : c1.toUInt64 = MurmurHash3.c1 := by decide
theorem c2_toUInt64 : c2.toUInt64 = MurmurHash3.c2 := by decide

theorem shl_toUInt64 (x : Int64) (n : UInt64) : (shl x n).toUInt64 = Go.shl x.toUInt64 n :=
  UInt64.toUInt64_toInt64 _

theorem fmix_toUInt64 (n : Int64) : (fmix n).toUInt64 = fmix64 n.toUInt64 := by
  have h33 : ∀ x : UInt64, Go.shr x 33 = x >>> 33 := fun x => by rw [Go.shr, if_pos (by decide)]
  have hf1 : fmix1.toUInt64 = 0xff51afd7ed558ccd := by decide
  have hf2 : fmix2.toUInt64 = 0xc4ceb9fe1a85ec53 := by decide
  simp only [fmix, fmix64, Int64.toUInt64_xor, Int64.toUInt64_mul, UInt64.toUInt64_toInt64, h33, hf1, hf2]

/-- Both shifts of `rotl` stay below 64 for a rotation strictly between 0 and 64. -/
theorem rotl_toUInt64 (x : Int64) {r : UInt8} (h0 : 0 < r) (h64 : r < 64) :
    (rotl x r).toUInt64 = rotl64 x.toUInt64 r.toUInt64 := by
  have counts : ∀ r : UInt8, 0 < r → r < 64 →
      r.toUInt64 < 64 ∧ (64 - r).toUInt64 < 64 ∧ (64 - r).toUInt64 = 64 - r.toUInt64 := by
    decide +kernel
  obtain ⟨hr, hs, hsub⟩ := counts r h0 h64
  rw [rotl, rotl64, Int64.toUInt64_or, shl_toUInt64, UInt64.toUInt64_toInt64, Go.shl, Go.shr,
    if_pos hr, if_pos hs, hsub]

/-- `block` sign-extends: a tail byte becomes the word of the signed byte. -/
theorem block_toUInt64 (p : UInt8) : (block p).toUInt64 = signExt p := by
  revert p
  decide +kernel

theorem littleEndianUint64_eq {b : List UInt8} (h : 8 ≤ b.length) :
    littleEndianUint64 b = getblock64 b := by
  obtain ⟨b0, b1, b2, b3, b4, b5, b6, b7, rest, rfl⟩ :
      ∃ b0 b1 b2 b3 b4 b5 b6 b7 rest, b = b0 :: b1 :: b2 :: b3 :: b4 :: b5 :: b6 :: b7 :: rest := by
    match b, h with
    | b0 :: b1 :: b2 :: b3 :: b4 :: b5 :: b6 :: b7 :: rest, _ => exact ⟨_, _, _, _, _, _, _, _, _, rfl⟩
  -- the eight bytes put on one at a time from the top
  have hsplit : [b0, b1, b2, b3, b4, b5, b6, b7] =
      [] ++ [b0] ++ [b1] ++ [b2] ++ [b3] ++ [b4] ++ [b5] ++ [b6] ++ [b7] := rfl
  rw [getblock64, List.take_succ_cons, List.take_succ_cons, List.take_succ_cons, List.take_succ_cons,
    List.take_succ_cons, List.take_succ_cons, List.take_succ_cons, List.take_succ_cons, List.take_zero,
    hsplit, leWord_append_singleton, leWord_append_singleton, leWord_append_singleton,
    leWord_append_singleton, leWord_append_singleton, leWord_append_singleton, leWord_append_singleton,
    leWord_append_singleton]
  · simp only [leWord, UInt64.zero_or, List.length_append, List.length_cons, List.length_nil,
      Nat.zero_add, Nat.mul_zero, Nat.reduceAdd, Nat.reduceMul]
    rw [show Nat.toUInt64 0 = 0 from rfl, UInt64.shiftLeft_zero]
    rfl
  all_goals simp

theorem getBlock_toUInt64 (data : List UInt8) {i : Nat} (hi : 16 * i + 16 ≤ data.length) :
    (getBlock data i).1.toUInt64 = getblock64 (data.drop (16 * i)) ∧
    (getBlock data i).2.toUInt64 = getblock64 (data.drop (16 * i + 8)) := by
  constructor
  · show (littleEndianUint64 (data.drop (i * 16))).toInt64.toUInt64 = _
    rw [UInt64.toUInt64_toInt64, Nat.mul_comm]
    exact littleEndianUint64_eq (by simp; omega)
  · show (littleEndianUint64 (data.drop (i * 16 + 8))).toInt64.toUInt64 = _
    rw [UInt64.toUInt64_toInt64, Nat.mul_comm i 16]
    exact littleEndianUint64_eq (by simp; omega)

/-! ### The body -/

/-- **One pass of the body loop is one round of the reference.** -/
theorem bodyBlock_toUInt64 (data : List UInt8) (v : Vars) {i : Nat} (hi : 16 * i + 16 ≤ data.length) :
    (bodyBlock data v i).state = roundAt data v.state i := by
  obtain ⟨hk1, hk2⟩ := getBlock_toUInt64 data hi
  simp only [bodyBlock, Vars.state, roundAt, MurmurHash3.round, mixK1, mixK2, Int64.toUInt64_xor, Int64.toUInt64_add,
    Int64.toUInt64_mul, rotl_toUInt64 _ (by decide : (0 : UInt8) < 27) (by decide),
    rotl_toUInt64 _ (by decide : (0 : UInt8) < 31) (by decide),
    rotl_toUInt64 _ (by decide : (0 : UInt8) < 33) (by decide), c1_toUInt64, c2_toUInt64, hk1, hk2]
  rfl

theorem foldl_bodyBlock_toUInt64 (data : List UInt8) (v : Vars) :
    ∀ {n : Nat}, n ≤ data.length / 16 →
      ((List.range n).foldl (bodyBlock data) v).state = (List.range n).foldl (roundAt data) v.state
  | 0, _ => rfl
  | n + 1, hn => by
    simp only [List.range_succ, List.foldl_append, List.foldl_cons, List.foldl_nil]
    rw [bodyBlock_toUInt64 data _ (by omega), foldl_bodyBlock_toUInt64 data v (by omega)]

/-! ### The tail -/

theorem take_succ_getD {l : List UInt8} {c : Nat} (h : c < l.length) :
    l.take (c + 1) = l.take c ++ [l.getD c 0] := by
  rw [List.take_add_one, List.getElem?_eq_getElem h, Option.toList_some, List.getD_eq_getElem?_getD,
    List.getElem?_eq_getElem h, Option.getD_some]

/-- Cases 2 to 8 put one byte into `k1`. -/
theorem tailCase_low (tail : List UInt8) {n : Nat} (h2 : 2 ≤ n) (h8 : n ≤ 8) (v : Vars) :
    tailCase tail n v =
      { v with k1 := v.k1 ^^^ shl (block (tail.getD (n - 1) 0)) (8 * (n - 1)).toUInt64 } := by
  interval_cases n <;> rfl

/-- Cases 10 to 15 put one byte into `k2`. -/
theorem tailCase_high (tail : List UInt8) {n : Nat} (h10 : 10 ≤ n) (h15 : n ≤ 15) (v : Vars) :
    tailCase tail n v =
      { v with k2 := v.k2 ^^^ shl (block (tail.getD (n - 1) 0)) (8 * (n - 9)).toUInt64 } := by
  interval_cases n <;> rfl

/-- A byte shifted into a tail word, read unsigned. -/
theorem xor_shl_block_toUInt64 (k : Int64) (p : UInt8) {s : Nat} (hs : s < 64) :
    (k ^^^ shl (block p) s.toUInt64).toUInt64 = k.toUInt64 ^^^ signExt p <<< s.toUInt64 := by
  rw [Int64.toUInt64_xor, shl_toUInt64, block_toUInt64, Go.shl_of_lt _ hs]

/-- **Cases `c` down to 1, for `1 ≤ c ≤ 8`**: `k1` gathers tail bytes `c - 1` down to 0 and
is mixed into `h1`; `h2` is left alone. -/
theorem tailSwitch_low (tail : List UInt8) {c : Nat} (hc : 1 ≤ c) (hc8 : c ≤ 8)
    (hlen : c ≤ tail.length) (v : Vars) :
    (tailSwitch tail c v).h1.toUInt64 =
        v.h1.toUInt64 ^^^ mixK1 (v.k1.toUInt64 ^^^ tailWord signExt (tail.take c)) ∧
      (tailSwitch tail c v).h2 = v.h2 := by
  induction c, hc using Nat.le_induction generalizing v with
  | base =>
    -- case 1 alone: the last byte, then the mix
    have htake : tail.take 1 = [tail.getD 0 0] := take_succ_getD (by omega)
    refine ⟨?_, rfl⟩
    simp only [tailSwitch, tailCase, htake, tailWord, UInt64.zero_shiftLeft, UInt64.xor_zero, mixK1,
      Int64.toUInt64_xor, Int64.toUInt64_mul, block_toUInt64, c1_toUInt64, c2_toUInt64,
      rotl_toUInt64 _ (by decide : (0 : UInt8) < 31) (by decide)]
    rfl
  | succ c hc ih =>
    rw [tailSwitch, tailCase_low tail (by omega) hc8 v, Nat.add_sub_cancel]
    obtain ⟨ih1, ih2⟩ := ih (by omega) (by omega)
      { v with k1 := v.k1 ^^^ shl (block (tail.getD c 0)) (8 * c).toUInt64 }
    refine ⟨?_, ih2⟩
    -- the byte of case `c + 1` sits at the top of `k1`
    have htop : tailWord signExt (tail.take (c + 1)) =
        tailWord signExt (tail.take c) ^^^ signExt (tail.getD c 0) <<< (8 * c).toUInt64 := by
      rw [take_succ_getD (by omega), tailWord_append_singleton _ _ (by simp; omega),
        List.length_take, min_eq_left (by omega)]
    rw [ih1, htop, xor_shl_block_toUInt64 _ _ (by omega)]
    ac_rfl

/-- **Cases `c` down to 9, for `9 ≤ c ≤ 15`**: `k2` gathers tail bytes `c - 1` down to 8 and
is mixed into `h2`, and the switch falls into case 8 with `h1` and `k1` as they were. -/
theorem tailSwitch_high (tail : List UInt8) {c : Nat} (hc : 9 ≤ c) (hc15 : c ≤ 15)
    (hlen : c ≤ tail.length) (v : Vars) :
    ∃ w : Vars, tailSwitch tail c v = tailSwitch tail 8 w ∧ w.h1 = v.h1 ∧ w.k1 = v.k1 ∧
      w.h2.toUInt64 =
        v.h2.toUInt64 ^^^ mixK2 (v.k2.toUInt64 ^^^ tailWord signExt ((tail.take c).drop 8)) := by
  induction c, hc using Nat.le_induction generalizing v with
  | base =>
    -- case 9: the byte at index 8, then the mix
    have htake : (tail.take 9).drop 8 = [tail.getD 8 0] := by
      rw [take_succ_getD (by omega), List.drop_left' (by simp; omega)]
    refine ⟨tailCase tail 9 v, rfl, rfl, rfl, ?_⟩
    simp only [tailCase, htake, tailWord, UInt64.zero_shiftLeft, UInt64.xor_zero, mixK2,
      Int64.toUInt64_xor, Int64.toUInt64_mul, block_toUInt64, c1_toUInt64, c2_toUInt64,
      rotl_toUInt64 _ (by decide : (0 : UInt8) < 33) (by decide)]
    rfl
  | succ c hc ih =>
    rw [tailSwitch, tailCase_high tail (by omega) hc15 v, Nat.add_sub_cancel]
    obtain ⟨w, hw, hw1, hwk, hw2⟩ := ih (by omega) (by omega)
      { v with k2 := v.k2 ^^^ shl (block (tail.getD c 0)) (8 * (c + 1 - 9)).toUInt64 }
    refine ⟨w, hw, hw1, hwk, ?_⟩
    -- the byte of case `c + 1` sits at the top of `k2`
    have htop : tailWord signExt ((tail.take (c + 1)).drop 8) =
        tailWord signExt ((tail.take c).drop 8) ^^^ signExt (tail.getD c 0) <<< (8 * (c - 8)).toUInt64 := by
      rw [take_succ_getD (by omega), List.drop_append_of_le_length (by simp; omega),
        tailWord_append_singleton _ _ (by simp; omega), List.length_drop, List.length_take,
        min_eq_left (by omega)]
    rw [hw2, htop, xor_shl_block_toUInt64 _ _ (by omega), show c + 1 - 9 = c - 8 by omega]
    ac_rfl

/-- **The tail `switch` is the reference's tail.** -/
theorem tailSwitch_toUInt64 {tail : List UInt8} (hlen : tail.length < 16) (h1 h2 : Int64) :
    (tailSwitch tail tail.length ⟨h1, h2, 0, 0⟩).state = tailMix signExt (h1.toUInt64, h2.toUInt64) tail := by
  have h0 : (0 : Int64).toUInt64 = 0 := rfl
  rcases Nat.lt_or_ge tail.length 9 with hs | hl
  · rcases Nat.eq_zero_or_pos tail.length with he | hp
    · -- no tail
      rw [List.length_eq_zero_iff.mp he]
      rfl
    · -- one to eight bytes: `k1` only
      obtain ⟨e1, e2⟩ := tailSwitch_low tail hp (by omega) (le_refl _) ⟨h1, h2, 0, 0⟩
      have hne : tail ≠ [] := List.ne_nil_of_length_pos hp
      simp only [Vars.state, tailMix, e1, e2, if_neg hne, if_pos (show tail.length ≤ 8 by omega),
        List.take_length, List.take_of_length_le (show tail.length ≤ 8 by omega), h0, UInt64.zero_xor]
  · -- nine to fifteen bytes: `k2`, then case 8 with `k1`
    obtain ⟨w, hw, hw1, hwk, hw2⟩ := tailSwitch_high tail hl (by omega) (le_refl _) ⟨h1, h2, 0, 0⟩
    obtain ⟨e1, e2⟩ := tailSwitch_low tail (by omega : 1 ≤ 8) (le_refl _) (by omega) w
    have hne : tail ≠ [] := List.ne_nil_of_length_pos (by omega)
    simp only [Vars.state, tailMix, hw, e1, e2, hw1, hwk, hw2, if_neg hne,
      if_neg (show ¬tail.length ≤ 8 by omega), List.take_length, h0, UInt64.zero_xor]

/-! ### The hash -/

theorem murmur3H1_toUInt64 (data : List UInt8) : (murmur3H1 data).toUInt64 = hashH1 signExt data := by
  -- `length & 15` is the length of the tail
  have hand : data.length &&& 15 = (data.drop (data.length / 16 * 16)).length := by
    rw [List.length_drop, show (15 : Nat) = 2 ^ 4 - 1 from rfl, Nat.and_two_pow_sub_one_eq_mod]
    omega
  have htail : (data.drop (data.length / 16 * 16)).length < 16 := by
    rw [List.length_drop]
    omega
  -- the body loop is the reference's, and then so is the tail
  have hbody : ((List.range (data.length / 16)).foldl (bodyBlock data) ⟨0, 0, 0, 0⟩).state =
      (List.range (data.length / 16)).foldl (roundAt data) (0, 0) :=
    foldl_bodyBlock_toUInt64 data ⟨0, 0, 0, 0⟩ (le_refl (data.length / 16))
  have hts := tailSwitch_toUInt64 htail
    ((List.range (data.length / 16)).foldl (bodyBlock data) ⟨0, 0, 0, 0⟩).h1
    ((List.range (data.length / 16)).foldl (bodyBlock data) ⟨0, 0, 0, 0⟩).h2
  rw [show (_, _) = _ from hbody] at hts
  simp only [murmur3H1, hashH1, body_eq_foldl, hand, Nat.mul_comm 16 (data.length / 16)]
  generalize tailSwitch _ _ _ = w at hts ⊢
  rw [← hts]
  -- the length and the finalizer
  simp only [Vars.state, Int64.toUInt64_add, fmix_toUInt64, Int64.toUInt64_xor, Int64.toUInt64_ofNat',
    Nat.toUInt64_eq]

/-- **`Murmur3H1` is Cassandra's Murmur3 token**: read as an unsigned word it is the first
word of MurmurHash3_x64_128 with seed 0 and tail bytes sign-extended; when the tail bytes are
below `0x80` it is the reference MurmurHash3's. -/
theorem murmur3H1_eq_reference :
    (∀ data : List UInt8, (murmur3H1 data).toUInt64 = hashH1 signExt data) ∧
    (∀ data : List UInt8, (∀ b ∈ data.drop (16 * (data.length / 16)), b.toNat < 0x80) →
      (murmur3H1 data).toUInt64 = hashH1 zeroExt data) :=
  ⟨murmur3H1_toUInt64, fun data h =>
    (murmur3H1_toUInt64 data).trans (hashH1_congr data fun b hb => signExt_of_lt (h b hb))⟩

/-- `"hello"` has no whole block and a tail of ASCII bytes. -/
theorem murmur3H1_hello_reference :
    (∀ b ∈ ([0x68, 0x65, 0x6c, 0x6c, 0x6f] : List UInt8).drop (16 * (5 / 16)), b.toNat < 0x80) ∧
      (murmur3H1 [0x68, 0x65, 0x6c, 0x6c, 0x6f]).toUInt64 = hashH1 zeroExt [0x68, 0x65, 0x6c, 0x6c, 0x6f] :=
  ⟨by decide +kernel, murmur3H1_eq_reference.2 _ (by decide +kernel)⟩

end Gocql.Murmur
