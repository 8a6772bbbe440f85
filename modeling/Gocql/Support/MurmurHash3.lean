import Mathlib.Data.List.Basic

/-!
# Support — MurmurHash3 x64, 128 bits, first word

The first 64-bit word of MurmurHash3_x64_128 with seed 0, over unsigned 64-bit words, as the
reference states it: 16-byte blocks read as little-endian words (`leWord`) and mixed into the
state two words at a time (`round`); then up to 15 tail bytes, each widened to a word by `ext`
and shifted into place (`tailWord`), mixed in as one or two words (`tailMix`); then the length
and the finalizer (`fmix64`).

The reference widens tail bytes unsigned (`zeroExt`).  A `long` widened from a signed `byte`
sign-extends them (`signExt`); the two agree on bytes below `0x80` (`signExt_of_lt`), and the
hash reads `ext` only at the tail's bytes (`hashH1_congr`).

* `leWord_append_singleton`, `tailWord_append_singleton`: a byte added at the top of a word of
  fewer than eight bytes lands `8 * length` bits up.
* `body_eq_foldl`: the block loop is a fold of `round` over the block indices, and leaves the
  bytes past the last whole block.
-/

namespace MurmurHash3

def c1 : UInt64 := 0x87c37b91114253d5
def c2 : UInt64 := 0x4cf5ad432745937f

def rotl64 (x r : UInt64) : UInt64 := (x <<< r) ||| (x >>> (64 - r))

def fmix64 (k : UInt64) : UInt64 :=
  let k := k ^^^ (k >>> 33)
  let k := k * 0xff51afd7ed558ccd
  let k := k ^^^ (k >>> 33)
  let k := k * 0xc4ceb9fe1a85ec53
  k ^^^ (k >>> 33)

def mixK1 (k : UInt64) : UInt64 := rotl64 (k * c1) 31 * c2
def mixK2 (k : UInt64) : UInt64 := rotl64 (k * c2) 33 * c1

/-- The little-endian word of a list of bytes: byte `i` at bits `8 i .. 8 i + 7`. -/
def leWord : List UInt8 → UInt64
  | [] => 0
  | b :: bs => b.toUInt64 ||| (leWord bs <<< 8)

/-- The word of block bytes, `getblock64`: the first eight bytes, little-endian. -/
def getblock64 (b : List UInt8) : UInt64 := leWord (b.take 8)

/-- One 16-byte block mixed into `(h1, h2)`. -/
def round (h : UInt64 × UInt64) (k1 k2 : UInt64) : UInt64 × UInt64 :=
  let h1 := (rotl64 (h.1 ^^^ mixK1 k1) 27 + h.2) * 5 + 0x52dce729
  let h2 := (rotl64 (h.2 ^^^ mixK2 k2) 31 + h1) * 5 + 0x38495ab5
  (h1, h2)

/-- The block at index `i` of `data` mixed into `h`. -/
def roundAt (data : List UInt8) (h : UInt64 × UInt64) (i : Nat) : UInt64 × UInt64 :=
  round h (getblock64 (data.drop (16 * i))) (getblock64 (data.drop (16 * i + 8)))

/-- The body: blocks taken from the front while 16 bytes remain; the state and the tail. -/
def body (h : UInt64 × UInt64) (data : List UInt8) : (UInt64 × UInt64) × List UInt8 :=
  if 16 ≤ data.length then body (round h (getblock64 data) (getblock64 (data.drop 8))) (data.drop 16)
  else (h, data)
termination_by data.length
decreasing_by simp only [List.length_drop]; omega

/-- The tail word: byte `i` widened by `ext`, shifted `8 i` bits up, all XORed together. -/
def tailWord (ext : UInt8 → UInt64) : List UInt8 → UInt64
  | [] => 0
  | b :: bs => ext b ^^^ (tailWord ext bs <<< 8)

/-- The tail: bytes `0 .. 7` mixed into `h1` when there is one, bytes `8 ..` into `h2`
when there are more than eight. -/
def tailMix (ext : UInt8 → UInt64) (h : UInt64 × UInt64) (tail : List UInt8) : UInt64 × UInt64 :=
  (if tail = [] then h.1 else h.1 ^^^ mixK1 (tailWord ext (tail.take 8)),
   if tail.length ≤ 8 then h.2 else h.2 ^^^ mixK2 (tailWord ext (tail.drop 8)))

/-- The first word of MurmurHash3_x64_128 of `data`, seed 0, tail bytes widened by `ext`. -/
def hashH1 (ext : UInt8 → UInt64) (data : List UInt8) : UInt64 :=
  let (h, tail) := body (0, 0) data
  let h := tailMix ext h tail
  let len := data.length.toUInt64
  let h1 := h.1 ^^^ len
  let h2 := h.2 ^^^ len
  let h1 := h1 + h2
  let h2 := h2 + h1
  fmix64 h1 + fmix64 h2

/-- The reference's `(uint64_t) tail[i]`. -/
def zeroExt (b : UInt8) : UInt64 := b.toUInt64

/-- A signed byte widened to a `long`: the high 56 bits copy bit 7. -/
def signExt (b : UInt8) : UInt64 :=
  if b.toNat < 0x80 then b.toUInt64 else b.toUInt64 ||| 0xFFFFFFFFFFFFFF00

theorem signExt_of_lt {b : UInt8} (h : b.toNat < 0x80) : signExt b = zeroExt b := by
  simp only [signExt, zeroExt, if_pos h]

/-! ### Words built from the top -/

/-- Shifting by `8 n` and then by 8 is shifting by `8 (n + 1)`, below 64. -/
theorem shiftLeft_eight_succ (x : UInt64) {n : Nat} (hn : n < 7) :
    x <<< (8 * n).toUInt64 <<< 8 = x <<< (8 * (n + 1)).toUInt64 := by
  have hb : (8 * n).toUInt64 < 64 := by
    rw [UInt64.lt_iff_toNat_lt, Nat.toUInt64_eq, UInt64.toNat_ofNat']
    simp only [Nat.mod_eq_of_lt (show 8 * n < 2 ^ 64 by omega)]
    exact (by decide : (64 : UInt64).toNat = 64) ▸ (by omega)
  have hsum : (8 * n).toUInt64 + 8 = (8 * (n + 1)).toUInt64 := by
    rw [Nat.mul_succ, Nat.toUInt64_eq, Nat.toUInt64_eq, UInt64.ofNat_add]
    rfl
  have hbc : (8 * n).toUInt64 + 8 < 64 := by
    rw [hsum, UInt64.lt_iff_toNat_lt, Nat.toUInt64_eq, UInt64.toNat_ofNat']
    simp only [Nat.mod_eq_of_lt (show 8 * (n + 1) < 2 ^ 64 by omega)]
    exact (by decide : (64 : UInt64).toNat = 64) ▸ (by omega)
  rw [← hsum, UInt64.shiftLeft_add hb (by decide) hbc]

theorem leWord_append_singleton (b : UInt8) :
    ∀ {l : List UInt8}, l.length < 8 → leWord (l ++ [b]) = leWord l ||| (b.toUInt64 <<< (8 * l.length).toUInt64)
  | [], _ => by simp [leWord]
  | a :: l, hl => by
    have hl' : l.length < 7 := by simp only [List.length_cons] at hl; omega
    simp only [List.cons_append, leWord, leWord_append_singleton b (Nat.lt_of_succ_lt hl),
      UInt64.shiftLeft_or, shiftLeft_eight_succ _ hl', List.length_cons, UInt64.or_assoc]

theorem tailWord_append_singleton (ext : UInt8 → UInt64) (b : UInt8) :
    ∀ {l : List UInt8}, l.length < 8 →
      tailWord ext (l ++ [b]) = tailWord ext l ^^^ (ext b <<< (8 * l.length).toUInt64)
  | [], _ => by simp [tailWord]
  | a :: l, hl => by
    have hl' : l.length < 7 := by simp only [List.length_cons] at hl; omega
    simp only [List.cons_append, tailWord, tailWord_append_singleton ext b (Nat.lt_of_succ_lt hl),
      UInt64.shiftLeft_xor, shiftLeft_eight_succ _ hl', List.length_cons, UInt64.xor_assoc]

theorem tailWord_congr {e e' : UInt8 → UInt64} :
    ∀ {l : List UInt8}, (∀ b ∈ l, e b = e' b) → tailWord e l = tailWord e' l
  | [], _ => rfl
  | b :: l, h => by
    simp only [tailWord, h b (List.mem_cons_self), tailWord_congr (fun c hc => h c (List.mem_cons_of_mem b hc))]

/-! ### The block loop -/

/-- The block at index `i + 1` of `data` is the block at `i` of `data.drop 16`. -/
theorem roundAt_succ (data : List UInt8) (h : UInt64 × UInt64) (i : Nat) :
    roundAt data h (i + 1) = roundAt (data.drop 16) h i := by
  have hdrop : ∀ k, data.drop (16 * (i + 1) + k) = (data.drop 16).drop (16 * i + k) := fun k => by
    rw [List.drop_drop]
    congr 1
    omega
  rw [roundAt, roundAt, ← hdrop 8, ← Nat.add_zero (16 * (i + 1)), hdrop 0]
  rfl

/-- **The body is a fold over block indices**: it mixes blocks `0 .. length / 16 - 1` and
leaves the bytes from `16 * (length / 16)` on. -/
theorem body_eq_foldl (h : UInt64 × UInt64) (data : List UInt8) :
    body h data = ((List.range (data.length / 16)).foldl (roundAt data) h,
      data.drop (16 * (data.length / 16))) := by
  induction h, data using body.induct with
  | case1 h data hlen ih =>
    rw [body, if_pos hlen, ih]
    -- the first block, then the rest of the blocks shifted down by one
    have hn : data.length / 16 = (data.length - 16) / 16 + 1 := by omega
    rw [List.length_drop, hn, List.range_succ_eq_map, List.foldl_cons, List.foldl_map, List.drop_drop]
    simp only [roundAt_succ]
    refine Prod.ext rfl (congrArg data.drop ?_)
    omega
  | case2 h data hlen =>
    rw [body, if_neg hlen]
    have h0 : data.length / 16 = 0 := by omega
    simp [h0]

/-! ### What `ext` is read at -/

theorem tailMix_congr {e e' : UInt8 → UInt64} (h : UInt64 × UInt64) {tail : List UInt8}
    (he : ∀ b ∈ tail, e b = e' b) : tailMix e h tail = tailMix e' h tail := by
  simp only [tailMix,
    tailWord_congr (fun b hb => he b (List.mem_of_mem_take hb)),
    tailWord_congr (fun b hb => he b (List.mem_of_mem_drop hb))]

/-- **The hash reads `ext` only at the tail's bytes.** -/
theorem hashH1_congr {e e' : UInt8 → UInt64} (data : List UInt8)
    (he : ∀ b ∈ data.drop (16 * (data.length / 16)), e b = e' b) :
    hashH1 e data = hashH1 e' data := by
  simp only [hashH1, body_eq_foldl, tailMix_congr _ he]

end MurmurHash3
