import Gocql.Support.Panic
import Gocql.Support.WordBits

/-!
# Streams — the stream id allocator

`internal/streams`: an `IDGenerator` hands out the stream ids of one connection.  The ids are
the bits of an array of `uint64` buckets, stream `64 * b + j` at bit `63 - j` of bucket `b`
(`WordBits.test`); `New` reserves stream 0 by setting its bit.  `GetStream` moves a shared
`offset` on to the next bucket and takes the first clear bit of the first bucket from there on
that is not full; `Clear` clears a stream's bit and, if it was set, lowers the count
`inuseStreams` that `Available` reads.

Each call is one atomic step: with no other goroutine, every compare-and-swap of the source
succeeds at its first try.

* `IDGenerator`, `new`, `getStream`, `clear`, `available`: the source's; `numBuckets` is
  positive and is the length of `streams` (`New` makes both so and nothing changes either),
  carried as fields.
* `Reachable protocol`: the states of every sequence of `GetStream` and `Clear(s)`, with
  `1 ≤ s < NumStreams`, from `New(protocol)`.
* `StreamsInv`: stream 0's bit is set and `inuseStreams` counts the other set bits;
  `StreamsInv.getStream` and `StreamsInv.clear` keep it.
* `streams_allocate`: in every reachable state `GetStream` hands out a stream in range whose bit
  was clear and sets it alone, or fails only when every bit is set; `Clear` returns whether the
  stream's bit was set, clears that bit alone, and never panics.
* `IdSet`: what the allocator is for, a set of held ids; `getStream_refines` and `clear_refines`
  relate the bits to it.
-/

namespace Gocql

namespace Streams

open Go WordBits

/-! ### The source -/

/-- `bucketBits`. -/
def bucketBits : Nat := 64

/-- `IDGenerator`.  `inuseStreams` is an `int32` and `offset` a `uint32`; the first stays in
`[0, NumStreams)` (`StreamsInv`) and the second is reduced modulo `numBuckets`, so neither
wraps. -/
structure IDGenerator where
  numStreams : Int
  inuseStreams : Int
  numBuckets : Nat
  streams : List UInt64
  offset : Nat
  numBuckets_pos : 0 < numBuckets
  streams_length : streams.length = numBuckets

/-- `New(protocol)`. -/
def new (protocol : Int) : IDGenerator where
  numStreams := if protocol > 2 then 32768 else 128
  inuseStreams := 0
  numBuckets := (if protocol > 2 then 32768 else 128) / 64
  -- reserve stream 0
  streams := (List.replicate ((if protocol > 2 then 32768 else 128) / 64) 0).set 0 ((1 : UInt64) <<< 63)
  offset := (if protocol > 2 then 32768 else 128) / 64 - 1
  numBuckets_pos := by split <;> decide
  streams_length := by simp

/-- `streamFromBucket(bucket, streamInBucket)`. -/
def streamFromBucket (bucket streamInBucket : Int) : Int := bucket * bucketBits + streamInBucket

/-- `bucketOffset(i)`: Go's `/` truncates. -/
def bucketOffset (i : Int) : Int := i.tdiv bucketBits

/-- `streamOffset(stream)`: `bucketBits - uint64(stream%bucketBits) - 1`. -/
def streamOffset (stream : Int) : UInt64 :=
  bucketBits.toUInt64 - UInt64.ofInt (stream.tmod bucketBits) - 1

/-- `isSet(bits, stream)`. -/
def isSet (bits : UInt64) (stream : Int) : Bool := shr bits (streamOffset stream) &&& 1 == 1

/-- `(*IDGenerator).isSet(stream)`. -/
def IDGenerator.isSet (g : IDGenerator) (stream : Int) : Outcome String Bool :=
  match (index g.streams (bucketOffset stream) : Outcome String UInt64) with
  | .ok bits => .ok (Streams.isSet bits stream)
  | .panic e => .panic e
  | .crash r => .crash r

theorem IDGenerator.mod_lt_length (g : IDGenerator) (i offset : Nat) :
    (i + offset) % g.numBuckets < g.streams.length := by
  rw [g.streams_length]
  exact Nat.mod_lt _ g.numBuckets_pos

/-- `GetStream`'s loop over the bits of `bucket`: the first `j` whose `mask` is clear. -/
def freeBit (bucket : UInt64) : Option Nat :=
  (List.range bucketBits).find? fun j => bucket &&& shl 1 (streamOffset j) == 0

/-- `GetStream`'s loop over the buckets, from `offset` on modulo `numBuckets`: the first bucket
that is not full, a clear bit of it, and the bucket as it was loaded. -/
def IDGenerator.findFree (g : IDGenerator) (offset : Nat) : Option (Nat × Nat × UInt64) :=
  (List.range g.numBuckets).findSome? fun i =>
    let pos := (i + offset) % g.numBuckets
    let bucket := g.streams.get ⟨pos, g.mod_lt_length i offset⟩
    -- all streams in use
    if bucket = full then none
    else (freeBit bucket).map fun j => (pos, j, bucket)

/-- The allocator with bucket `pos` replaced by `bits`. -/
def IDGenerator.setBucket (g : IDGenerator) (pos : Nat) (bits : UInt64) : IDGenerator :=
  { g with streams := g.streams.set pos bits
           streams_length := by rw [List.length_set]; exact g.streams_length }

/-- `GetStream()`. -/
def getStream (g : IDGenerator) : (Int × Bool) × IDGenerator :=
  -- the compare-and-swap on `offset`
  let offset := (g.offset + 1) % g.numBuckets
  let g := { g with offset := offset }
  match g.findFree offset with
  | some (pos, j, bucket) =>
    ((streamFromBucket pos j, true),
      { g.setBucket pos (bucket ||| shl 1 (streamOffset j)) with inuseStreams := g.inuseStreams + 1 })
  | none => ((0, false), g)

/-- `Clear(stream)`. -/
def clear (stream : Int) : Prog IDGenerator String Bool := do
  let g ← Prog.get
  let offset := bucketOffset stream
  let bucket ← Prog.lift (index g.streams offset)
  let mask := shl 1 (streamOffset stream)
  if bucket &&& mask ≠ mask then
    -- already cleared
    pure false
  else
    Prog.set { g.setBucket offset.toNat (bucket &&& ~~~mask) with inuseStreams := g.inuseStreams - 1 }
    Prog.panicIf (g.inuseStreams - 1 < 0) "negative streams inuse"
    pure true

/-- `Available()`. -/
def IDGenerator.available (g : IDGenerator) : Int := g.numStreams - g.inuseStreams - 1

/-! ### From the source's arithmetic to the bit array -/

theorem streamOffset_natCast (k : Nat) : streamOffset k = (pos k).toUInt64 := by
  have htmod : (k : Int).tmod bucketBits = ((k % 64 : Nat) : Int) := rfl
  have hofInt : UInt64.ofInt ((k % 64 : Nat) : Int) = (k % 64).toUInt64 := by
    simp only [UInt64.ofInt, Nat.toUInt64_eq]
    congr 1
    omega
  rw [streamOffset, htmod, hofInt]
  apply UInt64.toNat_inj.mp
  simp [UInt64.toNat_sub, pos, bucketBits]
  omega

theorem shl_one_streamOffset (k : Nat) : shl 1 (streamOffset k) = single (pos k) := by
  rw [streamOffset_natCast, shl_of_lt 1 (pos_lt k)]
  rfl

theorem bucketOffset_natCast (k : Nat) : bucketOffset k = ((k / 64 : Nat) : Int) := rfl

/-- The source's `isSet` reads the bit of the array's numbering. -/
theorem isSet_natCast (bits : UInt64) (k : Nat) : isSet bits k = bitAt bits (pos k) := by
  have hlow : (bits >>> (pos k).toUInt64 &&& 1).toBitVec =
      BitVec.setWidth 64 (BitVec.ofBool ((bits >>> (pos k).toUInt64).toBitVec.getLsbD 0)) := by
    rw [UInt64.toBitVec_and]
    exact BitVec.and_one_eq_setWidth_ofBool_getLsbD
  have hbit : (bits >>> (pos k).toUInt64).toBitVec.getLsbD 0 = bitAt bits (pos k) := by
    have hp := pos_lt k
    simp only [UInt64.toBitVec_shiftRight, bitAt]
    simp [Nat.mod_eq_of_lt hp]
  rw [isSet, streamOffset_natCast, shr_of_lt bits (pos_lt k)]
  rw [hbit] at hlow
  cases hb : bitAt bits (pos k) <;> rw [hb] at hlow
  · have : bits >>> (pos k).toUInt64 &&& 1 ≠ 1 := fun e => by rw [e] at hlow; exact absurd hlow (by decide)
    simpa using this
  · have : bits >>> (pos k).toUInt64 &&& 1 = 1 := UInt64.toBitVec_inj.mp (by rw [hlow]; decide)
    simp [this]

/-! ### `GetStream`'s loops -/

/-- The bit the inner loop stops at is clear. -/
theorem freeBit_spec {bucket : UInt64} {j : Nat} (h : freeBit bucket = some j) :
    j < 64 ∧ bitAt bucket (63 - j) = false := by
  have hj : j < 64 := List.mem_range.mp (List.mem_of_find?_eq_some h)
  have hp : pos j = 63 - j := by
    unfold pos
    omega
  have hclear := List.find?_some h
  rw [shl_one_streamOffset, beq_iff_eq, and_single_eq_zero_iff _ (pos_lt j), hp] at hclear
  exact ⟨hj, hclear⟩

/-- The inner loop stops in a bucket that is not full. -/
theorem freeBit_isSome {bucket : UInt64} (h : bucket ≠ full) : (freeBit bucket).isSome := by
  obtain ⟨i, hi, hclear⟩ := exists_clear_of_ne_full h
  rw [freeBit, List.find?_isSome]
  refine ⟨63 - i, List.mem_range.mpr (by simp only [bucketBits]; omega), ?_⟩
  have hp : pos (63 - i) = i := by
    unfold pos
    omega
  rw [shl_one_streamOffset, hp, beq_iff_eq, and_single_eq_zero_iff _ hi]
  exact hclear

/-- Every bucket is reached from any `offset`. -/
theorem exists_rotate {n : Nat} (offset : Nat) {p : Nat} (hp : p < n) : ∃ i < n, (i + offset) % n = p := by
  have hr : offset % n < n := Nat.mod_lt _ (Nat.lt_of_le_of_lt (Nat.zero_le _) hp)
  by_cases hle : offset % n ≤ p
  · refine ⟨p - offset % n, by omega, ?_⟩
    rw [Nat.add_mod, Nat.mod_eq_of_lt (show p - offset % n < n by omega), Nat.sub_add_cancel hle,
      Nat.mod_eq_of_lt hp]
  · refine ⟨p + n - offset % n, by omega, ?_⟩
    rw [Nat.add_mod, Nat.mod_eq_of_lt (show p + n - offset % n < n by omega),
      show p + n - offset % n + offset % n = p + n by omega, Nat.add_mod_right, Nat.mod_eq_of_lt hp]

/-- The outer loop stops at a bucket, as loaded, and a clear bit of it. -/
theorem findFree_some {g : IDGenerator} {offset pos j : Nat} {bucket : UInt64}
    (h : g.findFree offset = some (pos, j, bucket)) :
    pos < g.numBuckets ∧ j < 64 ∧ bucket = g.streams.getD pos 0 ∧ bitAt bucket (63 - j) = false := by
  obtain ⟨i, -, hi⟩ := List.exists_of_findSome?_eq_some h
  dsimp only at hi
  split at hi
  · cases hi
  · obtain ⟨j', hj', hpj⟩ := Option.map_eq_some_iff.mp hi
    cases hpj
    obtain ⟨hj, hclear⟩ := freeBit_spec hj'
    refine ⟨Nat.mod_lt _ g.numBuckets_pos, hj, ?_, hclear⟩
    rw [List.get_eq_getElem, List.getD_eq_getElem?_getD, List.getElem?_eq_getElem, Option.getD_some]

/-- The outer loop finds nothing only when every bucket is full. -/
theorem findFree_none {g : IDGenerator} {offset : Nat} (h : g.findFree offset = none)
    {p : Nat} (hp : p < g.numBuckets) : g.streams.getD p 0 = full := by
  obtain ⟨i, hi, hrot⟩ := exists_rotate offset hp
  have hnone := List.findSome?_eq_none_iff.mp h i (List.mem_range.mpr hi)
  dsimp only at hnone
  have hget : g.streams.get ⟨(i + offset) % g.numBuckets, g.mod_lt_length i offset⟩ =
      g.streams.getD p 0 := by
    rw [List.get_eq_getElem, List.getD_eq_getElem?_getD]
    simp only [hrot, List.getElem?_eq_getElem (g.streams_length ▸ hp), Option.getD_some]
  rw [hget] at hnone
  by_contra hfull
  rw [if_neg hfull, Option.map_eq_none_iff] at hnone
  have := freeBit_isSome hfull
  rw [hnone] at this
  cases this

/-! ### One call of `GetStream` and of `Clear` -/

@[simp] theorem getStream_numStreams (g : IDGenerator) : (getStream g).2.numStreams = g.numStreams := by
  unfold getStream
  dsimp only
  split <;> rfl

@[simp] theorem getStream_numBuckets (g : IDGenerator) : (getStream g).2.numBuckets = g.numBuckets := by
  unfold getStream
  dsimp only
  split <;> rfl

/-- **`GetStream`**: it sets a clear bit `64 * pos + j` and counts it, or, with every bucket
full, changes no bit. -/
theorem getStream_cases (g : IDGenerator) :
    (∃ b j, b < g.numBuckets ∧ j < 64 ∧ test g.streams (b * 64 + j) = false ∧
      (getStream g).1 = (((b * 64 + j : Nat) : Int), true) ∧
      (getStream g).2.streams = set g.streams (b * 64 + j) ∧
      (getStream g).2.inuseStreams = g.inuseStreams + 1) ∨
    ((getStream g).1 = (0, false) ∧ (∀ b < g.numBuckets, g.streams.getD b 0 = full) ∧
      (getStream g).2.streams = g.streams ∧ (getStream g).2.inuseStreams = g.inuseStreams) := by
  -- `findFree` reads the buckets only, which the move of `offset` keeps
  have hfind : ∀ o, ({ g with offset := o } : IDGenerator).findFree o = g.findFree o := fun _ => rfl
  unfold getStream
  dsimp only
  rw [hfind]
  rcases hf : g.findFree ((g.offset + 1) % g.numBuckets) with _ | ⟨b, j, bucket⟩
  · exact .inr ⟨rfl, fun b hb => findFree_none hf hb, rfl, rfl⟩
  · obtain ⟨hb, hj, rfl, hclear⟩ := findFree_some hf
    refine .inl ⟨b, j, hb, hj, ?_, ?_, ?_, rfl⟩
    · rw [test_word _ hj]
      exact hclear
    · simp only [streamFromBucket, bucketBits]
      push_cast
      rfl
    · have hp : WordBits.pos j = 63 - j := by
        unfold WordBits.pos
        omega
      simp only [IDGenerator.setBucket, shl_one_streamOffset, hp]
      rw [set_eq_set _ hj]

/-- `Clear(k)` loads the bucket of `k`, which is there, and tests `k`'s bit in it. -/
theorem clear_natCast {g : IDGenerator} {k : Nat} (hk : k / 64 < g.numBuckets) :
    clear k g =
      if test g.streams k = false then .ok (false, g)
      else if g.inuseStreams - 1 < 0 then .panic "negative streams inuse"
      else .ok (true, { g.setBucket (k / 64) (g.streams.getD (k / 64) 0 &&& ~~~single (pos k)) with
        inuseStreams := g.inuseStreams - 1 }) := by
  have hlen : k / 64 < g.streams.length := g.streams_length ▸ hk
  have hidx : (index g.streams ((k / 64 : Nat) : Int) : Outcome String UInt64) =
      .ok (g.streams.getD (k / 64) 0) := by
    rw [index_of_lt hlen, List.get_eq_getElem, List.getD_eq_getElem?_getD,
      List.getElem?_eq_getElem hlen, Option.getD_some]
  have hmask : (g.streams.getD (k / 64) 0 &&& single (pos k) ≠ single (pos k)) ↔ test g.streams k = false := by
    rw [ne_eq, and_single_eq_single_iff _ (pos_lt k), Bool.not_eq_true]
    rfl
  simp only [clear, Prog.get_bind, bucketOffset_natCast, hidx, Prog.lift_ok_bind,
    shl_one_streamOffset, Int.toNat_natCast]
  by_cases hb : test g.streams k = false
  · rw [if_pos (hmask.mpr hb), if_pos hb]
    rfl
  · rw [if_neg (fun h => hb (hmask.mp h)), if_neg hb, Prog.set_bind]
    by_cases hneg : g.inuseStreams - 1 < 0
    · rw [Prog.panicIf_pos_bind hneg, if_pos hneg]
      rfl
    · rw [Prog.panicIf_neg_bind hneg, if_neg hneg]
      rfl

@[simp] theorem setBucket_clear_streams (g : IDGenerator) (k : Nat) :
    (g.setBucket (k / 64) (g.streams.getD (k / 64) 0 &&& ~~~single (pos k))).streams =
      WordBits.clear g.streams k := by
  rw [IDGenerator.setBucket, clear_eq_set]

/-! ### The invariant -/

/-- Whether stream `k` is in use: the source's `isSet` of its bucket (`isSet_eq_bit`). -/
def IDGenerator.bit (g : IDGenerator) (k : Nat) : Bool := test g.streams k

/-- The streams in use other than stream 0. -/
def IDGenerator.used (g : IDGenerator) : Finset Nat :=
  (Finset.Ico 1 g.numStreams.toNat).filter fun k => g.bit k

/-- The streams free, stream 0 apart. -/
def IDGenerator.free (g : IDGenerator) : Finset Nat :=
  (Finset.Ico 1 g.numStreams.toNat).filter fun k => !g.bit k

theorem isSet_eq_bit (g : IDGenerator) {k : Nat} (hk : k / 64 < g.numBuckets) :
    g.isSet k = .ok (g.bit k) := by
  have hlen : k / 64 < g.streams.length := g.streams_length ▸ hk
  have hidx : (index g.streams ((k / 64 : Nat) : Int) : Outcome String UInt64) =
      .ok (g.streams.getD (k / 64) 0) := by
    rw [index_of_lt hlen, List.get_eq_getElem, List.getD_eq_getElem?_getD,
      List.getElem?_eq_getElem hlen, Option.getD_some]
  simp only [IDGenerator.isSet, bucketOffset_natCast, hidx, isSet_natCast]
  rfl

theorem used_congr {g g' : IDGenerator} (hn : g'.numStreams = g.numStreams)
    (hs : g'.streams = g.streams) : g'.used = g.used := by
  unfold IDGenerator.used IDGenerator.bit
  rw [hn, hs]

/-- Stream 0 is held, and `inuseStreams` counts the other streams held. -/
structure StreamsInv (g : IDGenerator) : Prop where
  numStreams_eq : g.numStreams = ((g.numBuckets * 64 : Nat) : Int)
  bit_zero : g.bit 0 = true
  inuse_eq : g.inuseStreams = (g.used.card : Int)

/-- A stream in range has its bucket. -/
theorem StreamsInv.div_lt {g : IDGenerator} (h : StreamsInv g) {k : Nat} (hk : (k : Int) < g.numStreams) :
    k / 64 < g.numBuckets := by
  have := h.numStreams_eq
  omega

theorem mem_Ico_of_lt {g : IDGenerator} {k : Nat} (hk : 1 ≤ k) (hkn : (k : Int) < g.numStreams) :
    k ∈ Finset.Ico 1 g.numStreams.toNat := by
  rw [Finset.mem_Ico]
  omega

/-- `New`'s buckets: stream 0's bit alone. -/
theorem new_getD (protocol : Int) (b : Nat) :
    (new protocol).streams.getD b 0 = if b = 0 then single 63 else 0 := by
  have hpos := (new protocol).numBuckets_pos
  simp only [new] at hpos ⊢
  rw [List.getD_eq_getElem?_getD, List.getElem?_set]
  by_cases hb : b = 0
  · subst hb
    simp only [List.length_replicate, hpos, if_true, Option.getD_some]
    rfl
  · simp only [hb, if_false, Ne.symm hb, List.getElem?_replicate]
    split_ifs <;> rfl

theorem new_bit (protocol : Int) (k : Nat) : (new protocol).bit k = (k == 0) := by
  rw [IDGenerator.bit, test, new_getD]
  by_cases hk : k / 64 = 0
  · rw [if_pos hk, bitAt_single _ (by decide)]
    unfold pos
    by_cases hk0 : k = 0
    · subst hk0
      rfl
    · rw [beq_false_of_ne hk0, beq_false_of_ne (by omega)]
  · rw [if_neg hk, bitAt_zero, beq_false_of_ne (by omega)]

theorem StreamsInv.new (protocol : Int) : StreamsInv (new protocol) := by
  constructor
  · simp only [Streams.new]
    split <;> rfl
  · rw [new_bit]
    rfl
  · have hused : (Streams.new protocol).used = ∅ := by
      rw [IDGenerator.used, Finset.filter_eq_empty_iff]
      intro k hk
      rw [new_bit, beq_false_of_ne (by simp at hk; omega)]
      exact Bool.false_ne_true
    rw [hused, Finset.card_empty]
    rfl

/-- **`GetStream` keeps the invariant.** -/
theorem StreamsInv.getStream {g : IDGenerator} (h : StreamsInv g) : StreamsInv (Streams.getStream g).2 := by
  have hN : (Streams.getStream g).2.numStreams = ((Streams.getStream g).2.numBuckets * 64 : Nat) := by
    rw [getStream_numStreams, getStream_numBuckets]
    exact h.numStreams_eq
  rcases getStream_cases g with ⟨b, j, hb, hj, hclear, -, hset, hinuse⟩ | ⟨-, -, hsame, hinuse⟩
  · -- the stream handed out is not 0, whose bit is set, and is in range
    have hlen : (b * 64 + j) / 64 < g.streams.length := by
      rw [g.streams_length]
      omega
    have hne : b * 64 + j ≠ 0 := by
      intro h0
      rw [h0] at hclear
      exact absurd h.bit_zero (by rw [IDGenerator.bit, hclear]; decide)
    have hmem : b * 64 + j ∈ Finset.Ico 1 g.numStreams.toNat := by
      have := h.numStreams_eq
      rw [Finset.mem_Ico]
      omega
    have hused : (Streams.getStream g).2.used = insert (b * 64 + j) g.used := by
      simp only [IDGenerator.used, IDGenerator.bit, hset, getStream_numStreams]
      exact filter_test_set _ _ hlen hmem
    have hnot : b * 64 + j ∉ g.used := by
      intro hm
      rw [IDGenerator.used, Finset.mem_filter, IDGenerator.bit, hclear] at hm
      exact Bool.false_ne_true hm.2
    refine ⟨hN, ?_, ?_⟩
    · rw [IDGenerator.bit, hset, test_set hlen, Bool.or_eq_true]
      exact .inl h.bit_zero
    · rw [hinuse, hused, Finset.card_insert_of_notMem hnot, h.inuse_eq]
      push_cast
      rfl
  · have hused : (Streams.getStream g).2.used = g.used := used_congr (getStream_numStreams g) hsame
    refine ⟨hN, ?_, ?_⟩
    · rw [IDGenerator.bit, hsame]
      exact h.bit_zero
    · rw [hinuse, hused]
      exact h.inuse_eq

/-- `Clear(k)` of a held stream `k ≥ 1` finds the count positive, so it does not panic. -/
theorem StreamsInv.clear_eq {g : IDGenerator} (h : StreamsInv g) {k : Nat} (hk : 1 ≤ k)
    (hkn : (k : Int) < g.numStreams) :
    Streams.clear k g =
      if g.bit k = false then .ok (false, g)
      else .ok (true, { g.setBucket (k / 64) (g.streams.getD (k / 64) 0 &&& ~~~single (pos k)) with
        inuseStreams := g.inuseStreams - 1 }) := by
  rw [clear_natCast (h.div_lt hkn), IDGenerator.bit]
  by_cases hb : test g.streams k = false
  · rw [if_pos hb, if_pos hb]
  · have hmem : k ∈ g.used := by
      rw [IDGenerator.used, Finset.mem_filter, IDGenerator.bit]
      exact ⟨mem_Ico_of_lt hk hkn, by simpa using hb⟩
    have hpos : ¬ g.inuseStreams - 1 < 0 := by
      have := Finset.card_pos.mpr ⟨k, hmem⟩
      rw [h.inuse_eq]
      omega
    rw [if_neg hb, if_neg hb, if_neg hpos]

/-- **`Clear` keeps the invariant.** -/
theorem StreamsInv.clear {g g' : IDGenerator} (h : StreamsInv g) {k : Nat} {r : Bool} (hk : 1 ≤ k)
    (hkn : (k : Int) < g.numStreams) (hc : Streams.clear k g = .ok (r, g')) : StreamsInv g' := by
  rw [h.clear_eq hk hkn] at hc
  by_cases hb : g.bit k = false
  · rw [if_pos hb] at hc
    cases hc
    exact h
  · rw [if_neg hb] at hc
    cases hc
    have hused : ({ g.setBucket (k / 64) (g.streams.getD (k / 64) 0 &&& ~~~single (pos k)) with
        inuseStreams := g.inuseStreams - 1 } : IDGenerator).used = g.used.erase k := by
      simp only [IDGenerator.used, IDGenerator.bit, setBucket_clear_streams]
      exact filter_test_clear _ _ k
    have hmem : k ∈ g.used := by
      rw [IDGenerator.used, Finset.mem_filter]
      exact ⟨mem_Ico_of_lt hk hkn, by simpa using hb⟩
    refine ⟨h.numStreams_eq, ?_, ?_⟩
    · simp only [IDGenerator.bit, setBucket_clear_streams, test_clear, Bool.and_eq_true, bne_iff_ne]
      exact ⟨h.bit_zero, by omega⟩
    · rw [hused, Finset.card_erase_of_mem hmem, h.inuse_eq]
      have := Finset.card_pos.mpr ⟨k, hmem⟩
      dsimp only
      omega

/-- `Available()` is the number of free streams other than 0. -/
theorem StreamsInv.available_eq {g : IDGenerator} (h : StreamsInv g) : g.available = g.free.card := by
  have hfree : g.free = (Finset.Ico 1 g.numStreams.toNat).filter fun k => ¬ (g.bit k = true) := by
    unfold IDGenerator.free
    apply Finset.filter_congr
    intro k _
    simp
  have hsplit : g.used.card + ((Finset.Ico 1 g.numStreams.toNat).filter fun k => ¬ (g.bit k = true)).card =
      (Finset.Ico 1 g.numStreams.toNat).card :=
    Finset.card_filter_add_card_filter_not _
  rw [← hfree, Nat.card_Ico] at hsplit
  have hN := h.numStreams_eq
  have hpos := g.numBuckets_pos
  rw [IDGenerator.available, h.inuse_eq]
  omega

/-! ### What each call promises -/

/-- What `GetStream` promises at `g`: `(s, true)` for a stream `1 ≤ s < NumStreams` whose bit was
clear, with that bit set and no other changed; `(_, false)` only when every bit is set, with no
bit changed. -/
def GetStreamSpec (g : IDGenerator) : (Int × Bool) × IDGenerator → Prop
  | ((s, true), g') => ∃ k : Nat, s = k ∧ 1 ≤ k ∧ (k : Int) < g.numStreams ∧ g.bit k = false ∧
      ∀ k', g'.bit k' = (g.bit k' || k' == k)
  | ((_, false), g') => (∀ k : Nat, (k : Int) < g.numStreams → g.bit k = true) ∧
      ∀ k', g'.bit k' = g.bit k'

/-- What `Clear(k)` promises at `g`: it returns whether `k`'s bit was set, clears that bit and no
other, and does not panic. -/
def ClearSpec (g : IDGenerator) (k : Nat) : Prop :=
  ∃ g', Streams.clear k g = .ok (g.bit k, g') ∧ ∀ k', g'.bit k' = (g.bit k' && k' != k)

theorem StreamsInv.getStream_spec {g : IDGenerator} (h : StreamsInv g) :
    GetStreamSpec g (Streams.getStream g) := by
  have hN := h.numStreams_eq
  rcases hg : Streams.getStream g with ⟨⟨s, ok⟩, g'⟩
  rcases getStream_cases g with ⟨b, j, hb, hj, hclear, hres, hset, -⟩ | ⟨hres, hfull, hsame, -⟩
  · rw [hg] at hres hset
    obtain ⟨rfl, rfl⟩ := Prod.mk.inj hres
    have hlen : (b * 64 + j) / 64 < g.streams.length := by
      rw [g.streams_length]
      omega
    have hne : b * 64 + j ≠ 0 := by
      intro h0
      rw [h0] at hclear
      exact absurd h.bit_zero (by rw [IDGenerator.bit, hclear]; decide)
    refine ⟨b * 64 + j, rfl, by omega, by omega, hclear, fun k' => ?_⟩
    dsimp only at hset
    rw [IDGenerator.bit, hset, test_set hlen]
    rfl
  · rw [hg] at hres hsame
    obtain ⟨rfl, rfl⟩ := Prod.mk.inj hres
    refine ⟨fun k hk => ?_, fun k' => by rw [IDGenerator.bit, hsame]; rfl⟩
    have hk' : k < 64 * g.streams.length := by
      rw [g.streams_length]
      omega
    exact test_of_full (fun b hb => hfull b (g.streams_length ▸ hb)) hk'

theorem StreamsInv.clear_spec {g : IDGenerator} (h : StreamsInv g) {k : Nat} (hk : 1 ≤ k)
    (hkn : (k : Int) < g.numStreams) : ClearSpec g k := by
  rw [ClearSpec, h.clear_eq hk hkn]
  by_cases hb : g.bit k = false
  · refine ⟨g, by rw [if_pos hb, hb], fun k' => ?_⟩
    by_cases hk' : k' = k
    · subst hk'
      rw [hb, Bool.false_and]
    · rw [bne_iff_ne.mpr hk', Bool.and_true]
  · rw [if_neg hb]
    refine ⟨_, by rw [Bool.not_eq_false] at hb; rw [hb], fun k' => ?_⟩
    simp only [IDGenerator.bit, setBucket_clear_streams, test_clear]

/-! ### Every sequence of calls -/

/-- The states of `New(protocol)` after any sequence of `GetStream()` and `Clear(s)` with
`1 ≤ s < NumStreams`; a `Clear` that panicked would end the sequence. -/
inductive Reachable (protocol : Int) : IDGenerator → Prop
  | new : Reachable protocol (Streams.new protocol)
  | getStream {g : IDGenerator} : Reachable protocol g → Reachable protocol (Streams.getStream g).2
  | clear {g g' : IDGenerator} {s : Int} {r : Bool} : Reachable protocol g → 1 ≤ s →
      s < g.numStreams → Streams.clear s g = .ok (r, g') → Reachable protocol g'

/-- Every reachable state keeps the invariant, by induction on the calls. -/
theorem Reachable.inv {protocol : Int} {g : IDGenerator} (hr : Reachable protocol g) : StreamsInv g := by
  induction hr with
  | new => exact StreamsInv.new protocol
  | getStream _ ih => exact ih.getStream
  | @clear g g' s r _ hs hsn hc ih =>
    -- a stream `s ≥ 1` is a natural number
    obtain ⟨k, rfl⟩ := Int.eq_ofNat_of_zero_le (show (0 : Int) ≤ s by omega)
    exact ih.clear (by omega) hsn hc

theorem streams_allocate {protocol : Int} {g : IDGenerator} (hr : Reachable protocol g) :
    g.bit 0 = true ∧ g.inuseStreams = g.used.card ∧ g.available = g.free.card ∧
      GetStreamSpec g (getStream g) ∧ ∀ k : Nat, 1 ≤ k → (k : Int) < g.numStreams → ClearSpec g k := by
  have h := hr.inv
  exact ⟨h.bit_zero, h.inuse_eq, h.available_eq, h.getStream_spec, fun _ hk hkn => h.clear_spec hk hkn⟩

theorem streams_allocate_new :
    Reachable 4 (new 4) ∧
      ((new 4).bit 0 = true ∧ (new 4).inuseStreams = (new 4).used.card ∧
        (new 4).available = (new 4).free.card ∧ GetStreamSpec (new 4) (getStream (new 4)) ∧
        ∀ k : Nat, 1 ≤ k → (k : Int) < (new 4).numStreams → ClearSpec (new 4) k) :=
  ⟨.new, streams_allocate .new⟩

/-! ### The held set

What the allocator is for: the ids handed out and not yet released, among
`1, …, NumStreams - 1`; `GetStream` acquires a free one or finds none free, and `Clear`
releases one.  The bits refine it, with `used` the abstraction. -/

/-- `k` acquired from the held set `s` of ids below `n`: free and in range, held afterwards. -/
def Acquires (n : Nat) (s : Finset Nat) (k : Nat) (s' : Finset Nat) : Prop :=
  k ∈ Finset.Ico 1 n ∧ k ∉ s ∧ s' = insert k s

theorem used_eq_of_bit {g g' : IDGenerator} (hn : g'.numStreams = g.numStreams) (f : Nat → Bool)
    (hbit : ∀ k', g'.bit k' = f k') :
    g'.used = (Finset.Ico 1 g.numStreams.toNat).filter fun k => f k := by
  unfold IDGenerator.used
  rw [hn]
  exact Finset.filter_congr fun k _ => by rw [hbit]

/-- **`GetStream` acquires a free id, or none is free.** -/
theorem StreamsInv.getStream_refines {g : IDGenerator} (h : StreamsInv g) :
    match Streams.getStream g with
    | ((s, true), g') => ∃ k : Nat, s = k ∧ Acquires g.numStreams.toNat g.used k g'.used
    | ((_, false), g') => g.used = Finset.Ico 1 g.numStreams.toNat ∧ g'.used = g.used := by
  have hspec := h.getStream_spec
  have hn := getStream_numStreams g
  rcases hg : Streams.getStream g with ⟨⟨s, ok⟩, g'⟩
  rw [hg] at hspec hn
  cases ok with
  | true =>
    obtain ⟨k, rfl, hk, hkn, hclear, hbit⟩ := hspec
    refine ⟨k, rfl, mem_Ico_of_lt hk hkn, ?_, ?_⟩
    · intro hm
      rw [IDGenerator.used, Finset.mem_filter, hclear] at hm
      exact Bool.false_ne_true hm.2
    · rw [used_eq_of_bit hn _ hbit]
      ext k'
      simp only [Finset.mem_filter, Finset.mem_insert, Bool.or_eq_true, beq_iff_eq, IDGenerator.used]
      constructor
      · rintro ⟨hk', hb | rfl⟩
        · exact .inr ⟨hk', hb⟩
        · exact .inl rfl
      · rintro (rfl | ⟨hk', hb⟩)
        · exact ⟨mem_Ico_of_lt hk hkn, .inr rfl⟩
        · exact ⟨hk', .inl hb⟩
  | false =>
    obtain ⟨hall, hbit⟩ := hspec
    refine ⟨?_, used_eq_of_bit hn _ hbit⟩
    apply Finset.filter_true_of_mem
    intro k hk
    rw [Finset.mem_Ico] at hk
    exact hall k (by omega)

/-- An id in range is held exactly when its bit is set. -/
theorem decide_mem_used {g : IDGenerator} {k : Nat} (hk : 1 ≤ k) (hkn : (k : Int) < g.numStreams) :
    decide (k ∈ g.used) = g.bit k := by
  by_cases hb : g.bit k = true
  · rw [hb, decide_eq_true_iff, IDGenerator.used, Finset.mem_filter]
    exact ⟨mem_Ico_of_lt hk hkn, hb⟩
  · rw [Bool.not_eq_true] at hb
    rw [hb, decide_eq_false_iff_not, IDGenerator.used, Finset.mem_filter, hb]
    exact fun hm => Bool.false_ne_true hm.2

/-- **`Clear` releases the id**, and says whether it was held. -/
theorem StreamsInv.clear_refines {g : IDGenerator} (h : StreamsInv g) {k : Nat} (hk : 1 ≤ k)
    (hkn : (k : Int) < g.numStreams) :
    ∃ g', Streams.clear k g = .ok (decide (k ∈ g.used), g') ∧ g'.used = g.used.erase k := by
  obtain ⟨g', hc, hbit⟩ := h.clear_spec hk hkn
  have hn : g'.numStreams = g.numStreams := by
    have hc' := hc
    rw [h.clear_eq hk hkn] at hc'
    split_ifs at hc' <;>
      · obtain ⟨-, rfl⟩ := Prod.mk.inj (Outcome.ok.inj hc')
        rfl
  refine ⟨g', by rw [decide_mem_used hk hkn]; exact hc, ?_⟩
  rw [used_eq_of_bit hn _ hbit]
  ext k'
  simp only [Finset.mem_filter, Finset.mem_erase, Bool.and_eq_true, bne_iff_ne, IDGenerator.used]
  constructor
  · rintro ⟨hk', hb, hne⟩
    exact ⟨hne, hk', hb⟩
  · rintro ⟨hne, hk', hb⟩
    exact ⟨hk', hb, hne⟩

/-- **Every reachable generator refines the held set**: from any state a run of `New`,
`GetStream` and `Clear` reaches, `GetStream` acquires a free id or finds none free, `Clear` of
an id in range releases it and says whether it was held, and `isSet` of an id in range says
whether it is held. -/
theorem streams_refine {protocol : Int} {g : IDGenerator} (hr : Reachable protocol g) :
    (match Streams.getStream g with
      | ((s, true), g') => ∃ k : Nat, s = k ∧ Acquires g.numStreams.toNat g.used k g'.used
      | ((_, false), g') => g.used = Finset.Ico 1 g.numStreams.toNat ∧ g'.used = g.used) ∧
    (∀ k : Nat, 1 ≤ k → (k : Int) < g.numStreams →
      ∃ g', Streams.clear k g = .ok (decide (k ∈ g.used), g') ∧ g'.used = g.used.erase k) ∧
    ∀ k : Nat, 1 ≤ k → (k : Int) < g.numStreams → g.isSet k = .ok (decide (k ∈ g.used)) := by
  have h := hr.inv
  refine ⟨h.getStream_refines, fun _ hk hkn => h.clear_refines hk hkn, fun _ hk hkn => ?_⟩
  rw [isSet_eq_bit g (h.div_lt hkn), decide_mem_used hk hkn]

/-- A new generator of protocol 2, which holds no id. -/
theorem streams_refine_new :
    Reachable 2 (new 2) ∧
      (match Streams.getStream (new 2) with
        | ((s, true), g') => ∃ k : Nat, s = k ∧ Acquires (new 2).numStreams.toNat (new 2).used k g'.used
        | ((_, false), g') => (new 2).used = Finset.Ico 1 (new 2).numStreams.toNat ∧ g'.used = (new 2).used) ∧
      (∀ k : Nat, 1 ≤ k → (k : Int) < (new 2).numStreams →
        ∃ g', Streams.clear k (new 2) = .ok (decide (k ∈ (new 2).used), g') ∧
          g'.used = (new 2).used.erase k) ∧
      ∀ k : Nat, 1 ≤ k → (k : Int) < (new 2).numStreams → (new 2).isSet k = .ok (decide (k ∈ (new 2).used)) := by
  have hr : Reachable 2 (new 2) := .new
  exact ⟨hr, streams_refine hr⟩

end Streams

end Gocql
