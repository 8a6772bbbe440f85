import Gocql.Support.Panic
import Gocql.Support.BigEndian
import Gocql.Cluster.Host
import Gocql.Marshal.TypeInfo

/-!
# Frame — the read primitives of `framer`

A response body is read by methods of `framer` that take bytes off the front of `f.buf`.
Each one checks the length of the buffer and `panic`s with an error when it is short;
`parseFrame` recovers such a panic and returns the error.  A slice or an index past the end
of the buffer, or a negative length given to `make`, is a run-time error instead, which
`parseFrame` panics again with.

The primitives are `Go.Prog`s over the buffer.  They index and slice it through `Go.index` and
`Go.slice`, so that a bounds check that does not cover what the code slices shows up as a
`crash` and is not assumed away.  The capacity of a slice is taken to be its length: in the
one place where the code slices past the length (`readInetAdressOnly`, `f.buf[:size]`), the
next statement, `f.buf[size:]`, fails at run time whatever the capacity.

* `readByte` … `readStringMultiMap`: the primitives, with one spec lemma each.
* `noCrash_readByte` …: every primitive but two ends in no run-time error;
  `readLongString` fails at run time on a negative length and `readInetAdressOnly` on an
  address shorter than its size byte says.
-/

namespace Gocql

open Go

/-- What a read primitive was reading when the buffer ran short. -/
inductive ReadWhat where
  | byte | int | short | string | longString | uuid | bytes | shortBytes | inetSize | inet
  deriving DecidableEq, Repr

/-- The errors the framer panics with, one constructor per message. -/
inductive FrameError where
  /-- `not enough bytes in buffer to read … require … got …` -/
  | notEnoughBytes (what : ReadWhat) (require got : Int)
  /-- `invalid IP size: …` -/
  | invalidIPSize (size : UInt8)
  /-- `unknown error code: 0x…` -/
  | unknownErrorCode (code : Int)
  /-- `received negative column count: …` -/
  | negativeColumnCount (count : Int)
  /-- `invalid row_count in result frame: …` -/
  | invalidRowCount (count : Int)
  /-- `gocql: unknown SCHEMA_CHANGE target: … change: …` -/
  | unknownSchemaChangeTarget (target change : List UInt8)
  /-- `gocql: unknown event type: …` -/
  | unknownEventType (eventType : List UInt8)
  /-- `got a request frame from server: …` -/
  | requestFrame (version : UInt8)
  /-- `unknown op in frame header: …` -/
  | unknownOp (op : UInt8)
  /-- `unknown result kind: …` -/
  | unknownResultKind (kind : Int)
  /-- No message of the source: the fuel of `readTypeInfo` ran out. -/
  | typeInfoTooDeep
  deriving DecidableEq, Repr

/-- A method of `framer` that reads `f.buf`. -/
abbrev Framer (α : Type) := Prog (List UInt8) FrameError α

/-! ### Fixed-size reads -/

/-- `readByte`. -/
def readByte : Framer UInt8 := do
  let buf ← Prog.get
  Prog.panicIf (buf.length < 1) (.notEnoughBytes .byte 1 buf.length)
  let b ← Prog.lift (index buf 0)
  Prog.set (← Prog.lift (slice buf 1 buf.length))
  pure b

/-- `readInt`: a big-endian `int32`. -/
def readInt : Framer Int := do
  let buf ← Prog.get
  Prog.panicIf (buf.length < 4) (.notEnoughBytes .int 4 buf.length)
  let b₀ ← Prog.lift (index buf 0)
  let b₁ ← Prog.lift (index buf 1)
  let b₂ ← Prog.lift (index buf 2)
  let b₃ ← Prog.lift (index buf 3)
  Prog.set (← Prog.lift (slice buf 4 buf.length))
  pure (BigEndian.sval [b₀, b₁, b₂, b₃])

/-- `readShort`: a big-endian `uint16`. -/
def readShort : Framer Nat := do
  let buf ← Prog.get
  Prog.panicIf (buf.length < 2) (.notEnoughBytes .short 2 buf.length)
  let b₀ ← Prog.lift (index buf 0)
  let b₁ ← Prog.lift (index buf 1)
  Prog.set (← Prog.lift (slice buf 2 buf.length))
  pure (BigEndian.val [b₀, b₁])

theorem readByte_cons (b : UInt8) (rest : List UInt8) : readByte (b :: rest) = .ok (b, rest) := by
  simp [readByte, index, slice]

theorem readByte_nil : readByte [] = .panic (.notEnoughBytes .byte 1 0) := by
  simp [readByte]

theorem readInt_cons (b₀ b₁ b₂ b₃ : UInt8) (rest : List UInt8) :
    readInt (b₀ :: b₁ :: b₂ :: b₃ :: rest) = .ok (BigEndian.sval [b₀, b₁, b₂, b₃], rest) := by
  have h₁ : ¬ (rest.length + 1 + 1 + 1 + 1 < 4) := by omega
  have h₂ : ((rest.length : Int) + 1 + 1 + 1 + 1 - 4).toNat = rest.length := by omega
  simp [readInt, index, slice, h₁, h₂]

theorem readInt_of_lt {buf : List UInt8} (h : buf.length < 4) :
    readInt buf = .panic (.notEnoughBytes .int 4 buf.length) := by
  simp only [readInt, Prog.get_bind, Prog.panicIf_pos_bind h, Prog.throw_apply]

theorem readShort_cons (b₀ b₁ : UInt8) (rest : List UInt8) :
    readShort (b₀ :: b₁ :: rest) = .ok (BigEndian.val [b₀, b₁], rest) := by
  have h₁ : ¬ (rest.length + 1 + 1 < 2) := by omega
  have h₂ : ((rest.length : Int) + 1 + 1 - 2).toNat = rest.length := by omega
  simp [readShort, index, slice, h₁, h₂]

theorem readShort_of_lt {buf : List UInt8} (h : buf.length < 2) :
    readShort buf = .panic (.notEnoughBytes .short 2 buf.length) := by
  simp only [readShort, Prog.get_bind, Prog.panicIf_pos_bind h, Prog.throw_apply]

/-- The fixed-size reads either return or panic with an error. -/
theorem noCrash_readByte : NoCrash readByte := by
  intro buf r h
  cases buf with
  | nil => rw [readByte_nil] at h; cases h
  | cons b rest => rw [readByte_cons] at h; cases h

theorem noCrash_readInt : NoCrash readInt := by
  intro buf r h
  match buf with
  | b₀ :: b₁ :: b₂ :: b₃ :: rest => rw [readInt_cons] at h; cases h
  | [] | [_] | [_, _] | [_, _, _] => rw [readInt_of_lt (by simp)] at h; cases h

theorem noCrash_readShort : NoCrash readShort := by
  intro buf r h
  match buf with
  | b₀ :: b₁ :: rest => rw [readShort_cons] at h; cases h
  | [] | [_] => rw [readShort_of_lt (by simp)] at h; cases h

/-! ### Sized reads -/

/-- The statements the sized reads share: `if len(f.buf) < size { panic(…) }`, then
`f.buf[:size]`, and the buffer advanced to `f.buf[size:]`. -/
def readSized (what : ReadWhat) (size : Int) : Framer (List UInt8) := do
  let buf ← Prog.get
  Prog.panicIf (buf.length < size) (.notEnoughBytes what size buf.length)
  let s ← Prog.lift (slice buf 0 size)
  Prog.set (← Prog.lift (slice buf size buf.length))
  pure s

/-- `readUUID`: sixteen bytes. -/
def readUUID : Framer (List UInt8) := readSized .uuid 16

/-- `readString`: a `[short]` length, then that many bytes. -/
def readString : Framer (List UInt8) := do
  let size ← readShort
  readSized .string size

/-- `readLongString`: an `[int]` length, then that many bytes. -/
def readLongString : Framer (List UInt8) := do
  let size ← readInt
  readSized .longString size

/-- `readShortBytes`: a `[short]` length, then that many bytes. -/
def readShortBytes : Framer (List UInt8) := do
  let size ← readShort
  readSized .shortBytes size

theorem readSized_of_le {what : ReadWhat} {size : Int} {buf : List UInt8} (h₀ : 0 ≤ size)
    (h : size ≤ buf.length) :
    readSized what size buf = .ok (buf.take size.toNat, buf.drop size.toNat) := by
  have hn : ¬ (buf.length : Int) < size := by omega
  simp only [readSized, Prog.get_bind, Prog.panicIf_neg_bind hn, slice_zero h₀ h,
    slice_length h₀ h, Prog.lift_ok_bind]
  rfl

theorem readSized_of_lt {what : ReadWhat} {size : Int} {buf : List UInt8}
    (h : (buf.length : Int) < size) :
    readSized what size buf = .panic (.notEnoughBytes what size buf.length) := by
  simp only [readSized, Prog.get_bind, Prog.panicIf_pos_bind h, Prog.throw_apply]

/-- A negative size passes the length check and fails at `f.buf[:size]`. -/
theorem readSized_of_neg {what : ReadWhat} {size : Int} {buf : List UInt8} (h : size < 0) :
    readSized what size buf = .crash (.sliceBoundsOutOfRange 0 size buf.length) := by
  have hn : ¬ (buf.length : Int) < size := by omega
  simp only [readSized, Prog.get_bind, Prog.panicIf_neg_bind hn, slice_of_neg h,
    Prog.lift_crash_bind]
  rfl

theorem noCrash_readSized {what : ReadWhat} {size : Int} (h₀ : 0 ≤ size) :
    NoCrash (readSized what size) := by
  intro buf r h
  by_cases hlt : (buf.length : Int) < size
  · rw [readSized_of_lt hlt] at h; cases h
  · rw [readSized_of_le h₀ (by omega)] at h; cases h

theorem noCrash_readUUID : NoCrash readUUID := noCrash_readSized (by decide)

theorem noCrash_readString : NoCrash readString :=
  noCrash_readShort.bind fun _ => noCrash_readSized (Int.natCast_nonneg _)

theorem noCrash_readShortBytes : NoCrash readShortBytes :=
  noCrash_readShort.bind fun _ => noCrash_readSized (Int.natCast_nonneg _)

/-- `readLongString` checks its length against the buffer but not against zero. -/
theorem readLongString_of_neg {b₀ b₁ b₂ b₃ : UInt8} (rest : List UInt8)
    (h : BigEndian.sval [b₀, b₁, b₂, b₃] < 0) :
    readLongString (b₀ :: b₁ :: b₂ :: b₃ :: rest) =
      .crash (.sliceBoundsOutOfRange 0 (BigEndian.sval [b₀, b₁, b₂, b₃]) rest.length) := by
  rw [readLongString, Prog.bind_apply, readInt_cons]
  exact readSized_of_neg h

/-! ### Lists and maps -/

/-- `readStringList`: a `[short]` count, then that many strings. -/
def readStringList : Framer (List (List UInt8)) := do
  let size ← readShort
  Prog.replicate size readString

/-- `readBytesInternal`: an `[int]` length, then that many bytes; a negative length is a nil
slice, and a short buffer is returned as an error. -/
def readBytesInternal : Framer (Except FrameError (Option (List UInt8))) := do
  let size ← readInt
  if size < 0 then pure (.ok none)
  else
    let buf ← Prog.get
    if buf.length < size then pure (.error (.notEnoughBytes .bytes size buf.length))
    else
      let l ← Prog.lift (slice buf 0 size)
      Prog.set (← Prog.lift (slice buf size buf.length))
      pure (.ok (some l))

/-- `readBytes`: `readBytesInternal`, panicking with its error. -/
def readBytes : Framer (Option (List UInt8)) := do
  match ← readBytesInternal with
  | .ok l => pure l
  | .error e => Prog.throw e

/-- `readConsistency`. -/
def readConsistency : Framer Nat := readShort

/-- `readBytesMap`: a `[short]` count of string keys, each with its `[bytes]`. -/
def readBytesMap : Framer (GoMap (List UInt8) (Option (List UInt8))) := do
  let size ← readShort
  let entries ← Prog.replicate size (do
    let k ← readString
    let v ← readBytes
    pure (k, v))
  pure (entries.foldl (fun m e => m.insert e.1 e.2) ∅)

/-- `readStringMultiMap`: a `[short]` count of string keys, each with its string list. -/
def readStringMultiMap : Framer (GoMap (List UInt8) (List (List UInt8))) := do
  let size ← readShort
  let entries ← Prog.replicate size (do
    let k ← readString
    let v ← readStringList
    pure (k, v))
  pure (entries.foldl (fun m e => m.insert e.1 e.2) ∅)

theorem noCrash_readStringList : NoCrash readStringList :=
  noCrash_readShort.bind fun size => noCrash_readString.replicate size

theorem noCrash_readBytesInternal : NoCrash readBytesInternal := by
  refine noCrash_readInt.bind fun size => NoCrash.ite_of (fun _ => noCrash_pure _) fun hneg => ?_
  refine noCrash_get.bind fun buf => NoCrash.ite_of (fun _ => noCrash_pure _) fun hlt => ?_
  -- past both checks the two slices are in bounds
  have h₀ : 0 ≤ size := by omega
  have h₁ : size ≤ buf.length := by omega
  rw [slice_zero h₀ h₁, Prog.lift_ok_bind, slice_length h₀ h₁, Prog.lift_ok_bind]
  exact (noCrash_set _).bind fun _ => noCrash_pure _

theorem noCrash_readBytes : NoCrash readBytes := by
  refine noCrash_readBytesInternal.bind fun res => ?_
  cases res with
  | ok l => exact noCrash_pure l
  | error e => exact noCrash_throw e

theorem noCrash_readBytesMap : NoCrash readBytesMap :=
  noCrash_readShort.bind fun size =>
    ((noCrash_readString.bind fun _ => noCrash_readBytes.bind fun _ => noCrash_pure _).replicate
      size).bind fun _ => noCrash_pure _

theorem noCrash_readStringMultiMap : NoCrash readStringMultiMap :=
  noCrash_readShort.bind fun size =>
    ((noCrash_readString.bind fun _ =>
      noCrash_readStringList.bind fun _ => noCrash_pure _).replicate size).bind
        fun _ => noCrash_pure _

/-! ### Addresses -/

/-- `readInetAdressOnly`: a size byte, which must be 4 or 16, then the address.  The second
length check compares the buffer with 1, not with `size`. -/
def readInetAdressOnly : Framer (List UInt8) := do
  let buf ← Prog.get
  Prog.panicIf (buf.length < 1) (.notEnoughBytes .inetSize 1 buf.length)
  let size ← Prog.lift (index buf 0)
  let buf ← Prog.lift (slice buf 1 buf.length)
  Prog.set buf
  Prog.panicIf (¬ (size = 4 ∨ size = 16)) (.invalidIPSize size)
  Prog.panicIf (buf.length < 1) (.notEnoughBytes .inet size.toNat buf.length)
  let ip ← Prog.lift (slice buf 0 size.toNat)
  Prog.set (← Prog.lift (slice buf size.toNat buf.length))
  pure ip

/-- `readInet`: an address and an `[int]` port. -/
def readInet : Framer (List UInt8 × Int) := do
  let ip ← readInetAdressOnly
  let port ← readInt
  pure (ip, port)

/-- An address byte of 4 or 16 followed by fewer bytes than that, but at least one, fails at
run time. -/
theorem readInetAdressOnly_short {size : UInt8} {rest : List UInt8} (hsize : size = 4 ∨ size = 16)
    (hne : rest ≠ []) (hshort : rest.length < size.toNat) :
    readInetAdressOnly (size :: rest) =
      .crash (.sliceBoundsOutOfRange 0 size.toNat rest.length) := by
  have hlen : ¬ rest.length < 1 := by
    cases rest with
    | nil => exact absurd rfl hne
    | cons _ _ => simp
  have hsl : (slice (size :: rest) 1 (size :: rest).length : Outcome FrameError _) = .ok rest := by
    rw [slice_length (by decide) (by simp)]; rfl
  have h₁ : ¬ (size :: rest).length < 1 := by simp
  have hs : (rest.length : Int) < (size.toNat : Int) := by exact_mod_cast hshort
  simp only [readInetAdressOnly, Prog.get_bind, Prog.panicIf_neg_bind h₁, index_zero_cons, hsl,
    Prog.lift_ok_bind, Prog.set_bind, Prog.panicIf_neg_bind (not_not.mpr hsize),
    Prog.panicIf_neg_bind hlen, slice_of_length_lt hs, Prog.lift_crash_bind]
  rfl

end Gocql
