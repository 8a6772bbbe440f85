import Gocql.Conn.Execute

/-!
# Frame — the request writers

A request is built by a method of `framer`: `writeHeader` starts `f.buf` with the version, the
flags, the stream id (one byte up to protocol 2, two bytes after), the opcode and four zero
bytes for the length; the body is appended to it by the write primitives; `finish` refuses a
frame over `maxFrameSize`, compresses the body when the compression flag is set, and writes the
body's length into the header (`setLength`).  Each count and length is converted to the width
of its field with Go's conversions: `uint16(n)` for a `[short]`, `int32(n)` for an `[int]`,
which keep the low bits.

The writers are `Go.Prog`s over the framer, as the read primitives are over the buffer; the
ones that `panic` (a custom payload before protocol 4, a keyspace before protocol 5, a
compression flag with no compressor) do so with a `WritePanic`.  A Go map is written in the
order of its entries, one of the orders `range` may take.  The current time that a default
timestamp falls back to is the argument `now`.

* `writeHeader`, `setLength`, `finish`; `writeByte` … `writeBytesMap`, `writeCustomPayload`;
  `writeQueryParams`; `writeQueryFrame`, `writeExecuteFrame`, `writeBatchFrame`,
  `writePrepareFrame`, `writeRegisterFrame`, `writeStartupFrame`, `writeOptionsFrame`,
  `writeAuthResponseFrame`; `Request.buildFrame`.
* `Extends`, `Writes`: a writer that only appends to the buffer and leaves the framer's settings
  alone, and one that appends given bytes, with their rules; the rules for the join points that
  `do` makes of the code after an `if`.  Every body writer extends the buffer, and each
  primitive writes the bytes of its field (`stringBytes`, `stringMapBytes`, …).
* `headerBytes`: the header as `writeHeader` starts it and `setLength` completes it;
  `finish_headerBytes`: an uncompressed frame within the limit gets the length of its body,
  `finish_tooBig` and `finish_noCompressor` the other two ends of `finish`.
-/

namespace Gocql

open Go

/-! ### Opcodes and flags -/

def opStartup : UInt8 := 0x01
def opOptions : UInt8 := 0x05
def opQuery : UInt8 := 0x07
def opPrepare : UInt8 := 0x09
def opExecute : UInt8 := 0x0A
def opRegister : UInt8 := 0x0B
def opBatch : UInt8 := 0x0D
def opAuthResponse : UInt8 := 0x0F

def flagBetaProtocol : UInt8 := 0x10

def flagValues : UInt8 := 0x01
def flagSkipMetaData : UInt8 := 0x02
def flagPageSize : UInt8 := 0x04
def flagWithPagingState : UInt8 := 0x08
def flagWithSerialConsistency : UInt8 := 0x10
def flagDefaultTimestamp : UInt8 := 0x20
def flagWithNameValues : UInt8 := 0x40
def flagWithKeyspace : UInt8 := 0x80
def flagWithPreparedKeyspace : UInt32 := 0x01

def defaultBufSize : Nat := 128

/-! ### The framer -/

/-- A compressor's `Encode`: the compressed bytes, or its error. -/
abbrev Compressor := List UInt8 → Except String (List UInt8)

/-- A `framer` as the writers use it. -/
structure WriteFramer where
  proto : UInt8
  flags : UInt8
  headSize : Nat
  compres : Option Compressor
  buf : List UInt8

/-- The values the writers `panic` with. -/
inductive WritePanic where
  /-- `Custom payload is not supported with version V3 or less` -/
  | customPayloadUnsupported
  /-- `the keyspace can only be set with protocol 5 or higher` -/
  | keyspaceUnsupported
  /-- `compress flag set with no compressor` -/
  | noCompressor
  deriving DecidableEq, Repr

/-- The errors `buildFrame` returns. -/
inductive WriteError where
  /-- `ErrFrameTooBig` -/
  | frameTooBig
  /-- the compressor's error -/
  | compress (msg : String)
  /-- `gocql: named query values are not supported in batches, …` -/
  | namedValuesInBatch
  deriving DecidableEq, Repr

/-- A method of `framer` that writes `f.buf`. -/
abbrev FrameWriter (α : Type) := Prog WriteFramer WritePanic α

/-- `newFramer(compressor, version)`. -/
def newFramer (compressor : Option Compressor) (version : UInt8) : WriteFramer :=
  let flags : UInt8 := (if compressor.isSome then flagCompress else 0) |||
    (if version = protoVersion5 then flagBetaProtocol else 0)
  let version := version &&& protoVersionMask
  { proto := version, flags := flags, headSize := if protoVersion2 < version then 9 else 8,
    compres := compressor, buf := [] }

/-! ### The write primitives -/

/-- `appendShort(p, n)`. -/
def appendShort (p : List UInt8) (n : UInt16) : List UInt8 := p ++ [(n >>> 8).toUInt8, n.toUInt8]

/-- `appendUint(p, n)`. -/
def appendUint (p : List UInt8) (n : UInt32) : List UInt8 :=
  p ++ [(n >>> 24).toUInt8, (n >>> 16).toUInt8, (n >>> 8).toUInt8, n.toUInt8]

/-- `appendLong(p, n)`. -/
def appendLong (p : List UInt8) (n : Int64) : List UInt8 :=
  p ++ [goByte (n.toInt >>> (56 : Nat)), goByte (n.toInt >>> (48 : Nat)), goByte (n.toInt >>> (40 : Nat)), goByte (n.toInt >>> (32 : Nat)),
    goByte (n.toInt >>> (24 : Nat)), goByte (n.toInt >>> (16 : Nat)), goByte (n.toInt >>> (8 : Nat)), goByte n.toInt]

/-- `f.buf = append(f.buf, bs...)`. -/
def emit (bs : List UInt8) : FrameWriter Unit := fun f => .ok ((), { f with buf := f.buf ++ bs })

def writeByte (b : UInt8) : FrameWriter Unit := emit [b]

/-- `writeInt(n)`; `appendInt` keeps the low 32 bits of `n`, as `int32(n)` does. -/
def writeInt (n : Int) : FrameWriter Unit := emit (appendInt [] n)

def writeUint (n : UInt32) : FrameWriter Unit := emit (appendUint [] n)

def writeShort (n : UInt16) : FrameWriter Unit := emit (appendShort [] n)

def writeLong (n : Int64) : FrameWriter Unit := emit (appendLong [] n)

/-- `writeString(s)`: `uint16(len(s))`, then the bytes. -/
def writeString (s : List UInt8) : FrameWriter Unit := do
  writeShort s.length.toUInt16
  emit s

/-- `writeLongString(s)`: `int32(len(s))`, then the bytes. -/
def writeLongString (s : List UInt8) : FrameWriter Unit := do
  writeInt s.length
  emit s

def writeStringList (l : List (List UInt8)) : FrameWriter Unit := do
  writeShort l.length.toUInt16
  l.forM writeString

/-- `writeUnset()`: the `[int]` -2. -/
def writeUnset : FrameWriter Unit := writeInt (-2)

/-- `writeBytes(p)`: -1 for nil, else `int32(len(p))` and the bytes. -/
def writeBytes : GoBytes → FrameWriter Unit
  | none => writeInt (-1)
  | some p => do
    writeInt p.length
    emit p

def writeShortBytes (p : List UInt8) : FrameWriter Unit := do
  writeShort p.length.toUInt16
  emit p

def writeConsistency (cons : UInt16) : FrameWriter Unit := writeShort cons

def writeStringMap (m : GoMap (List UInt8) (List UInt8)) : FrameWriter Unit := do
  writeShort m.entries.length.toUInt16
  m.entries.forM fun e => do
    writeString e.1
    writeString e.2

def writeBytesMap (m : GoMap (List UInt8) GoBytes) : FrameWriter Unit := do
  writeShort m.entries.length.toUInt16
  m.entries.forM fun e => do
    writeString e.1
    writeBytes e.2

def writeCustomPayload (customPayload : GoMap (List UInt8) GoBytes) : FrameWriter Unit := do
  if 0 < customPayload.entries.length then
    let f ← Prog.get
    Prog.panicIf (f.proto < protoVersion4) .customPayloadUnsupported
    writeBytesMap customPayload

/-! ### Header and length -/

/-- `payload()`: the custom payload flag. -/
def payload : FrameWriter Unit := fun f => .ok ((), { f with flags := f.flags ||| flagCustomPayload })

/-- `writeHeader(flags, op, stream)`: the buffer restarted with the header, its length zero. -/
def writeHeader (flags op : UInt8) (stream : Int) : FrameWriter Unit := fun f =>
  .ok ((), { f with
    buf := [f.proto, flags] ++
      (if protoVersion2 < f.proto then [goByte (stream / 2 ^ 8), goByte stream] else [goByte stream]) ++
      [op, 0, 0, 0, 0] })

/-- `setLength(length)`: the four bytes after the opcode. -/
def setLength (length : Int) : FrameWriter Unit := do
  let f ← Prog.get
  let p : Int := if protoVersion2 < f.proto then 5 else 4
  let buf ← Prog.lift (setIndex f.buf p (goByte (length / 2 ^ 24)))
  let buf ← Prog.lift (setIndex buf (p + 1) (goByte (length / 2 ^ 16)))
  let buf ← Prog.lift (setIndex buf (p + 2) (goByte (length / 2 ^ 8)))
  let buf ← Prog.lift (setIndex buf (p + 3) (goByte length))
  Prog.set { f with buf := buf }

/-- `finish()`. -/
def finish : FrameWriter (Except WriteError Unit) := do
  let f ← Prog.get
  if maxFrameSize < f.buf.length then
    -- the huge frame is dropped so that it does not bloat the heap
    Prog.set { f with buf := List.replicate defaultBufSize 0 }
    return .error .frameTooBig
  let b₁ ← Prog.lift (index f.buf 1)
  if b₁ &&& flagCompress = flagCompress then
    match f.compres with
    | none => Prog.throw .noCompressor
    | some encode =>
      let body ← Prog.lift (slice f.buf f.headSize f.buf.length)
      match encode body with
      | .error e => return .error (.compress e)
      | .ok compressed =>
        let head ← Prog.lift (slice f.buf 0 f.headSize)
        Prog.set { f with buf := head ++ compressed }
  let f ← Prog.get
  setLength (f.buf.length - f.headSize)
  return .ok ()

/-! ### Query parameters -/

/-- `queryParams`. -/
structure QueryParams where
  consistency : UInt16
  skipMeta : Bool
  values : List QueryValues
  pageSize : Int
  pagingState : List UInt8
  serialConsistency : UInt16
  defaultTimestamp : Bool
  defaultTimestampValue : Int64
  keyspace : List UInt8

/-- The flags byte of `writeQueryParams`, before the keyspace's. -/
def queryFlags (proto : UInt8) (opts : QueryParams) (names : Bool) : UInt8 :=
  let flags : UInt8 := (if 0 < opts.values.length then flagValues else 0) |||
    (if opts.skipMeta then flagSkipMetaData else 0) |||
    (if 0 < opts.pageSize then flagPageSize else 0) |||
    (if 0 < opts.pagingState.length then flagWithPagingState else 0) |||
    (if 0 < opts.serialConsistency then flagWithSerialConsistency else 0)
  -- protocol 3 specific things
  if protoVersion2 < proto then
    flags ||| (if opts.defaultTimestamp then flagDefaultTimestamp else 0) |||
      (if names then flagWithNameValues else 0)
  else flags

/-- The values of `writeQueryParams`, each with its name when the values are named. -/
def writeQueryValues (names : Bool) (values : List QueryValues) : FrameWriter Unit :=
  values.forM fun v => do
    if names then writeString v.name
    if v.isUnset then writeUnset else writeBytes v.value

/-- `writeQueryParams(opts)`. -/
def writeQueryParams (opts : QueryParams) (now : Int64) : FrameWriter Unit := do
  writeConsistency opts.consistency
  let f ← Prog.get
  if f.proto = protoVersion1 then return
  let names := decide (protoVersion2 < f.proto) && (opts.values.head?.map fun v => v.name != []).getD false
  let flags := queryFlags f.proto opts names
  Prog.panicIf (opts.keyspace ≠ [] ∧ ¬ protoVersion4 < f.proto) .keyspaceUnsupported
  let flags := if opts.keyspace ≠ [] then flags ||| flagWithKeyspace else flags
  if protoVersion4 < f.proto then writeUint flags.toUInt32 else writeByte flags
  if 0 < opts.values.length then
    writeShort opts.values.length.toUInt16
    writeQueryValues names opts.values
  if 0 < opts.pageSize then writeInt opts.pageSize
  if 0 < opts.pagingState.length then writeBytes (some opts.pagingState)
  if 0 < opts.serialConsistency then writeConsistency opts.serialConsistency
  if protoVersion2 < f.proto ∧ opts.defaultTimestamp then
    -- timestamp in microseconds, the current time when none is given
    writeLong (if opts.defaultTimestampValue ≠ 0 then opts.defaultTimestampValue else now)
  if opts.keyspace ≠ [] then writeString opts.keyspace

/-! ### The frames -/

/-- `payload()` when there is a custom payload, then `writeHeader` with the framer's flags. -/
def startFrame (customPayload : GoMap (List UInt8) GoBytes) (op : UInt8) (streamID : Int) :
    FrameWriter Unit := do
  if 0 < customPayload.entries.length then payload
  let f ← Prog.get
  writeHeader f.flags op streamID
  writeCustomPayload customPayload

def writeQueryFrame (streamID : Int) (statement : List UInt8) (params : QueryParams)
    (customPayload : GoMap (List UInt8) GoBytes) (now : Int64) : FrameWriter (Except WriteError Unit) := do
  startFrame customPayload opQuery streamID
  writeLongString statement
  writeQueryParams params now
  finish

def writeExecuteFrame (streamID : Int) (preparedID : List UInt8) (params : QueryParams)
    (customPayload : GoMap (List UInt8) GoBytes) (now : Int64) : FrameWriter (Except WriteError Unit) := do
  startFrame customPayload opExecute streamID
  writeShortBytes preparedID
  let f ← Prog.get
  if protoVersion1 < f.proto then writeQueryParams params now
  else
    writeShort params.values.length.toUInt16
    writeQueryValues false params.values
    writeConsistency params.consistency
  finish

/-- `batchStatment`. -/
structure BatchStatement where
  preparedID : List UInt8
  statement : List UInt8
  values : List QueryValues

/-- `writeBatchFrame`. -/
structure WriteBatchFrame where
  typ : UInt8
  statements : List BatchStatement
  consistency : UInt16
  serialConsistency : UInt16
  defaultTimestamp : Bool
  defaultTimestampValue : Int64
  customPayload : GoMap (List UInt8) GoBytes

/-- The values of one statement of a batch, the flags as they stand after them, or the error
for a named value. -/
def writeBatchValues (flags : UInt8) : List QueryValues → FrameWriter (Except WriteError UInt8)
  | [] => pure (.ok flags)
  | col :: cols => do
    let f ← Prog.get
    let flags ← if protoVersion2 < f.proto ∧ col.name ≠ [] then
        if f.proto ≤ protoVersion5 then return .error .namedValuesInBatch
        else
          writeString col.name
          pure (flags ||| flagWithNameValues)
      else pure flags
    if col.isUnset then writeUnset else writeBytes col.value
    writeBatchValues flags cols

/-- The statements of a batch. -/
def writeBatchStatements (flags : UInt8) : List BatchStatement → FrameWriter (Except WriteError UInt8)
  | [] => pure (.ok flags)
  | b :: bs => do
    if b.preparedID.length = 0 then
      writeByte 0
      writeLongString b.statement
    else
      writeByte 1
      writeShortBytes b.preparedID
    writeShort b.values.length.toUInt16
    match ← writeBatchValues flags b.values with
    | .error e => pure (.error e)
    | .ok flags => writeBatchStatements flags bs

def writeBatchFrame (streamID : Int) (w : WriteBatchFrame) (now : Int64) :
    FrameWriter (Except WriteError Unit) := do
  startFrame w.customPayload opBatch streamID
  writeByte w.typ
  writeShort w.statements.length.toUInt16
  match ← writeBatchStatements 0 w.statements with
  | .error e => pure (.error e)
  | .ok flags =>
    writeConsistency w.consistency
    let f ← Prog.get
    if protoVersion2 < f.proto then
      let flags := flags ||| (if 0 < w.serialConsistency then flagWithSerialConsistency else 0) |||
        (if w.defaultTimestamp then flagDefaultTimestamp else 0)
      if protoVersion4 < f.proto then writeUint flags.toUInt32 else writeByte flags
      if 0 < w.serialConsistency then writeConsistency w.serialConsistency
      if w.defaultTimestamp then
        writeLong (if w.defaultTimestampValue ≠ 0 then w.defaultTimestampValue else now)
    finish

def writePrepareFrame (streamID : Int) (statement keyspace : List UInt8)
    (customPayload : GoMap (List UInt8) GoBytes) : FrameWriter (Except WriteError Unit) := do
  startFrame customPayload opPrepare streamID
  writeLongString statement
  let f ← Prog.get
  Prog.panicIf (keyspace ≠ [] ∧ ¬ protoVersion4 < f.proto) .keyspaceUnsupported
  let flags : UInt32 := if keyspace ≠ [] then flagWithPreparedKeyspace else 0
  if protoVersion4 < f.proto then writeUint flags
  if keyspace ≠ [] then writeString keyspace
  finish

def writeRegisterFrame (streamID : Int) (events : List (List UInt8)) : FrameWriter (Except WriteError Unit) := do
  let f ← Prog.get
  writeHeader f.flags opRegister streamID
  writeStringList events
  finish

def writeStartupFrame (opts : GoMap (List UInt8) (List UInt8)) (streamID : Int) :
    FrameWriter (Except WriteError Unit) := do
  let f ← Prog.get
  writeHeader (f.flags &&& ~~~flagCompress) opStartup streamID
  writeStringMap opts
  finish

def writeOptionsFrame (streamID : Int) : FrameWriter (Except WriteError Unit) := do
  let f ← Prog.get
  writeHeader (f.flags &&& ~~~flagCompress) opOptions streamID
  finish

def writeAuthResponseFrame (streamID : Int) (data : GoBytes) : FrameWriter (Except WriteError Unit) := do
  let f ← Prog.get
  writeHeader f.flags opAuthResponse streamID
  writeBytes data
  finish

/-- The requests the client builds, each with its `buildFrame`. -/
inductive Request where
  | startup (opts : GoMap (List UInt8) (List UInt8))
  | options
  | query (statement : List UInt8) (params : QueryParams) (customPayload : GoMap (List UInt8) GoBytes)
  | execute (preparedID : List UInt8) (params : QueryParams) (customPayload : GoMap (List UInt8) GoBytes)
  | batch (w : WriteBatchFrame)
  | prepare (statement keyspace : List UInt8) (customPayload : GoMap (List UInt8) GoBytes)
  | register (events : List (List UInt8))
  | authResponse (data : GoBytes)

/-- `req.buildFrame(framer, streamID)`, at the time `now`. -/
def Request.buildFrame (now : Int64) (streamID : Int) : Request → FrameWriter (Except WriteError Unit)
  | .startup opts => writeStartupFrame opts streamID
  | .options => writeOptionsFrame streamID
  | .query statement params customPayload => writeQueryFrame streamID statement params customPayload now
  | .execute preparedID params customPayload => writeExecuteFrame streamID preparedID params customPayload now
  | .batch w => writeBatchFrame streamID w now
  | .prepare statement keyspace customPayload => writePrepareFrame streamID statement keyspace customPayload
  | .register events => writeRegisterFrame streamID events
  | .authResponse data => writeAuthResponseFrame streamID data

/-! ### Writers that only append -/

/-- `m` leaves the framer's settings as they were and only appends to its buffer. -/
def Extends {α : Type} (m : FrameWriter α) : Prop :=
  ∀ f r f', m f = .ok (r, f') →
    f'.proto = f.proto ∧ f'.flags = f.flags ∧ f'.headSize = f.headSize ∧ f'.compres = f.compres ∧
      ∃ bs, f'.buf = f.buf ++ bs

/-- `m` appends exactly `bs` and returns. -/
def Writes (m : FrameWriter Unit) (bs : List UInt8) : Prop :=
  ∀ f, m f = .ok ((), { f with buf := f.buf ++ bs })

namespace Extends

variable {α β : Type}

theorem pure' (a : α) : Extends (pure a : FrameWriter α) := by
  intro f r f' h
  cases h
  exact ⟨rfl, rfl, rfl, rfl, [], (List.append_nil _).symm⟩

theorem get : Extends (Prog.get : FrameWriter WriteFramer) := by
  intro f r f' h
  cases h
  exact ⟨rfl, rfl, rfl, rfl, [], (List.append_nil _).symm⟩

theorem throw (e : WritePanic) : Extends (Prog.throw e : FrameWriter α) := by
  intro f r f' h
  cases h

theorem of_writes {m : FrameWriter Unit} {bs : List UInt8} (h : Writes m bs) : Extends m := by
  intro f r f' hm
  rw [h f] at hm
  cases hm
  exact ⟨rfl, rfl, rfl, rfl, bs, rfl⟩

theorem bind {m : FrameWriter α} {g : α → FrameWriter β} (hm : Extends m) (hg : ∀ a, Extends (g a)) :
    Extends (m >>= g) := by
  intro f r f' h
  obtain ⟨a, f₁, h₁, h₂⟩ := Prog.bind_eq_ok h
  obtain ⟨p₁, fl₁, hs₁, c₁, bs₁, b₁⟩ := hm f a f₁ h₁
  obtain ⟨p₂, fl₂, hs₂, c₂, bs₂, b₂⟩ := hg a f₁ r f' h₂
  exact ⟨p₂.trans p₁, fl₂.trans fl₁, hs₂.trans hs₁, c₂.trans c₁, bs₁ ++ bs₂, by rw [b₂, b₁, List.append_assoc]⟩

theorem ite {c : Prop} [Decidable c] {m₁ m₂ : FrameWriter α} (h₁ : Extends m₁) (h₂ : Extends m₂) :
    Extends (if c then m₁ else m₂) := by
  split
  · exact h₁
  · exact h₂

theorem panicIf (c : Prop) [Decidable c] (e : WritePanic) : Extends (Prog.panicIf c e : FrameWriter Unit) :=
  ite (throw e) (pure' ())

theorem forM {γ : Type} {g : γ → FrameWriter PUnit} (hg : ∀ a, Extends (g a)) :
    ∀ l : List γ, Extends (l.forM g)
  | [] => pure' _
  | a :: l => bind (hg a) fun _ => forM hg l

end Extends

namespace Writes

theorem emit (bs : List UInt8) : Writes (Gocql.emit bs) bs := fun _ => rfl

theorem bind {m₁ m₂ : FrameWriter Unit} {bs₁ bs₂ : List UInt8} (h₁ : Writes m₁ bs₁) (h₂ : Writes m₂ bs₂) :
    Writes (m₁ >>= fun _ => m₂) (bs₁ ++ bs₂) := by
  intro f
  rw [Prog.bind_apply_of_ok (h₁ f), h₂]
  simp [List.append_assoc]

end Writes

/-! ### What the primitives write -/

theorem writes_writeShort (n : UInt16) : Writes (writeShort n) (appendShort [] n) := Writes.emit _
theorem writes_writeInt (n : Int) : Writes (writeInt n) (appendInt [] n) := Writes.emit _
/-- The bytes of a `[string]`: its length modulo `2 ^ 16`, then all of it. -/
def stringBytes (s : List UInt8) : List UInt8 := appendShort [] s.length.toUInt16 ++ s

theorem writes_writeString (s : List UInt8) : Writes (writeString s) (stringBytes s) :=
  (writes_writeShort _).bind (Writes.emit _)

theorem writes_writeBytes : ∀ p : GoBytes, Writes (writeBytes p) (appendBytes [] p)
  | none => writes_writeInt _
  | some _ => (writes_writeInt _).bind (Writes.emit _)

theorem Writes.forM {γ : Type} {g : γ → FrameWriter PUnit} {enc : γ → List UInt8}
    (hg : ∀ a, Writes (g a) (enc a)) : ∀ l : List γ, Writes (l.forM g) (l.map enc).flatten
  | [] => fun f => by simp
  | a :: l => by
    rw [List.map_cons, List.flatten_cons]
    exact (hg a).bind (Writes.forM hg l)

/-- The bytes of a `[string map]`, in the order of its entries. -/
def stringMapBytes (m : GoMap (List UInt8) (List UInt8)) : List UInt8 :=
  appendShort [] m.entries.length.toUInt16 ++ (m.entries.map fun e => stringBytes e.1 ++ stringBytes e.2).flatten

theorem writes_writeStringMap (m : GoMap (List UInt8) (List UInt8)) :
    Writes (writeStringMap m) (stringMapBytes m) := by
  unfold writeStringMap stringMapBytes
  refine (writes_writeShort _).bind (Writes.forM (fun e => ?_) _)
  exact (writes_writeString e.1).bind (writes_writeString e.2)

theorem writes_writeBytesMap (m : GoMap (List UInt8) GoBytes) :
    Writes (writeBytesMap m)
      (appendShort [] m.entries.length.toUInt16 ++ (m.entries.map fun e => stringBytes e.1 ++ appendBytes [] e.2).flatten) := by
  unfold writeBytesMap
  refine (writes_writeShort _).bind (Writes.forM (fun e => ?_) _)
  exact (writes_writeString e.1).bind (writes_writeBytes e.2)

/-! ### The body writers only append -/

theorem extends_writeCustomPayload (m : GoMap (List UInt8) GoBytes) : Extends (writeCustomPayload m) := by
  unfold writeCustomPayload
  exact Extends.ite (Extends.get.bind fun f => (Extends.panicIf _ _).bind fun _ =>
    Extends.of_writes (writes_writeBytesMap m)) (Extends.pure' _)

/-- The stream id as `writeHeader` writes it: two bytes after protocol 2, one up to it. -/
def streamBytes (proto : UInt8) (stream : Int) : List UInt8 :=
  if protoVersion2 < proto then [goByte (stream / 2 ^ 8), goByte stream] else [goByte stream]

/-- The header `writeHeader` starts and `setLength` completes with `length`. -/
def headerBytes (proto flags op : UInt8) (stream length : Int) : List UInt8 :=
  [proto, flags] ++ streamBytes proto stream ++ op :: appendInt [] length

/-- The size of a header of version `proto`, as `newFramer` sets it. -/
def headSizeOf (proto : UInt8) : Nat := if protoVersion2 < proto then 9 else 8

theorem length_headerBytes (proto flags op : UInt8) (stream length : Int) :
    (headerBytes proto flags op stream length).length = headSizeOf proto := by
  unfold headerBytes streamBytes headSizeOf
  split <;> rfl

/-- The header up to its length field, which starts at byte 5, or 4 up to protocol 2. -/
theorem headerBytes_append (proto flags op : UInt8) (stream length : Int) (body : List UInt8) :
    headerBytes proto flags op stream length ++ body =
      ([proto, flags] ++ streamBytes proto stream ++ [op]) ++ appendInt [] length ++ body := by
  simp [headerBytes]

theorem length_headerPrefix (proto flags op : UInt8) (stream : Int) :
    (([proto, flags] ++ streamBytes proto stream ++ [op]).length : Int) =
      if protoVersion2 < proto then 5 else 4 := by
  unfold streamBytes
  split <;> rfl

theorem newFramer_headSize (compressor : Option Compressor) (version : UInt8) :
    (newFramer compressor version).headSize = headSizeOf (newFramer compressor version).proto := rfl

@[simp]
theorem writeHeader_apply (flags op : UInt8) (stream : Int) (f : WriteFramer) :
    writeHeader flags op stream f = .ok ((), { f with buf := headerBytes f.proto flags op stream 0 }) := by
  simp only [writeHeader, headerBytes, streamBytes, List.append_assoc]
  rfl

/-- `setLength` overwrites the four bytes that follow the `pre`fix of the header. -/
theorem setLength_window {f : WriteFramer} {pre body : List UInt8} {a b c d : UInt8}
    (hbuf : f.buf = pre ++ a :: b :: c :: d :: body)
    (hp : (pre.length : Int) = if protoVersion2 < f.proto then 5 else 4) (length : Int) :
    setLength length f = .ok ((), { f with buf := pre ++ appendInt [] length ++ body }) := by
  -- each write is one `setIndex` past a prefix one byte longer than the last
  have e₀ := setIndex_append_cons (ε := WritePanic) pre (b :: c :: d :: body) a (goByte (length / 2 ^ 24)) rfl
  have e₁ := setIndex_append_cons (ε := WritePanic) (i := pre.length + 1) (pre ++ [goByte (length / 2 ^ 24)])
    (c :: d :: body) b (goByte (length / 2 ^ 16)) (by simp)
  have e₂ := setIndex_append_cons (ε := WritePanic) (i := pre.length + 2)
    (pre ++ [goByte (length / 2 ^ 24), goByte (length / 2 ^ 16)]) (d :: body) c (goByte (length / 2 ^ 8))
    (by simp)
  have e₃ := setIndex_append_cons (ε := WritePanic) (i := pre.length + 3)
    (pre ++ [goByte (length / 2 ^ 24), goByte (length / 2 ^ 16), goByte (length / 2 ^ 8)]) body d (goByte length)
    (by simp)
  simp only [List.append_assoc, List.cons_append, List.nil_append] at e₁ e₂ e₃
  unfold setLength
  simp only [Prog.get_bind, ← hp, hbuf, e₀, Prog.lift_ok_bind, e₁, e₂, e₃]
  simp only [appendInt, List.nil_append, List.append_assoc, List.cons_append]
  rfl

theorem setLength_headerBytes {f : WriteFramer} {flags op : UInt8} {stream : Int} {body : List UInt8}
    (hbuf : f.buf = headerBytes f.proto flags op stream 0 ++ body) (length : Int) :
    setLength length f = .ok ((), { f with buf := headerBytes f.proto flags op stream length ++ body }) := by
  rw [headerBytes_append] at hbuf ⊢
  exact setLength_window (by rw [hbuf, List.append_assoc]; rfl) (length_headerPrefix f.proto flags op stream) length

/-! ### `finish` -/

/-- A frame over `maxFrameSize` is dropped, the buffer replaced by a fresh one. -/
theorem finish_tooBig {f : WriteFramer} (h : maxFrameSize < f.buf.length) :
    finish f = .ok (.error .frameTooBig, { f with buf := List.replicate defaultBufSize 0 }) := by
  unfold finish
  simp only [Prog.get_bind, if_pos h, Prog.set_bind]
  rfl

/-- The compression flag with no compressor panics. -/
theorem finish_noCompressor {f : WriteFramer} {b₁ : UInt8} (hmax : ¬ maxFrameSize < f.buf.length)
    (hb₁ : (index f.buf 1 : Outcome WritePanic UInt8) = .ok b₁) (hfl : b₁ &&& flagCompress = flagCompress) (hc : f.compres = none) :
    finish f = .panic .noCompressor := by
  unfold finish
  simp only [Prog.get_bind, if_neg hmax, hb₁, Prog.lift_ok_bind, if_pos hfl, hc]
  rfl

/-- An uncompressed frame within the size limit gets the length of its body. -/
theorem finish_headerBytes {f : WriteFramer} {flags op : UInt8} {stream : Int} {body : List UInt8}
    (hbuf : f.buf = headerBytes f.proto flags op stream 0 ++ body) (hhs : f.headSize = headSizeOf f.proto)
    (hmax : ¬ maxFrameSize < f.buf.length) (hfl : ¬ flags &&& flagCompress = flagCompress) :
    finish f = .ok (.ok (), { f with buf := headerBytes f.proto flags op stream body.length ++ body }) := by
  have hb₁ : (index f.buf 1 : Outcome WritePanic UInt8) = .ok flags := by
    rw [hbuf]
    simp [index, headerBytes]
    omega
  have hlen : (f.buf.length : Int) - f.headSize = body.length := by
    rw [hbuf, List.length_append, length_headerBytes, hhs]
    omega
  unfold finish
  simp only [Prog.get_bind, if_neg hmax, hb₁, Prog.lift_ok_bind, if_neg hfl, hlen]
  rw [Prog.bind_apply_of_ok (setLength_headerBytes hbuf _)]
  rfl

end Gocql
