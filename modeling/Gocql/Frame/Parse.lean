import Gocql.Frame.Read
import Gocql.Frame.Header

/-!
# Frame — parsing a response body

`framer.parseFrame` reads the optional tracing id, warnings and custom payload of a response,
then dispatches on the opcode to the parser of its body: an error with its code-specific
fields, `READY`, `SUPPORTED`, the authentication frames, a result of one of five kinds (rows
with their metadata, a keyspace, a prepared statement with its two metadata, a schema change),
or an event.  A `defer` recovers every `panic`: a panic with an error value becomes the
returned error, a run-time error is panicked again.

The parsers are `Framer`s built from the read primitives of `Frame.Read`, statement by
statement.  The recursion of `readTypeInfo` through nested types is bounded by a fuel argument;
each level reads a `[short]` first, so `readCol` passes the length of the buffer plus one.

* `parseFrame`: the whole parser, with the `defer` that sorts the panics.
* `noCrash_readTypeInfo`, `noCrash_parseResultMetadata`, …: which parsers end in no run-time
  error, composed from the primitives' lemmas by `Go.NoCrash.bind`.
* `parseFrame_noCrash`: a frame whose body reaches neither `readInetAdressOnly` nor the
  primary-key `make` of `parsePreparedMetadata` is parsed or rejected, never a run-time error;
  `parseFrame_runtime_errors` adds the two primitives that fail at run time.
-/

namespace Gocql

open Go

/-! ### Protocol constants -/

def resultKindVoid : Int := 1
def resultKindRows : Int := 2
def resultKindKeyspace : Int := 3
def resultKindPrepared : Int := 4
def resultKindSchemaChanged : Int := 5

def flagGlobalTableSpec : UInt8 := 0x01
def flagHasMorePages : UInt8 := 0x02
def flagNoMetaData : UInt8 := 0x04

def errCodeServer : Int := 0x0000
def errCodeProtocol : Int := 0x000A
def errCodeCredentials : Int := 0x0100
def errCodeUnavailable : Int := 0x1000
def errCodeOverloaded : Int := 0x1001
def errCodeBootstrapping : Int := 0x1002
def errCodeTruncate : Int := 0x1003
def errCodeWriteTimeout : Int := 0x1100
def errCodeReadTimeout : Int := 0x1200
def errCodeReadFailure : Int := 0x1300
def errCodeFunctionFailure : Int := 0x1400
def errCodeWriteFailure : Int := 0x1500
def errCodeCDCWriteFailure : Int := 0x1600
def errCodeCASWriteUnknown : Int := 0x1700
def errCodeSyntax : Int := 0x2000
def errCodeUnauthorized : Int := 0x2100
def errCodeInvalid : Int := 0x2200
def errCodeConfig : Int := 0x2300
def errCodeAlreadyExists : Int := 0x2400
def errCodeUnprepared : Int := 0x2500

/-- `flags&flag == flag` on an `int` read off the wire, for a flag of its low byte. -/
def intHasFlag (flags : Int) (flag : UInt8) : Bool := goByte flags &&& flag == flag

/-! ### Frames -/

/-- `ColumnInfo`. -/
structure ColumnInfo where
  keyspace : List UInt8
  table : List UInt8
  name : List UInt8
  typeInfo : TypeInfo
  deriving Repr

/-- `resultMetadata`. -/
structure ResultMetadata where
  flags : Int
  pagingState : Option (List UInt8)
  columns : List ColumnInfo
  colCount : Int
  actualColCount : Int
  deriving Repr

/-- The zero `resultMetadata`. -/
def ResultMetadata.zero : ResultMetadata := ⟨0, none, [], 0, 0⟩

/-- `preparedMetadata`. -/
structure PreparedMetadata where
  result : ResultMetadata
  pkeyColumns : List Nat
  keyspace : List UInt8
  table : List UInt8
  deriving Repr

/-- `ErrorMap`: the reason code of each failed node, keyed by its address bytes. -/
abbrev ErrorMap := GoMap (List UInt8) Nat

/-- The fields of the error frames beyond `errorFrame`'s code and message. -/
inductive ErrorDetails where
  | plain
  | unavailable (consistency : Nat) (required alive : Int)
  | writeTimeout (consistency : Nat) (received blockFor : Int) (writeType : List UInt8)
  | readTimeout (consistency : Nat) (received blockFor : Int) (dataPresent : UInt8)
  | alreadyExists (keyspace table : List UInt8)
  | unprepared (statementId : List UInt8)
  | readFailure (consistency : Nat) (received blockFor numFailures : Int)
      (errorMap : ErrorMap) (dataPresent : Bool)
  | writeFailure (consistency : Nat) (received blockFor numFailures : Int)
      (errorMap : ErrorMap) (writeType : List UInt8)
  | functionFailure (keyspace function : List UInt8) (argTypes : List (List UInt8))
  | cdcWriteFailure
  | casWriteUnknown (consistency : Nat) (received blockFor : Int)

/-- The frames `parseFrame` returns, one constructor per frame type. -/
inductive Frame where
  | error (head : FrameHeader) (code : Int) (message : List UInt8) (details : ErrorDetails)
  | ready (head : FrameHeader)
  | supported (head : FrameHeader) (supported : GoMap (List UInt8) (List (List UInt8)))
  | authenticate (head : FrameHeader) (className : List UInt8)
  | authChallenge (head : FrameHeader) (data : Option (List UInt8))
  | authSuccess (head : FrameHeader) (data : Option (List UInt8))
  | resultVoid (head : FrameHeader)
  | resultRows (head : FrameHeader) (metadata : ResultMetadata) (numRows : Int)
  | resultKeyspace (head : FrameHeader) (keyspace : List UInt8)
  | resultPrepared (head : FrameHeader) (preparedID : List UInt8) (reqMeta : PreparedMetadata)
      (respMeta : ResultMetadata)
  | schemaChangeKeyspace (head : FrameHeader) (change keyspace : List UInt8)
  | schemaChangeTable (head : FrameHeader) (change keyspace object : List UInt8)
  | schemaChangeType (head : FrameHeader) (change keyspace object : List UInt8)
  | schemaChangeFunction (head : FrameHeader) (change keyspace name : List UInt8)
      (args : List (List UInt8))
  | schemaChangeAggregate (head : FrameHeader) (change keyspace name : List UInt8)
      (args : List (List UInt8))
  | topologyChange (head : FrameHeader) (change : List UInt8) (host : List UInt8) (port : Int)
  | statusChange (head : FrameHeader) (change : List UInt8) (host : List UInt8) (port : Int)

/-! ### Types and metadata -/

/-- `readTypeInfo`, nested at most `fuel` deep.  Running out of fuel is not a behaviour of the
source; it is a panic here, and `readCol` gives more fuel than the buffer has bytes. -/
def readTypeInfo (proto : UInt8) : Nat → Framer TypeInfo
  | 0 => Prog.throw .typeInfoTooDeep
  | fuel + 1 => do
      let id ← readShort
      let simple : NativeType := ⟨proto, ⟨id⟩, []⟩
      let simple ← (if simple.typ = .custom then do
          let custom ← readString
          let cassType := getApacheCassandraType custom
          pure (if cassType ≠ .custom then { simple with custom := custom, typ := cassType }
            else { simple with custom := custom })
        else pure simple : Framer NativeType)
      if simple.typ = .tuple then
        let n ← readShort
        let elems ← Prog.replicate n (readTypeInfo proto fuel)
        pure (.tuple simple elems)
      else if simple.typ = .udt then
        let keyspace ← readString
        let name ← readString
        let n ← readShort
        let elements ← Prog.replicate n (do
          let fieldName ← readString
          let fieldType ← readTypeInfo proto fuel
          pure (fieldName, fieldType))
        pure (.udt simple keyspace name elements)
      else if simple.typ = .map ∨ simple.typ = .list ∨ simple.typ = .set then
        let key ← (if simple.typ = .map then some <$> readTypeInfo proto fuel else pure none :
          Framer (Option TypeInfo))
        let elem ← readTypeInfo proto fuel
        pure (.collection simple key elem)
      else pure (.native simple)

/-- `readCol`, with `meta.actualColCount` passed in and returned: a tuple column counts its
elements. -/
def readCol (proto : UInt8) (globalSpec : Bool) (keyspace table : List UInt8)
    (actualColCount : Int) : Framer (ColumnInfo × Int) := do
  let (ks, tbl) ← (if !globalSpec then do
      let ks ← readString
      let tbl ← readString
      pure (ks, tbl)
    else pure (keyspace, table) : Framer (List UInt8 × List UInt8))
  let name ← readString
  let buf ← Prog.get
  let typeInfo ← readTypeInfo proto (buf.length + 1)
  let actualColCount := match typeInfo with
    | .tuple _ elems => actualColCount + elems.length - 1
    | _ => actualColCount
  pure (⟨ks, tbl, name, typeInfo⟩, actualColCount)

/-- The column loop of the metadata parsers.  The source has two loops, one into a slice made
with `colCount` entries and one appending, for `colCount` under and over 1000; both read
`colCount` columns in order. -/
def readCols (proto : UInt8) (globalSpec : Bool) (keyspace table : List UInt8) :
    Nat → Int → Framer (List ColumnInfo × Int)
  | 0, actualColCount => pure ([], actualColCount)
  | n + 1, actualColCount => do
      let (col, actualColCount) ← readCol proto globalSpec keyspace table actualColCount
      let (cols, actualColCount) ← readCols proto globalSpec keyspace table n actualColCount
      pure (col :: cols, actualColCount)

/-- `parseResultMetadata`. -/
def parseResultMetadata (proto : UInt8) : Framer ResultMetadata := do
  let flags ← readInt
  let colCount ← readInt
  Prog.panicIf (colCount < 0) (.negativeColumnCount colCount)
  let pagingState ← (if intHasFlag flags flagHasMorePages then readBytes else pure none :
    Framer (Option (List UInt8)))
  if intHasFlag flags flagNoMetaData then
    pure ⟨flags, pagingState, [], colCount, colCount⟩
  else
    let globalSpec := intHasFlag flags flagGlobalTableSpec
    let (keyspace, table) ← (if globalSpec then do
        let keyspace ← readString
        let table ← readString
        pure (keyspace, table)
      else pure ([], []) : Framer (List UInt8 × List UInt8))
    let (cols, actualColCount) ← readCols proto globalSpec keyspace table colCount.toNat colCount
    pure ⟨flags, pagingState, cols, colCount, actualColCount⟩

/-- `parsePreparedMetadata`: as `parseResultMetadata`, with the primary-key indexes from
protocol 4 on, counted by an `[int]` that is not checked against zero before `make`. -/
def parsePreparedMetadata (proto : UInt8) : Framer PreparedMetadata := do
  let flags ← readInt
  let colCount ← readInt
  Prog.panicIf (colCount < 0) (.negativeColumnCount colCount)
  let pkeyColumns ← (if protoVersion4 ≤ proto then do
      let pkeyCount ← readInt
      let _ ← Prog.lift (makeSlice pkeyCount (0 : Nat))
      Prog.replicate pkeyCount.toNat readShort
    else pure [] : Framer (List Nat))
  let pagingState ← (if intHasFlag flags flagHasMorePages then readBytes else pure none :
    Framer (Option (List UInt8)))
  if intHasFlag flags flagNoMetaData then
    pure ⟨⟨flags, pagingState, [], colCount, colCount⟩, pkeyColumns, [], []⟩
  else
    let globalSpec := intHasFlag flags flagGlobalTableSpec
    let (keyspace, table) ← (if globalSpec then do
        let keyspace ← readString
        let table ← readString
        pure (keyspace, table)
      else pure ([], []) : Framer (List UInt8 × List UInt8))
    let (cols, actualColCount) ← readCols proto globalSpec keyspace table colCount.toNat colCount
    pure ⟨⟨flags, pagingState, cols, colCount, actualColCount⟩, pkeyColumns, keyspace, table⟩

/-! ### Results -/

/-- `parseResultRows`: the frame is built without the header. -/
def parseResultRows (proto : UInt8) : Framer Frame := do
  let metadata ← parseResultMetadata proto
  let numRows ← readInt
  Prog.panicIf (numRows < 0) (.invalidRowCount numRows)
  pure (.resultRows .zero metadata numRows)

/-- `parseResultSetKeyspace`. -/
def parseResultSetKeyspace (head : FrameHeader) : Framer Frame := do
  pure (.resultKeyspace head (← readString))

/-- `parseResultPrepared`: the result metadata only from protocol 2 on. -/
def parseResultPrepared (proto : UInt8) (head : FrameHeader) : Framer Frame := do
  let preparedID ← readShortBytes
  let reqMeta ← parsePreparedMetadata proto
  if proto < protoVersion2 then pure (.resultPrepared head preparedID reqMeta .zero)
  else
    let respMeta ← parseResultMetadata proto
    pure (.resultPrepared head preparedID reqMeta respMeta)

/-- `parseResultSchemaChange`: three strings up to protocol 2, a change and a target after. -/
def parseResultSchemaChange (proto : UInt8) (head : FrameHeader) : Framer Frame := do
  if proto ≤ protoVersion2 then
    let change ← readString
    let keyspace ← readString
    let table ← readString
    if table ≠ [] then pure (.schemaChangeTable head change keyspace table)
    else pure (.schemaChangeKeyspace head change keyspace)
  else
    let change ← readString
    let target ← readString
    if target = strBytes "KEYSPACE" then
      pure (.schemaChangeKeyspace head change (← readString))
    else if target = strBytes "TABLE" then
      let keyspace ← readString
      let object ← readString
      pure (.schemaChangeTable head change keyspace object)
    else if target = strBytes "TYPE" then
      let keyspace ← readString
      let object ← readString
      pure (.schemaChangeType head change keyspace object)
    else if target = strBytes "FUNCTION" then
      let keyspace ← readString
      let name ← readString
      let args ← readStringList
      pure (.schemaChangeFunction head change keyspace name args)
    else if target = strBytes "AGGREGATE" then
      let keyspace ← readString
      let name ← readString
      let args ← readStringList
      pure (.schemaChangeAggregate head change keyspace name args)
    else Prog.throw (.unknownSchemaChangeTarget target change)

/-- `parseResultFrame`: an unknown kind is returned as an error, not panicked. -/
def parseResultFrame (proto : UInt8) (head : FrameHeader) : Framer (Except FrameError Frame) := do
  let kind ← readInt
  if kind = resultKindVoid then pure (.ok (.resultVoid head))
  else if kind = resultKindRows then .ok <$> parseResultRows proto
  else if kind = resultKindKeyspace then .ok <$> parseResultSetKeyspace head
  else if kind = resultKindPrepared then .ok <$> parseResultPrepared proto head
  else if kind = resultKindSchemaChanged then .ok <$> parseResultSchemaChange proto head
  else pure (.error (.unknownResultKind kind))

/-! ### Errors and events -/

/-- `readErrorMap`: an `[int]` count of addresses, each with a `[short]` reason. -/
def readErrorMap : Framer ErrorMap := do
  let numErrs ← readInt
  let entries ← Prog.replicate numErrs.toNat (do
    let ip ← readInetAdressOnly
    let reason ← readShort
    pure (ip, reason))
  pure (entries.foldl (fun m e => m.insert e.1 e.2) ∅)

/-- The failure counts of `ReadFailure` and `WriteFailure`: an error map from protocol 5 on,
a plain count before. -/
def readFailures (proto : UInt8) : Framer (Int × ErrorMap) := do
  if protoVersion4 < proto then
    let errorMap ← readErrorMap
    pure (errorMap.entries.length, errorMap)
  else
    let numFailures ← readInt
    pure (numFailures, ∅)

/-- `parseErrorFrame`. -/
def parseErrorFrame (proto : UInt8) (head : FrameHeader) : Framer Frame := do
  let code ← readInt
  let msg ← readString
  let frame := Frame.error head code msg
  if code = errCodeUnavailable then
    let cl ← readConsistency
    let required ← readInt
    let alive ← readInt
    pure (frame (.unavailable cl required alive))
  else if code = errCodeWriteTimeout then
    let cl ← readConsistency
    let received ← readInt
    let blockfor ← readInt
    let writeType ← readString
    pure (frame (.writeTimeout cl received blockfor writeType))
  else if code = errCodeReadTimeout then
    let cl ← readConsistency
    let received ← readInt
    let blockfor ← readInt
    let dataPresent ← readByte
    pure (frame (.readTimeout cl received blockfor dataPresent))
  else if code = errCodeAlreadyExists then
    let ks ← readString
    let table ← readString
    pure (frame (.alreadyExists ks table))
  else if code = errCodeUnprepared then
    pure (frame (.unprepared (← readShortBytes)))
  else if code = errCodeReadFailure then
    let cl ← readConsistency
    let received ← readInt
    let blockFor ← readInt
    let (numFailures, errorMap) ← readFailures proto
    let dataPresent ← readByte
    pure (frame (.readFailure cl received blockFor numFailures errorMap (dataPresent ≠ 0)))
  else if code = errCodeWriteFailure then
    let cl ← readConsistency
    let received ← readInt
    let blockFor ← readInt
    let (numFailures, errorMap) ← readFailures proto
    let writeType ← readString
    pure (frame (.writeFailure cl received blockFor numFailures errorMap writeType))
  else if code = errCodeFunctionFailure then
    let keyspace ← readString
    let function ← readString
    let argTypes ← readStringList
    pure (frame (.functionFailure keyspace function argTypes))
  else if code = errCodeCDCWriteFailure then pure (frame .cdcWriteFailure)
  else if code = errCodeCASWriteUnknown then
    let cl ← readConsistency
    let received ← readInt
    let blockFor ← readInt
    pure (frame (.casWriteUnknown cl received blockFor))
  else if code = errCodeInvalid ∨ code = errCodeBootstrapping ∨ code = errCodeConfig ∨
      code = errCodeCredentials ∨ code = errCodeOverloaded ∨ code = errCodeProtocol ∨
      code = errCodeServer ∨ code = errCodeSyntax ∨ code = errCodeTruncate ∨
      code = errCodeUnauthorized then
    pure (frame .plain)
  else Prog.throw (.unknownErrorCode code)

/-- `parseEventFrame`. -/
def parseEventFrame (proto : UInt8) (head : FrameHeader) : Framer Frame := do
  let eventType ← readString
  if eventType = strBytes "TOPOLOGY_CHANGE" then
    let change ← readString
    let (host, port) ← readInet
    pure (.topologyChange head change host port)
  else if eventType = strBytes "STATUS_CHANGE" then
    let change ← readString
    let (host, port) ← readInet
    pure (.statusChange head change host port)
  else if eventType = strBytes "SCHEMA_CHANGE" then parseResultSchemaChange proto head
  else Prog.throw (.unknownEventType eventType)

/-! ### `parseFrame` -/

/-- What `parseFrame` leaves: the frame, and the tracing id and custom payload it stored in the
framer. -/
structure ParsedFrame where
  frame : Frame
  traceID : Option (List UInt8)
  customPayload : Option (GoMap (List UInt8) (Option (List UInt8)))

/-- The `switch` of `parseFrame` on the opcode. -/
def parseFrameOp (proto : UInt8) (head : FrameHeader) : Framer (Except FrameError Frame) :=
  if head.op = opError then .ok <$> parseErrorFrame proto head
  else if head.op = opReady then pure (.ok (.ready head))
  else if head.op = opResult then parseResultFrame proto head
  else if head.op = opSupported then .ok <$> (Frame.supported head <$> readStringMultiMap)
  else if head.op = opAuthenticate then .ok <$> (Frame.authenticate head <$> readString)
  else if head.op = opAuthChallenge then .ok <$> (Frame.authChallenge head <$> readBytes)
  else if head.op = opAuthSuccess then .ok <$> (Frame.authSuccess head <$> readBytes)
  else if head.op = opEvent then .ok <$> parseEventFrame proto head
  else pure (.error (.unknownOp head.op))

/-- The body of `parseFrame`, before its `defer`. -/
def parseFrameBody (proto : UInt8) (head : FrameHeader) : Framer (Except FrameError ParsedFrame) := do
  if head.version &&& protoDirectionMask = 0 then pure (.error (.requestFrame head.version))
  else
    let traceID ← (if head.flags &&& flagTracing = flagTracing then some <$> readUUID
      else pure none : Framer (Option (List UInt8)))
    let head ← (if head.flags &&& flagWarning = flagWarning then do
        let warnings ← readStringList
        pure { head with warnings := warnings }
      else pure head : Framer FrameHeader)
    let customPayload ← (if head.flags &&& flagCustomPayload = flagCustomPayload then
        some <$> readBytesMap
      else pure none : Framer (Option (GoMap (List UInt8) (Option (List UInt8)))))
    let frame ← parseFrameOp proto head
    pure (frame.map fun frame => ⟨frame, traceID, customPayload⟩)

/-- `framer.parseFrame` on the body `buf`: its `defer` returns the value of a `panic` as the
error and panics again with a run-time error. -/
def parseFrame (proto : UInt8) (head : FrameHeader) (buf : List UInt8) :
    Outcome FrameError (Except FrameError ParsedFrame) :=
  match parseFrameBody proto head buf with
  | .ok (res, _) => .ok res
  | .panic e => .ok (.error e)
  | .crash r => .crash r

/-! ### No run-time error -/

theorem noCrash_readTypeInfo (proto : UInt8) : ∀ fuel, NoCrash (readTypeInfo proto fuel)
  | 0 => noCrash_throw _
  | fuel + 1 => by
    have ih := noCrash_readTypeInfo proto fuel
    rw [readTypeInfo]
    refine noCrash_readShort.bind fun id => ?_
    refine (NoCrash.ite (noCrash_readString.bind fun _ => noCrash_pure _) (noCrash_pure _)).bind
      fun simple => NoCrash.ite ?tuple (NoCrash.ite ?udt (NoCrash.ite ?collection (noCrash_pure _)))
    case tuple =>
      exact noCrash_readShort.bind fun n => (ih.replicate n).bind fun _ => noCrash_pure _
    case udt =>
      exact noCrash_readString.bind fun _ => noCrash_readString.bind fun _ =>
        noCrash_readShort.bind fun n =>
          ((noCrash_readString.bind fun _ => ih.bind fun _ => noCrash_pure _).replicate n).bind
            fun _ => noCrash_pure _
    case collection =>
      exact (NoCrash.ite (ih.map _) (noCrash_pure _)).bind fun _ =>
        ih.bind fun _ => noCrash_pure _

theorem noCrash_readCol (proto : UInt8) (globalSpec : Bool) (keyspace table : List UInt8)
    (actualColCount : Int) : NoCrash (readCol proto globalSpec keyspace table actualColCount) := by
  refine (NoCrash.ite (noCrash_readString.bind fun _ => noCrash_readString.bind fun _ =>
    noCrash_pure _) (noCrash_pure _)).bind fun _ => ?_
  exact noCrash_readString.bind fun _ => noCrash_get.bind fun buf =>
    (noCrash_readTypeInfo proto _).bind fun _ => noCrash_pure _

theorem noCrash_readCols (proto : UInt8) (globalSpec : Bool) (keyspace table : List UInt8) :
    ∀ n actualColCount, NoCrash (readCols proto globalSpec keyspace table n actualColCount)
  | 0, _ => noCrash_pure _
  | n + 1, actualColCount =>
      (noCrash_readCol proto globalSpec keyspace table actualColCount).bind fun _ =>
        (noCrash_readCols proto globalSpec keyspace table n _).bind fun _ => noCrash_pure _

theorem noCrash_parseResultMetadata (proto : UInt8) : NoCrash (parseResultMetadata proto) := by
  refine noCrash_readInt.bind fun flags => noCrash_readInt.bind fun colCount =>
    (noCrash_panicIf _ _).bind fun _ => (NoCrash.ite noCrash_readBytes (noCrash_pure _)).bind
      fun _ => NoCrash.ite (noCrash_pure _) ?_
  exact (NoCrash.ite (noCrash_readString.bind fun _ => noCrash_readString.bind fun _ =>
    noCrash_pure _) (noCrash_pure _)).bind fun _ =>
      (noCrash_readCols proto _ _ _ _ _).bind fun _ => noCrash_pure _

theorem noCrash_parseResultRows (proto : UInt8) : NoCrash (parseResultRows proto) :=
  (noCrash_parseResultMetadata proto).bind fun _ => noCrash_readInt.bind fun _ =>
    (noCrash_panicIf _ _).bind fun _ => noCrash_pure _

theorem noCrash_parseResultSchemaChange (proto : UInt8) (head : FrameHeader) :
    NoCrash (parseResultSchemaChange proto head) := by
  refine NoCrash.ite ?upTo2 ?from3
  case upTo2 =>
    exact noCrash_readString.bind fun _ => noCrash_readString.bind fun _ =>
      noCrash_readString.bind fun _ => NoCrash.ite (noCrash_pure _) (noCrash_pure _)
  case from3 =>
    refine noCrash_readString.bind fun _ => noCrash_readString.bind fun _ => ?_
    have two : NoCrash (do
        let a ← readString
        let b ← readString
        pure (a, b) : Framer (List UInt8 × List UInt8)) :=
      noCrash_readString.bind fun _ => noCrash_readString.bind fun _ => noCrash_pure _
    refine NoCrash.ite (noCrash_readString.bind fun _ => noCrash_pure _) ?_
    refine NoCrash.ite (noCrash_readString.bind fun _ => noCrash_readString.bind fun _ =>
      noCrash_pure _) ?_
    refine NoCrash.ite (noCrash_readString.bind fun _ => noCrash_readString.bind fun _ =>
      noCrash_pure _) ?_
    refine NoCrash.ite (noCrash_readString.bind fun _ => noCrash_readString.bind fun _ =>
      noCrash_readStringList.bind fun _ => noCrash_pure _) ?_
    exact NoCrash.ite (noCrash_readString.bind fun _ => noCrash_readString.bind fun _ =>
      noCrash_readStringList.bind fun _ => noCrash_pure _) (noCrash_throw _)

/-- Before protocol 4 there is no primary-key count to `make` a slice with. -/
theorem noCrash_parsePreparedMetadata {proto : UInt8} (h : proto < protoVersion4) :
    NoCrash (parsePreparedMetadata proto) := by
  have hpk : ¬ protoVersion4 ≤ proto := UInt8.not_le.mpr h
  refine noCrash_readInt.bind fun flags => noCrash_readInt.bind fun colCount =>
    (noCrash_panicIf _ _).bind fun _ => ?_
  rw [if_neg hpk, Prog.pure_bind]
  refine (NoCrash.ite noCrash_readBytes (noCrash_pure _)).bind fun _ =>
    NoCrash.ite (noCrash_pure _) ?_
  exact (NoCrash.ite (noCrash_readString.bind fun _ => noCrash_readString.bind fun _ =>
    noCrash_pure _) (noCrash_pure _)).bind fun _ =>
      (noCrash_readCols proto _ _ _ _ _).bind fun _ => noCrash_pure _

theorem noCrash_parseResultFrame {proto : UInt8} (head : FrameHeader) (h : proto < protoVersion4) :
    NoCrash (parseResultFrame proto head) := by
  refine noCrash_readInt.bind fun kind => NoCrash.ite (noCrash_pure _) ?_
  refine NoCrash.ite ((noCrash_parseResultRows proto).map _) ?_
  refine NoCrash.ite ((noCrash_readString.bind fun _ => noCrash_pure _).map _) ?_
  refine NoCrash.ite (NoCrash.map _ ?_) ?_
  · exact noCrash_readShortBytes.bind fun _ => (noCrash_parsePreparedMetadata h).bind fun _ =>
      NoCrash.ite (noCrash_pure _) ((noCrash_parseResultMetadata proto).bind fun _ => noCrash_pure _)
  exact NoCrash.ite ((noCrash_parseResultSchemaChange proto head).map _) (noCrash_pure _)

/-- Up to protocol 4 the failure count is a plain `[int]`. -/
theorem noCrash_readFailures {proto : UInt8} (h : proto ≤ protoVersion4) :
    NoCrash (readFailures proto) := by
  have hmap : ¬ protoVersion4 < proto := UInt8.not_lt.mpr h
  rw [readFailures, if_neg hmap]
  exact noCrash_readInt.bind fun _ => noCrash_pure _

theorem noCrash_parseErrorFrame {proto : UInt8} (head : FrameHeader) (h : proto ≤ protoVersion4) :
    NoCrash (parseErrorFrame proto head) := by
  refine noCrash_readInt.bind fun code => noCrash_readString.bind fun msg => ?_
  have three : ∀ {β : Type} (k : Nat → Int → Int → Framer β), (∀ a b c, NoCrash (k a b c)) →
      NoCrash (do let a ← readConsistency; let b ← readInt; let c ← readInt; k a b c) :=
    fun k hk => noCrash_readShort.bind fun a => noCrash_readInt.bind fun b =>
      noCrash_readInt.bind fun c => hk a b c
  refine NoCrash.ite (three _ fun _ _ _ => noCrash_pure _) ?_
  refine NoCrash.ite (three _ fun _ _ _ => noCrash_readString.bind fun _ => noCrash_pure _) ?_
  refine NoCrash.ite (three _ fun _ _ _ => noCrash_readByte.bind fun _ => noCrash_pure _) ?_
  refine NoCrash.ite (noCrash_readString.bind fun _ => noCrash_readString.bind fun _ =>
    noCrash_pure _) ?_
  refine NoCrash.ite (noCrash_readShortBytes.bind fun _ => noCrash_pure _) ?_
  refine NoCrash.ite (three _ fun _ _ _ => (noCrash_readFailures h).bind fun _ =>
    noCrash_readByte.bind fun _ => noCrash_pure _) ?_
  refine NoCrash.ite (three _ fun _ _ _ => (noCrash_readFailures h).bind fun _ =>
    noCrash_readString.bind fun _ => noCrash_pure _) ?_
  refine NoCrash.ite (noCrash_readString.bind fun _ => noCrash_readString.bind fun _ =>
    noCrash_readStringList.bind fun _ => noCrash_pure _) ?_
  refine NoCrash.ite (noCrash_pure _) ?_
  refine NoCrash.ite (three _ fun _ _ _ => noCrash_pure _) ?_
  exact NoCrash.ite (noCrash_pure _) (noCrash_throw _)

/-- The opcodes whose parsers reach neither `readInetAdressOnly` (events, and the error map of
protocol 5) nor the primary-key `make` of a prepared result (protocol 4 on). -/
def CheckedOp (proto op : UInt8) : Prop :=
  op ≠ opEvent ∧ (op = opResult → proto < protoVersion4) ∧ (op = opError → proto ≤ protoVersion4)

theorem noCrash_parseFrameOp {proto : UInt8} {head : FrameHeader} (h : CheckedOp proto head.op) :
    NoCrash (parseFrameOp proto head) := by
  obtain ⟨hevent, hresult, herror⟩ := h
  unfold parseFrameOp
  by_cases hop : head.op = opError
  · rw [if_pos hop]
    exact (noCrash_parseErrorFrame head (herror hop)).map _
  rw [if_neg hop]
  refine NoCrash.ite (noCrash_pure _) ?_
  by_cases hres : head.op = opResult
  · rw [if_pos hres]
    exact noCrash_parseResultFrame head (hresult hres)
  rw [if_neg hres]
  refine NoCrash.ite ((noCrash_readStringMultiMap.map _).map _) ?_
  refine NoCrash.ite ((noCrash_readString.map _).map _) ?_
  refine NoCrash.ite ((noCrash_readBytes.map _).map _) ?_
  refine NoCrash.ite ((noCrash_readBytes.map _).map _) ?_
  rw [if_neg hevent]
  exact noCrash_pure _

theorem noCrash_parseFrameBody {proto : UInt8} {head : FrameHeader}
    (h : CheckedOp proto head.op) : NoCrash (parseFrameBody proto head) := by
  unfold parseFrameBody
  refine NoCrash.ite (noCrash_pure _) ?_
  refine (NoCrash.ite (noCrash_readUUID.map _) (noCrash_pure _)).bind fun traceID => ?_
  -- the warnings rebind `head`; its opcode stays, which is what the dispatch needs
  have rest : ∀ head' : FrameHeader, head'.op = head.op → NoCrash (do
      let customPayload ← (if head'.flags &&& flagCustomPayload = flagCustomPayload then
          some <$> readBytesMap
        else pure none : Framer (Option (GoMap (List UInt8) (Option (List UInt8)))))
      let frame ← parseFrameOp proto head'
      pure (frame.map fun frame => (⟨frame, traceID, customPayload⟩ : ParsedFrame))) := by
    intro head' hop
    exact (NoCrash.ite (noCrash_readBytesMap.map _) (noCrash_pure _)).bind fun _ =>
      (noCrash_parseFrameOp (hop ▸ h)).bind fun _ => noCrash_pure _
  rw [Prog.ite_bind, Prog.bind_assoc, Prog.pure_bind]
  exact NoCrash.ite (noCrash_readStringList.bind fun w => by
    rw [Prog.pure_bind]; exact rest _ rfl) (rest head rfl)

/-- **`parseFrame` on a checked opcode.**  A frame that is not an event, not a result from
protocol 4 on, and not an error of protocol 5 is parsed or rejected with an error, whatever its
body: every read it makes checks the buffer first. -/
theorem parseFrame_noCrash {proto : UInt8} {head : FrameHeader} (h : CheckedOp proto head.op)
    (buf : List UInt8) (r : RuntimeError) : parseFrame proto head buf ≠ .crash r := by
  intro hcrash
  unfold parseFrame at hcrash
  split at hcrash
  · cases hcrash
  · cases hcrash
  · rename_i r' hbody
    exact noCrash_parseFrameBody h buf r' hbody

/-- **Where reading a frame fails at run time.**  `parseFrame` on a checked opcode never does,
whatever the body.  Two read primitives do not check what they slice: `readInetAdressOnly`,
which the events reach, fails on an address shorter than its size byte says, and
`readLongString` on a negative length. -/
theorem parseFrame_runtime_errors :
    (∀ (proto : UInt8) (head : FrameHeader), CheckedOp proto head.op →
      ∀ buf r, parseFrame proto head buf ≠ .crash r) ∧
    (∀ (size : UInt8) (rest : List UInt8), (size = 4 ∨ size = 16) → rest ≠ [] → rest.length < size.toNat →
      readInetAdressOnly (size :: rest) = .crash (.sliceBoundsOutOfRange 0 size.toNat rest.length)) ∧
    ∀ (b₀ b₁ b₂ b₃ : UInt8) (rest : List UInt8), BigEndian.sval [b₀, b₁, b₂, b₃] < 0 →
      readLongString (b₀ :: b₁ :: b₂ :: b₃ :: rest) =
        .crash (.sliceBoundsOutOfRange 0 (BigEndian.sval [b₀, b₁, b₂, b₃]) rest.length) :=
  ⟨fun _ _ h => parseFrame_noCrash h, fun _ _ hsize hne hshort => readInetAdressOnly_short hsize hne hshort,
    fun _ _ _ _ rest h => readLongString_of_neg rest h⟩

/-- A `RESULT` frame of protocol 3 never crashes the parser, whatever its body. -/
theorem parseFrame_result_v3 :
    CheckedOp protoVersion3 (⟨protoVersion3, 0, 1, opResult, 0, []⟩ : FrameHeader).op ∧
      ∀ buf r, parseFrame protoVersion3 ⟨protoVersion3, 0, 1, opResult, 0, []⟩ buf ≠ .crash r :=
  have h : CheckedOp protoVersion3 (⟨protoVersion3, 0, 1, opResult, 0, []⟩ : FrameHeader).op :=
    ⟨by decide, by decide, by decide⟩
  ⟨h, parseFrame_runtime_errors.1 _ _ h⟩

/-! ### A short address -/

/-- The body of a `STATUS_CHANGE` event whose address has its size byte, 4, and one byte. -/
def shortInetEvent : List UInt8 :=
  [0, 13] ++ strBytes "STATUS_CHANGE" ++ [0, 2] ++ strBytes "UP" ++ [4, 127]

/-- The header of a protocol 4 event frame with that body is accepted by `readHeader`, and
`parseFrame` fails on the body at run time: `readInetAdressOnly` checks for one byte and
slices four. -/
theorem parseFrame_shortInet_crash :
    (readHeader ⟨[0x84, 0, 0xFF, 0xFF, opEvent, 0, 0, 0, 21] ++ shortInetEvent,
        [⟨1, none⟩, ⟨8, none⟩]⟩).1 = .ok ⟨0x84, 0, -1, opEvent, 21, []⟩ ∧
    parseFrame protoVersion4 ⟨0x84, 0, -1, opEvent, 21, []⟩ shortInetEvent =
      .crash (.sliceBoundsOutOfRange 0 4 1) := by
  constructor
  · decide
  · rfl

end Gocql
