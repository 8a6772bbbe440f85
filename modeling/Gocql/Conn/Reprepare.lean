import Gocql.Frame.Write
import Gocql.Cache.Lru
import Gocql.Support.Fuel
import Gocql.Session.RoutingKey

/-!
# Conn — preparing, executing, and executing again after `UNPREPARED`

`Conn.prepareStatement` (`conn.go`) looks the statement up in the session's `stmtsLRU`
(`prepared_cache.go`), keyed by host, keyspace and statement; on a miss it adds an
`inflightPrepare`, sends a PREPARE frame, and removes the entry again if the answer is not a
prepared result.  `Conn.executeQuery` prepares a statement that should be, binds its values,
sends an EXECUTE (or a QUERY) frame, and switches on the answer; `Conn.executeBatch` prepares
every entry with arguments and sends one BATCH frame.  On `RequestErrUnprepared` both call
`evictPreparedID`, which removes the cached entry only if it is done and holds the id the server
named, and then call themselves again, with no counter.

The calls are taken one after another, so every cached entry is done.  The server is any
function from the number of frames the connection has sent and the frame to its answer: an error
of `c.exec` or `parseFrame`, or the parsed frame.  A call of `executeQuery` or `executeBatch` is
`Fuel.loop` of one round of its body, the recursive call being the round that asks for another.

* `prepareStatement_caches`, `evictPreparedID_caches`: the prepared cache stays in the
  invariant of `lru.Cache` and holds only what the server answered with a prepared result.
* `executeQuery_returns`, `executeBatch_returns`: the re-executions are bounded by the
  `UNPREPARED` answers: from the frame on which the server stops giving them, one round more
  than the frames left returns.
* `reexecute_unbounded`: against a server that prepares every statement and answers every
  EXECUTE, or every BATCH, with `UNPREPARED`, neither returns, with any fuel.
-/

namespace Gocql

open Go

/-- `preparedStatment`. -/
structure PreparedStatment where
  id : List UInt8
  request : PreparedMetadata
  response : ResultMetadata

/-- The errors `prepareStatement` returns. -/
inductive PrepareError (ε : Type) where
  /-- the error of `c.exec` or of `framer.parseFrame` -/
  | exec (e : ε)
  /-- an error frame of the server -/
  | frame (f : Frame)
  /-- `Unknown type in response to prepare frame: %s` -/
  | unknown (f : Frame)

/-- A done `inflightPrepare`: its `err`, or its `preparedStatment`. -/
abbrev InflightPrepare (ε : Type) := Except (PrepareError ε) PreparedStatment

/-- `preparedLRU`. -/
abbrev PreparedLRU (ε : Type) := LruCache (List UInt8) (InflightPrepare ε)

/-- The errors of `executeQuery` and `executeBatch`, in the `Iter` they return. -/
inductive ExecError (ε εm : Type) where
  /-- the error of `c.exec` or of `framer.parseFrame` -/
  | exec (e : ε)
  /-- the error of `prepareStatement` -/
  | prepare (e : PrepareError ε)
  /-- an error frame of the server -/
  | frame (f : Frame)
  /-- the values' count or marshalling, and `ErrUnsupported` -/
  | failure (e : ExecFailure εm)
  /-- `gocql: did not receive metadata but prepared info is nil` -/
  | noMetadata
  /-- `Unknown type in response to execute query (%T): %s` -/
  | unknownQuery (f : Frame)
  /-- `Unknown type in response to batch statement: %s` -/
  | unknownBatch (f : Frame)

/-- What a connection reads of itself and of its session: `c.host.HostID()`,
`c.currentKeyspace`, `c.version` and `cfg.DisableSkipMetadata`. -/
structure ConnInfo where
  hostID : List UInt8
  currentKeyspace : List UInt8
  version : UInt8
  disableSkipMetadata : Bool

/-- The session's prepared cache, and the number of frames the connection has sent. -/
structure PrepareState (ε : Type) where
  stmtsLRU : PreparedLRU ε
  sent : Nat

/-- The fields of a `Query` that `executeQuery` reads.  `prepare` is
`!qry.skipPrepare && qry.shouldPrepare()`. -/
structure Query (κ ν : Type) where
  stmt : List UInt8
  values : List (QueryArg κ ν)
  cons : UInt16
  serialCons : UInt16
  defaultTimestamp : Bool
  defaultTimestampValue : Int64
  pageState : List UInt8
  pageSize : Int
  customPayload : GoMap (List UInt8) GoBytes
  prepare : Bool
  disableSkipMetadata : Bool

/-- The fields of a `Batch` that `executeBatch` reads: each entry's statement and arguments. -/
structure Batch (κ ν : Type) where
  typ : UInt8
  entries : List (List UInt8 × List (QueryArg κ ν))
  cons : UInt16
  serialCons : UInt16
  defaultTimestamp : Bool
  defaultTimestampValue : Int64
  customPayload : GoMap (List UInt8) GoBytes

/-- Where the switch on an answer leads: the `Iter` returned, or `RequestErrUnprepared` with
the statement id it names. -/
inductive Switch (α : Type) where
  | returns (r : α)
  | unprepared (statementId : List UInt8)

/-- `keyFor(hostID, keyspace, statement)`. -/
def keyFor (hostID keyspace statement : List UInt8) : List UInt8 := hostID ++ keyspace ++ statement

/-- `evictPreparedID(key, id)`: the entry of `key`, moved to the front by `Get`, removed if it
holds the id.  The cache holds no failed entry (`prepareStatement_caches` at `Except.isOk`), so
the branch of one, where the source would read the id of a nil statement, is never taken. -/
def evictPreparedID {ε : Type} (lru : PreparedLRU ε) (key id : List UInt8) : PreparedLRU ε :=
  match lru.get key with
  | (some (.ok preparedStatment), lru) => if id = preparedStatment.id then (lru.remove key).2.1 else lru
  | (some (.error _), lru) => lru
  | (none, lru) => lru

/-- What the goroutine of `prepareStatement` makes of the answer to its PREPARE frame. -/
def prepareFlight {ε : Type} : Except ε Frame → InflightPrepare ε
  | .error e => .error (.exec e)
  | .ok f =>
    match f with
    | .resultPrepared _ preparedID reqMeta respMeta => .ok ⟨preparedID, reqMeta, respMeta⟩
    | .error .. => .error (.frame f)
    | _ => .error (.unknown f)

/-- Whether an answer is `RequestErrUnprepared`. -/
def isUnprepared {ε : Type} : Except ε Frame → Bool
  | .ok (.error _ _ _ (.unprepared _)) => true
  | _ => false

theorem isUnprepared_eq_true {ε : Type} {r : Except ε Frame} (h : isUnprepared r = true) :
    ∃ head code message statementId, r = .ok (.error head code message (.unprepared statementId)) := by
  unfold isUnprepared at h
  split at h
  · case h_1 head code message statementId => exact ⟨head, code, message, statementId, rfl⟩
  · cases h

/-- The `queryParams` of `executeQuery` before the values. -/
def Query.params {κ ν : Type} (c : ConnInfo) (qry : Query κ ν) : QueryParams where
  consistency := qry.cons
  skipMeta := false
  values := []
  pageSize := if 0 < qry.pageSize then qry.pageSize else 0
  pagingState := if 0 < qry.pageState.length then qry.pageState else []
  serialConsistency := qry.serialCons
  defaultTimestamp := qry.defaultTimestamp
  defaultTimestampValue := qry.defaultTimestampValue
  keyspace := if protoVersion4 < c.version then c.currentKeyspace else []

/-- The switch on an answer: `RequestErrUnprepared` asks for another round, and `result` says
what any other answer returns.  The source tests the frame types in another order; they are
disjoint, and its `case error` comes after `*RequestErrUnprepared`. -/
def Switch.ofFrame {α : Type} (result : Frame → α) (f : Frame) : Switch α :=
  match f with
  | .error _ _ _ (.unprepared statementId) => .unprepared statementId
  | _ => .returns (result f)

theorem Switch.ofFrame_eq_unprepared {α : Type} {result : Frame → α} {f : Frame} {statementId : List UInt8}
    (h : Switch.ofFrame result f = .unprepared statementId) :
    ∃ head code message, f = .error head code message (.unprepared statementId) := by
  unfold Switch.ofFrame at h
  split at h
  · case h_1 head code message statementId' =>
    cases h
    exact ⟨head, code, message, rfl⟩
  · cases h

/-- What `executeQuery` returns of an answer other than `RequestErrUnprepared`. -/
def executeQueryResult {ε εm : Type} (skipMeta : Bool) (info : Option PreparedStatment) (f : Frame) :
    Except (ExecError ε εm) Frame :=
  match f with
  | .resultVoid _ | .resultKeyspace _ _ => .ok f
  | .resultRows _ _ _ =>
    if skipMeta then
      match info with
      | some _ => .ok f
      | none => .error .noMetadata
    else .ok f
  | .schemaChangeKeyspace .. | .schemaChangeTable .. | .schemaChangeFunction ..
  | .schemaChangeAggregate .. | .schemaChangeType .. => .ok f
  | .error .. => .error (.frame f)
  | _ => .error (.unknownQuery f)

/-- What `executeBatch` returns of an answer other than `RequestErrUnprepared`. -/
def executeBatchResult {ε εm : Type} (f : Frame) : Except (ExecError ε εm) Frame :=
  match f with
  | .resultVoid _ | .resultRows _ _ _ => .ok f
  | .error .. => .error (.frame f)
  | _ => .error (.unknownBatch f)

namespace Conn

variable {κ ν εm εu : Type} [DecidableEq κ] [DecidableEq ν] (L : LeafCodec κ ν εm εu) (c : ConnInfo)
  {ε : Type} (server : Nat → Request → Except ε Frame)

/-- `c.exec(ctx, req, tracer)` and `framer.parseFrame()`: the server's answer to the next frame. -/
def exec (s : PrepareState ε) (req : Request) : Except ε Frame × PrepareState ε :=
  (server s.sent req, { s with sent := s.sent + 1 })

/-- `Conn.prepareStatement(ctx, stmt, tracer)`: `execIfMissing`, and on a miss the PREPARE
frame, its entry added, and removed again unless the answer is a prepared result. -/
def prepareStatement (s : PrepareState ε) (stmt : List UInt8) : InflightPrepare ε × PrepareState ε :=
  let stmtCacheKey := keyFor c.hostID c.currentKeyspace stmt
  match s.stmtsLRU.get stmtCacheKey with
  | (some flight, lru) => (flight, { s with stmtsLRU := lru })
  | (none, lru) =>
    let keyspace := if protoVersion4 < c.version then c.currentKeyspace else []
    let (resp, s) := exec server { s with stmtsLRU := lru } (.prepare stmt keyspace ∅)
    let flight := prepareFlight resp
    let lru := (s.stmtsLRU.add stmtCacheKey flight).1
    match flight with
    | .ok _ => (flight, { s with stmtsLRU := lru })
    | .error _ => (flight, { s with stmtsLRU := (lru.remove stmtCacheKey).2.1 })

/-- `executeQuery` up to the frame it sends: the statement prepared where it should be, and
the parameters with its values bound. -/
def queryFrame (s : PrepareState ε) (qry : Query κ ν) :
    Except (ExecError ε εm) (Option PreparedStatment × QueryParams) × PrepareState ε :=
  let params := qry.params c
  if qry.prepare then
    match prepareStatement c server s qry.stmt with
    | (.error e, s) => (.error (.prepare e), s)
    | (.ok info, s) =>
      match executeQueryValues L info.request qry.values with
      | .error e => (.error (.failure e), s)
      | .ok values =>
        (.ok (some info, { params with
          values := values, skipMeta := !(c.disableSkipMetadata || qry.disableSkipMetadata) }), s)
  else (.ok (none, params), s)

/-- One round of `Conn.executeQuery(ctx, qry)`: the frame, the answer, and its switch, where
`RequestErrUnprepared` evicts the statement's entry and asks for another round. -/
def executeQueryRound (qry : Query κ ν) (s : PrepareState ε) :
    Fuel.Round (PrepareState ε) (Except (ExecError ε εm) Frame) :=
  match queryFrame L c server s qry with
  | (.error e, s) => .done (.error e) s
  | (.ok (info, params), s) =>
    let frame : Request := match info with
      | some info => .execute info.id params qry.customPayload
      | none => .query qry.stmt params qry.customPayload
    match exec server s frame with
    | (.error e, s) => .done (.error (.exec e)) s
    | (.ok resp, s) =>
      match Switch.ofFrame (executeQueryResult params.skipMeta info) resp with
      | .returns r => .done r s
      | .unprepared statementId =>
        let stmtCacheKey := keyFor c.hostID c.currentKeyspace qry.stmt
        .again { s with stmtsLRU := evictPreparedID s.stmtsLRU stmtCacheKey statementId }

/-- `Conn.executeQuery(ctx, qry)`, with at most `fuel` calls. -/
def executeQuery (fuel : Nat) (s : PrepareState ε) (qry : Query κ ν) :
    Option (Except (ExecError ε εm) Frame × PrepareState ε) :=
  Fuel.loop (executeQueryRound L c server qry) fuel s

/-- The loop of `executeBatch` over the entries from `i`: an entry with arguments prepared and
its values bound, one without sent as text; `stmts` maps each prepared id to its statement. -/
def batchStatements :
    PrepareState ε → List (List UInt8 × List (QueryArg κ ν)) → Nat → GoMap (List UInt8) (List UInt8) →
      Except (ExecError ε εm) (List BatchStatement × GoMap (List UInt8) (List UInt8)) × PrepareState ε
  | s, [], _, stmts => (.ok ([], stmts), s)
  | s, (stmt, args) :: entries, i, stmts =>
    if args ≠ [] then
      match prepareStatement c server s stmt with
      | (.error e, s) => (.error (.prepare e), s)
      | (.ok info, s) =>
        match executeBatchValues L i info.request args with
        | .error e => (.error (.failure e), s)
        | .ok values =>
          let (r, s) := batchStatements s entries (i + 1) (stmts.insert info.id stmt)
          (r.map fun (bs, m) => (⟨info.id, [], values⟩ :: bs, m), s)
    else
      let (r, s) := batchStatements s entries (i + 1) stmts
      (r.map fun (bs, m) => (⟨[], stmt, []⟩ :: bs, m), s)

/-- One round of `Conn.executeBatch(ctx, batch)`; on `RequestErrUnprepared` the entry of the
statement the id maps to is evicted, if the id is one of the batch's. -/
def executeBatchRound (batch : Batch κ ν) (s : PrepareState ε) :
    Fuel.Round (PrepareState ε) (Except (ExecError ε εm) Frame) :=
  if c.version = protoVersion1 then .done (.error (.failure .unsupported)) s
  else
    match batchStatements L c server s batch.entries 0 ∅ with
    | (.error e, s) => .done (.error e) s
    | (.ok (statements, stmts), s) =>
      let req : WriteBatchFrame := ⟨batch.typ, statements, batch.cons, batch.serialCons,
        batch.defaultTimestamp, batch.defaultTimestampValue, batch.customPayload⟩
      match exec server s (.batch req) with
      | (.error e, s) => .done (.error (.exec e)) s
      | (.ok resp, s) =>
        match Switch.ofFrame executeBatchResult resp with
        | .returns r => .done r s
        | .unprepared statementId =>
          let stmtsLRU := match stmts.lookup statementId with
            | some stmt => evictPreparedID s.stmtsLRU (keyFor c.hostID c.currentKeyspace stmt) statementId
            | none => s.stmtsLRU
          .again { s with stmtsLRU := stmtsLRU }

/-- `Conn.executeBatch(ctx, batch)`, with at most `fuel` calls. -/
def executeBatch (fuel : Nat) (s : PrepareState ε) (batch : Batch κ ν) :
    Option (Except (ExecError ε εm) Frame × PrepareState ε) :=
  Fuel.loop (executeBatchRound L c server batch) fuel s

/-! ### The prepared cache -/

/-- The prepared cache is in the invariant of `lru.Cache` and holds only entries satisfying `P`. -/
def Caches (P : InflightPrepare ε → Prop) (lru : PreparedLRU ε) : Prop := lru.Inv ∧ lru.Holds P

section Caches

variable {P : InflightPrepare ε → Prop} {lru : PreparedLRU ε}

omit [DecidableEq κ] [DecidableEq ν] in
theorem Caches.get (h : Caches P lru) (key : List UInt8) : Caches P (lru.get key).2 :=
  ⟨h.1.get key, h.2.get h.1 key⟩

omit [DecidableEq κ] [DecidableEq ν] in
theorem Caches.got (h : Caches P lru) {key : List UInt8} {flight : InflightPrepare ε}
    (hg : (lru.get key).1 = some flight) : P flight :=
  h.2.got h.1 hg

omit [DecidableEq κ] [DecidableEq ν] in
theorem Caches.remove (h : Caches P lru) (key : List UInt8) : Caches P (lru.remove key).2.1 :=
  ⟨h.1.remove key, h.2.remove h.1 key⟩

omit [DecidableEq κ] [DecidableEq ν] in
theorem Caches.add (h : Caches P lru) (key : List UInt8) {flight : InflightPrepare ε} (hf : P flight) :
    Caches P (lru.add key flight).1 :=
  ⟨h.1.add key flight, h.2.add h.1 key hf⟩

omit [DecidableEq κ] [DecidableEq ν] in
theorem Caches.add_remove (h : Caches P lru) (key : List UInt8) (flight : InflightPrepare ε) :
    Caches P ((lru.add key flight).1.remove key).2.1 :=
  ⟨(h.1.add key flight).remove key, h.2.add_remove h.1 key flight⟩

end Caches

omit [DecidableEq κ] [DecidableEq ν] in
/-- `evictPreparedID` keeps the cache's invariant and its entries' property: it only moves and
removes. -/
theorem evictPreparedID_caches {P : InflightPrepare ε → Prop} {lru : PreparedLRU ε} (h : Caches P lru)
    (key id : List UInt8) : Caches P (evictPreparedID lru key id) := by
  have hg := h.get key
  unfold evictPreparedID
  rcases hget : lru.get key with ⟨o, lru'⟩
  rw [hget] at hg
  -- a done entry holding the id is removed; anything else stays where `Get` moved it
  rcases o with _ | (_ | preparedStatment)
  · exact hg
  · exact hg
  · dsimp only
    split
    · exact hg.remove key
    · exact hg

omit [DecidableEq κ] [DecidableEq ν] in
/-- **What `prepareStatement` caches**: an entry that the server's answer to a PREPARE frame
made, and only when it is a prepared result; so a property of those answers holds of every
entry, from one call to the next. -/
theorem prepareStatement_caches {P : InflightPrepare ε → Prop}
    (hP : ∀ n stmt keyspace, (prepareFlight (server n (.prepare stmt keyspace ∅))).isOk = true →
      P (prepareFlight (server n (.prepare stmt keyspace ∅))))
    {s : PrepareState ε} (hs : Caches P s.stmtsLRU) (stmt : List UInt8) :
    Caches P (prepareStatement c server s stmt).2.stmtsLRU := by
  have hg := hs.get (keyFor c.hostID c.currentKeyspace stmt)
  unfold prepareStatement
  dsimp only
  rcases hget : s.stmtsLRU.get (keyFor c.hostID c.currentKeyspace stmt) with ⟨o, lru⟩
  rw [hget] at hg
  dsimp only at hg
  cases o with
  | some flight => exact hg
  | none =>
    dsimp only [exec]
    -- a prepared result stays, anything else is removed again
    cases hf : prepareFlight (server s.sent (.prepare stmt (if protoVersion4 < c.version then c.currentKeyspace else []) ∅)) with
    | ok ps => exact hg.add _ (hf ▸ hP _ _ _ (by rw [hf]; rfl))
    | error e => exact hg.add_remove _ _

omit [DecidableEq κ] [DecidableEq ν] in
/-- What `prepareStatement` returns: a cached entry, or the server's answer to its PREPARE frame. -/
theorem prepareStatement_flight {P : InflightPrepare ε → Prop} {s : PrepareState ε} (hs : Caches P s.stmtsLRU)
    (stmt : List UInt8) :
    P (prepareStatement c server s stmt).1 ∨
      ∃ keyspace, (prepareStatement c server s stmt).1 = prepareFlight (server s.sent (.prepare stmt keyspace ∅)) := by
  unfold prepareStatement
  dsimp only
  rcases hget : s.stmtsLRU.get (keyFor c.hostID c.currentKeyspace stmt) with ⟨o, lru⟩
  cases o with
  | some flight =>
    left
    exact hs.got (by rw [hget])
  | none =>
    right
    dsimp only [exec]
    refine ⟨if protoVersion4 < c.version then c.currentKeyspace else [], ?_⟩
    split <;> rfl

omit [DecidableEq κ] [DecidableEq ν] in
/-- `prepareStatement` sends at most its PREPARE frame. -/
theorem prepareStatement_sent (s : PrepareState ε) (stmt : List UInt8) :
    s.sent ≤ (prepareStatement c server s stmt).2.sent := by
  unfold prepareStatement
  dsimp only
  rcases s.stmtsLRU.get (keyFor c.hostID c.currentKeyspace stmt) with ⟨_ | flight, lru⟩
  · dsimp only [exec]
    split <;> exact Nat.le_succ _
  · exact Nat.le_refl _

/-! ### One round -/

/-- The state after the values of `executeQuery` are bound is the one `prepareStatement` left. -/
theorem queryFrame_state (s : PrepareState ε) (qry : Query κ ν) :
    (queryFrame L c server s qry).2 = if qry.prepare then (prepareStatement c server s qry.stmt).2 else s := by
  unfold queryFrame
  split
  · rcases prepareStatement c server s qry.stmt with ⟨_ | info, s'⟩
    · rfl
    · dsimp only
      split <;> rfl
  · rfl

/-- A round of `executeQuery` that asks for another got `RequestErrUnprepared` to a frame it
sent, the last it sent. -/
theorem executeQueryRound_again {qry : Query κ ν} {s s' : PrepareState ε}
    (h : executeQueryRound L c server qry s = .again s') :
    ∃ m req, s.sent ≤ m ∧ s'.sent = m + 1 ∧ isUnprepared (server m req) = true := by
  have hsent : s.sent ≤ (queryFrame L c server s qry).2.sent := by
    rw [queryFrame_state]
    split
    · exact prepareStatement_sent c server s qry.stmt
    · exact Nat.le_refl _
  unfold executeQueryRound at h
  rcases hq : queryFrame L c server s qry with ⟨_ | ⟨info, params⟩, s₁⟩
  · rw [hq] at h; cases h
  · rw [hq] at hsent h
    dsimp only [exec] at h
    split at h
    · cases h
    · case h_2 resp s₂ hresp =>
      obtain ⟨hsrv, rfl⟩ := Prod.mk.inj hresp
      split at h
      · cases h
      · case h_2 statementId hsw =>
        cases h
        obtain ⟨head, code, message, rfl⟩ := Switch.ofFrame_eq_unprepared hsw
        exact ⟨s₁.sent, _, hsent, rfl, by rw [hsrv]; rfl⟩

/-- The loop of `executeBatch` sends the PREPARE frames of its entries and no other. -/
theorem batchStatements_sent :
    ∀ (s : PrepareState ε) (entries : List (List UInt8 × List (QueryArg κ ν))) (i : Nat)
      (stmts : GoMap (List UInt8) (List UInt8)), s.sent ≤ (batchStatements L c server s entries i stmts).2.sent
  | s, [], _, _ => Nat.le_refl _
  | s, (stmt, args) :: entries, i, stmts => by
    unfold batchStatements
    split
    · have hp := prepareStatement_sent c server s stmt
      rcases hprep : prepareStatement c server s stmt with ⟨_ | info, s₁⟩
      · rw [hprep] at hp; exact hp
      · rw [hprep] at hp
        dsimp only
        split
        · exact hp
        · exact Nat.le_trans hp (batchStatements_sent s₁ entries (i + 1) _)
    · exact batchStatements_sent s entries (i + 1) stmts

theorem executeBatchRound_again {batch : Batch κ ν} {s s' : PrepareState ε}
    (h : executeBatchRound L c server batch s = .again s') :
    ∃ m req, s.sent ≤ m ∧ s'.sent = m + 1 ∧ isUnprepared (server m req) = true := by
  have hsent := batchStatements_sent L c server s batch.entries 0 ∅
  unfold executeBatchRound at h
  split at h
  · cases h
  · rcases hb : batchStatements L c server s batch.entries 0 ∅ with ⟨_ | ⟨statements, stmts⟩, s₁⟩
    · rw [hb] at h; cases h
    · rw [hb] at hsent h
      dsimp only [exec] at h
      split at h
      · cases h
      · case h_2 resp s₂ hresp =>
        obtain ⟨hsrv, rfl⟩ := Prod.mk.inj hresp
        split at h
        · cases h
        · case h_2 statementId hsw =>
          cases h
          obtain ⟨head, code, message, rfl⟩ := Switch.ofFrame_eq_unprepared hsw
          exact ⟨s₁.sent, _, hsent, rfl, by rw [hsrv]; rfl⟩

/-! ### How many rounds -/

/-- **The re-executions are bounded by the server's `UNPREPARED` answers**: when no frame from the
`N`-th on is answered with `RequestErrUnprepared`, `executeQuery` returns with one call more
than the frames left before it. -/
theorem executeQuery_returns (N : Nat) (hN : ∀ n req, N ≤ n → isUnprepared (server n req) = false)
    (qry : Query κ ν) {fuel : Nat} {s : PrepareState ε} (hfuel : N - s.sent < fuel) :
    (executeQuery L c server fuel s qry).isSome := by
  refine Fuel.loop_isSome (fun s => N - s.sent) (fun s s' h => ?_) fuel s hfuel
  obtain ⟨m, req, hle, hs', hu⟩ := executeQueryRound_again L c server h
  -- the frame answered with `UNPREPARED` comes before the `N`-th
  have hm : m < N := by
    by_contra hm
    rw [hN m req (by omega)] at hu
    cases hu
  show N - s'.sent < N - s.sent
  omega

theorem executeBatch_returns (N : Nat) (hN : ∀ n req, N ≤ n → isUnprepared (server n req) = false)
    (batch : Batch κ ν) {fuel : Nat} {s : PrepareState ε} (hfuel : N - s.sent < fuel) :
    (executeBatch L c server fuel s batch).isSome := by
  refine Fuel.loop_isSome (fun s => N - s.sent) (fun s s' h => ?_) fuel s hfuel
  obtain ⟨m, req, hle, hs', hu⟩ := executeBatchRound_again L c server h
  have hm : m < N := by
    by_contra hm
    rw [hN m req (by omega)] at hu
    cases hu
  show N - s'.sent < N - s.sent
  omega

/-- **Both re-executions return**: when the server's `UNPREPARED` answers stop at the `N`-th
frame, `executeQuery` and `executeBatch` return with one round more than the frames left
before it. -/
theorem reexecute_returns (N : Nat) (hN : ∀ n req, N ≤ n → isUnprepared (server n req) = false)
    (qry : Query κ ν) (batch : Batch κ ν) {fuel : Nat} {s : PrepareState ε}
    (hfuel : N - s.sent < fuel) :
    (executeQuery L c server fuel s qry).isSome ∧ (executeBatch L c server fuel s batch).isSome :=
  ⟨executeQuery_returns L c server N hN qry hfuel, executeBatch_returns L c server N hN batch hfuel⟩

/-! ### A server that never stops answering `UNPREPARED` -/

section Unbounded

variable (ps : PreparedStatment)
  (hprepare : ∀ n stmt keyspace, prepareFlight (server n (.prepare stmt keyspace ∅)) = .ok ps)

include hprepare

omit [DecidableEq κ] [DecidableEq ν] in
/-- Against a server that prepares every statement as `ps`, a cache of `ps` alone stays so, and
`prepareStatement` returns `ps`. -/
theorem prepareStatement_of_server {s : PrepareState ε} (hs : Caches (· = .ok ps) s.stmtsLRU) (stmt : List UInt8) :
    (prepareStatement c server s stmt).1 = .ok ps ∧ Caches (· = .ok ps) (prepareStatement c server s stmt).2.stmtsLRU := by
  refine ⟨?_, prepareStatement_caches c server (fun n stmt keyspace _ => hprepare n stmt keyspace) hs stmt⟩
  rcases prepareStatement_flight c server hs stmt with h | ⟨keyspace, h⟩
  · exact h
  · rw [h, hprepare]

/-- A statement to prepare whose values bind to `ps` gets to its EXECUTE frame, with the cache
of `ps` alone. -/
theorem queryFrame_of_server {qry : Query κ ν} (hqry : qry.prepare = true) {values : List QueryValues}
    (hvalues : executeQueryValues L ps.request qry.values = .ok values) {s : PrepareState ε}
    (hs : Caches (· = .ok ps) s.stmtsLRU) :
    ∃ params s₁, queryFrame L c server s qry = (.ok (some ps, params), s₁) ∧ Caches (· = .ok ps) s₁.stmtsLRU := by
  obtain ⟨hflight, hcache⟩ := prepareStatement_of_server c server ps hprepare hs qry.stmt
  unfold queryFrame
  rw [if_pos hqry]
  rcases hp : prepareStatement c server s qry.stmt with ⟨r, s₁⟩
  rw [hp] at hflight hcache
  dsimp only at hflight hcache
  subst hflight
  dsimp only
  rw [hvalues]
  exact ⟨_, s₁, rfl, hcache⟩

/-- Every round of `executeQuery` then asks for another, with the cache of `ps` alone. -/
theorem executeQueryRound_of_server
    (hexecute : ∀ n id params customPayload, isUnprepared (server n (.execute id params customPayload)) = true)
    {qry : Query κ ν} (hqry : qry.prepare = true) {values : List QueryValues}
    (hvalues : executeQueryValues L ps.request qry.values = .ok values) {s : PrepareState ε}
    (hs : Caches (· = .ok ps) s.stmtsLRU) :
    ∃ s', executeQueryRound L c server qry s = .again s' ∧ Caches (· = .ok ps) s'.stmtsLRU := by
  obtain ⟨params, s₁, hq, hc⟩ := queryFrame_of_server L c server ps hprepare hqry hvalues hs
  obtain ⟨head, code, message, statementId, hsrv⟩ :=
    isUnprepared_eq_true (hexecute s₁.sent ps.id params qry.customPayload)
  unfold executeQueryRound
  rw [hq]
  dsimp only [exec]
  rw [hsrv]
  exact ⟨_, rfl, evictPreparedID_caches hc _ _⟩

end Unbounded

/-- The loop of `executeBatch` over entries with no arguments sends nothing and fails nowhere. -/
theorem batchStatements_text :
    ∀ (s : PrepareState ε) (entries : List (List UInt8 × List (QueryArg κ ν))) (i : Nat)
      (stmts : GoMap (List UInt8) (List UInt8)), (∀ e ∈ entries, e.2 = []) →
      batchStatements L c server s entries i stmts = (.ok (entries.map fun e => ⟨[], e.1, []⟩, stmts), s)
  | _, [], _, _, _ => rfl
  | s, (stmt, args) :: entries, i, stmts, h => by
    have hargs : args = [] := h _ List.mem_cons_self
    subst hargs
    unfold batchStatements
    rw [if_neg (fun h => h rfl), batchStatements_text s entries (i + 1) stmts
      (fun e he => h e (List.mem_cons_of_mem _ he))]
    rfl

/-- **Neither `executeQuery` nor `executeBatch` is bounded.**  Against a server that answers every
PREPARE frame with the prepared result `ps` and every EXECUTE and BATCH frame with
`RequestErrUnprepared`: a statement to prepare whose values bind to `ps` is executed again and
again from any cache holding `ps` alone (an empty one among them), and so is any batch of
entries without arguments on a protocol after 1; no amount of fuel makes either return. -/
theorem reexecute_unbounded (ps : PreparedStatment)
    (hprepare : ∀ n stmt keyspace, prepareFlight (server n (.prepare stmt keyspace ∅)) = .ok ps)
    (hexecute : ∀ n id params customPayload, isUnprepared (server n (.execute id params customPayload)) = true)
    (hbatch : ∀ n w, isUnprepared (server n (.batch w)) = true) :
    (∀ qry : Query κ ν, qry.prepare = true → (∃ values, executeQueryValues L ps.request qry.values = .ok values) →
      ∀ s : PrepareState ε, Caches (· = .ok ps) s.stmtsLRU → ∀ fuel, executeQuery L c server fuel s qry = none) ∧
    (∀ batch : Batch κ ν, c.version ≠ protoVersion1 → (∀ e ∈ batch.entries, e.2 = []) →
      ∀ (s : PrepareState ε) fuel, executeBatch L c server fuel s batch = none) := by
  constructor
  · rintro qry hqry ⟨values, hvalues⟩ s hs fuel
    exact Fuel.loop_eq_none (fun s => Caches (· = .ok ps) s.stmtsLRU)
      (fun s hs => executeQueryRound_of_server L c server ps hprepare hexecute hqry hvalues hs) fuel hs
  · intro batch hversion htext s fuel
    refine Fuel.loop_eq_none (fun _ => True) (fun s _ => ?_) fuel trivial
    obtain ⟨head, code, message, statementId, hsrv⟩ := isUnprepared_eq_true (hbatch s.sent
      ⟨batch.typ, batch.entries.map fun e => ⟨[], e.1, []⟩, batch.cons, batch.serialCons,
        batch.defaultTimestamp, batch.defaultTimestampValue, batch.customPayload⟩)
    unfold executeBatchRound
    rw [if_neg hversion, batchStatements_text L c server s batch.entries 0 ∅ htext]
    dsimp only [exec]
    rw [hsrv]
    -- the batch prepared nothing, so the id is not one of its statements'
    exact ⟨_, rfl, trivial⟩

end Conn

/-! ### A server that never stops answering `UNPREPARED` -/

/-- The prepared result of a statement with no bind markers, with the id `[1]`. -/
def markerlessStatement : PreparedStatment := ⟨[1], ⟨ResultMetadata.zero, [], [], []⟩, ResultMetadata.zero⟩

/-- A server that prepares every statement as `markerlessStatement` and answers every other frame
with `RequestErrUnprepared` for its id. -/
def unpreparingServer : Nat → Request → Except Empty Frame
  | _, .prepare .. => .ok (.resultPrepared FrameHeader.zero [1] markerlessStatement.request ResultMetadata.zero)
  | _, _ => .ok (.error FrameHeader.zero 0x2500 [] (.unprepared [1]))

/-- A connection of protocol 4. -/
def connV4 : ConnInfo := ⟨[], [], protoVersion4, false⟩

/-- The statement `""`, to prepare, with no values. -/
def markerlessQuery : Query Unit GoBytes := ⟨[], [], 0, 0, false, 0, [], 0, ∅, true, false⟩

/-- A batch of the one statement `""`, without arguments. -/
def textBatch : Batch Unit GoBytes := ⟨0, [([], [])], 0, 0, false, 0, ∅⟩

/-- From an empty cache, neither the query nor the batch ever returns. -/
theorem unpreparingServer_unbounded :
    (∀ n stmt keyspace, prepareFlight (unpreparingServer n (.prepare stmt keyspace ∅)) = .ok markerlessStatement) ∧
    (∀ n id params customPayload, isUnprepared (unpreparingServer n (.execute id params customPayload)) = true) ∧
    (∀ n w, isUnprepared (unpreparingServer n (.batch w)) = true) ∧
    (∀ fuel, Conn.executeQuery bytesLeaf connV4 unpreparingServer fuel ⟨LruCache.new 10, 0⟩ markerlessQuery = none) ∧
    (∀ fuel, Conn.executeBatch bytesLeaf connV4 unpreparingServer fuel ⟨LruCache.new 10, 0⟩ textBatch = none) := by
  have hprepare : ∀ n stmt keyspace,
      prepareFlight (unpreparingServer n (.prepare stmt keyspace ∅)) = .ok markerlessStatement :=
    fun _ _ _ => rfl
  have hexecute : ∀ n id params customPayload,
      isUnprepared (unpreparingServer n (.execute id params customPayload)) = true := fun _ _ _ _ => rfl
  have hbatch : ∀ n w, isUnprepared (unpreparingServer n (.batch w)) = true := fun _ _ => rfl
  obtain ⟨hq, hb⟩ := Conn.reexecute_unbounded bytesLeaf connV4 unpreparingServer markerlessStatement
    hprepare hexecute hbatch
  have hempty : Conn.Caches (· = .ok markerlessStatement) (LruCache.new 10 : PreparedLRU Empty) :=
    ⟨LruCache.inv_new 10, fun _ he => nomatch he⟩
  exact ⟨hprepare, hexecute, hbatch, hq markerlessQuery rfl ⟨[], rfl⟩ _ hempty,
    hb textBatch (by decide) (fun e he => by rw [List.mem_singleton.mp he]) _⟩

/-- A server that answers the first frame with `RequestErrUnprepared` and every later one with a
void result. -/
def onceUnpreparingServer : Nat → Request → Except Empty Frame
  | 0, _ => .ok (.error FrameHeader.zero 0x2500 [] (.unprepared [1]))
  | _ + 1, _ => .ok (.resultVoid FrameHeader.zero)

/-- Against a server whose `UNPREPARED` answers stop after the first frame, two rounds are
enough for the query and for the batch to return. -/
theorem reexecute_onceUnprepared :
    (∀ req, isUnprepared (onceUnpreparingServer 0 req) = true) ∧
    (Conn.executeQuery bytesLeaf connV4 onceUnpreparingServer 2 ⟨LruCache.new 10, 0⟩
      markerlessQuery).isSome ∧
    (Conn.executeBatch bytesLeaf connV4 onceUnpreparingServer 2 ⟨LruCache.new 10, 0⟩
      textBatch).isSome :=
  ⟨fun _ => rfl, Conn.reexecute_returns bytesLeaf connV4 onceUnpreparingServer 1
    (fun n _ hn => by obtain ⟨m, rfl⟩ := Nat.exists_eq_add_of_le' hn; rfl) markerlessQuery textBatch
    (by decide)⟩

end Gocql
