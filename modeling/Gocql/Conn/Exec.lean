import Gocql.Conn.Recv

/-!
# Conn — `exec`, `recv` and the stream ids, interleaved

A call of `Conn.exec` takes a stream id with `c.streams.GetStream()`, registers its `callReq` in
`c.calls` (`addCall`), builds and writes its frame, and waits in a `select` for what `recv`
hands it on `call.resp`, its timer, its context, or the connection's context.  `recv` reads a
header, takes the call of the header's stream out of `c.calls`, reads the body and then, in a
`select` of its own, hands the body to the call, releases the stream if the call has closed
`call.timeout`, or gives up when the connection's context is done.  `closeWithError` marks the
connection closed, takes the calls out of `c.calls` when its error is not nil, hands each call
the error unless the call has closed `call.timeout`, and cancels the connection's context.

Each goroutine's steps are `Event`s of one `ConnModel`, in any interleaving; `recv` is the
function of `Gocql.Conn.Recv` on the bytes the server sends, through the reads of `Conn.Read`.
The stream ids are the set `c.streams` has handed out; `GetStream` may hand out any id it does
not hold, as the allocator does.  The model keeps a log of the allocator's calls
(`StreamEvent`), and of the calls `recv` takes out of `c.calls`.

* `ConnModel.step`, `ConnModel.run`.
* `streamsCheck`: the log's spec, that `GetStream` hands out only ids not held, that `Clear`
  clears only held ids, and only for a call that wrote no byte or that `recv` took out of
  `c.calls` on a header carrying its id.
* `Inv.run`, `run_calls_self`: in every interleaving from a fresh connection, `c.calls` holds
  each call under its own stream, so `recv` never hands a body to a call of another stream.
* `stream_recycled_early`: `recv` can take a call out on a header that is not the server's
  answer to it, when a body read times out midway (the reads of `serve_timeout_misaligns`); the
  call then returns and releases its id while the server's answer is still to come, and the
  next call given that id receives it.  A second interleaving clears one id twice, and fails
  `streamsCheck`.
-/

namespace Gocql

open Go GoIO

/-! ### The goroutines -/

/-- How a call of `exec` returned. -/
inductive ExecReturn where
  /-- `ErrNoStreams` -/
  | noStreams
  /-- the error of `addCall`: the connection is closed, or the stream has a call -/
  | addCallFailed
  /-- the error of `buildFrame` -/
  | buildFailed
  /-- the error of `writeContext` -/
  | writeFailed
  /-- what `recv` handed it on `call.resp`: the body, or the error of reading it -/
  | response (resp : Except ConnError (List UInt8))
  /-- the error `closeWithError` handed it on `call.resp` -/
  | closedWith
  /-- `ErrTimeoutNoResponse` -/
  | timeout
  /-- `ctx.Err()` -/
  | canceled
  /-- `ErrConnectionClosed`, at `c.ctx.Done()` -/
  | connectionClosed
  deriving DecidableEq, Repr

/-- Where a call of `exec` is. -/
inductive ExecPc where
  /-- before `GetStream` -/
  | start
  /-- holding `stream`, before `addCall` -/
  | gotStream (stream : Int)
  /-- its call in `c.calls`, its frame not written -/
  | registered (stream : Int)
  /-- its frame written, in the final `select` -/
  | waiting (stream : Int)
  /-- handed `resp` on `call.resp`, before its `c.Closed()` check -/
  | received (stream : Int) (resp : Except ConnError (List UInt8))
  /-- returned, with the id it held, if `GetStream` gave it one -/
  | returned (stream : Option Int) (r : ExecReturn)
  deriving DecidableEq, Repr

/-- The stream id a call of `exec` holds. -/
def ExecPc.stream? : ExecPc → Option Int
  | .start => none
  | .gotStream s | .registered s | .waiting s | .received s _ => some s
  | .returned s _ => s

/-- A call of `exec`: where it is, and whether any byte of its frame reached the connection. -/
structure ExecState where
  pc : ExecPc
  wrote : Bool
  deriving DecidableEq, Repr

/-- A call of `c.streams` by the goroutines, or of `recv` on `c.calls`: `GetStream` handing
`stream` to exec `i`; `recv` taking exec `i`'s call out of `c.calls` on a header carrying
`stream`; `Clear(stream)` from `releaseStream` for exec `i`, and whether a byte of `i`'s frame
may have reached the connection. -/
inductive StreamEvent where
  | get (stream : Int) (i : Nat)
  | removed (stream : Int) (i : Nat)
  | clear (stream : Int) (i : Nat) (wrote : Bool)
  deriving DecidableEq, Repr

/-- The connection and its goroutines: `recv`'s part of `Conn` (the server's bytes, `c.calls`
with each call's `streamID`, `closed`); the exec whose call is `c.calls[s]`; the ids
`c.streams` holds; each call of `exec`; whether `serve` still loops; `recv` in its `select`
with the call it took out and what it read; the calls `closeWithError` has still to hand its
error; whether `c.ctx` is done; and the log. -/
structure ConnModel where
  conn : ConnState
  owner : Int → Option Nat
  inUse : List Int
  execs : Nat → ExecState
  serving : Bool
  delivering : Option (Nat × Except ConnError (List UInt8))
  closing : Option (List Nat)
  cancelled : Bool
  log : List StreamEvent

/-- One atomic step of a goroutine.  Exec `i`'s steps are those of `Conn.exec`; `recv` and its
`select` are `serve`'s; `closeCall` and `closeDone` are the loop of `closeWithError` and its
`c.cancel()`; `close` is `Close()`. -/
inductive Event where
  | getStream (i : Nat) (stream : Int)
  | noStreams (i : Nat)
  | addCall (i : Nat)
  | buildFail (i : Nat)
  /-- `writeContext` returned a context error with nothing written -/
  | writeCanceled (i : Nat)
  /-- any other error of `writeContext`: `closeWithError(err)` -/
  | writeFail (i : Nat)
  | write (i : Nat)
  /-- the `c.Closed()` check after a response, and the return -/
  | finish (i : Nat)
  | timeout (i : Nat)
  /-- `ctx` is done: at the start of `exec`, or in its final `select` -/
  | cancel (i : Nat)
  | connDone (i : Nat)
  | recv
  /-- `recv`'s `select`: the call takes the response -/
  | hand
  /-- `recv`'s `select`: the call closed `call.timeout` -/
  | recvTimeout
  /-- `recv`'s `select`: `c.ctx` is done -/
  | recvCtxDone
  | closeCall
  | closeDone
  | close
  deriving DecidableEq, Repr

namespace ConnModel

/-- The connection before any call: the server's bytes, no call, no stream id held. -/
def init (stream : Stream) : ConnModel :=
  ⟨⟨stream, ∅, false⟩, fun _ => none, [], fun _ => ⟨.start, false⟩, true, none, none, false, []⟩

/-- Exec `i` moves to `pc`. -/
def setPc (m : ConnModel) (i : Nat) (pc : ExecPc) : ConnModel :=
  { m with execs := Function.update m.execs i { m.execs i with pc := pc } }

/-- `releaseStream(call)` for exec `i` holding `s`: `c.streams.Clear(s)`. -/
def release (m : ConnModel) (i : Nat) (s : Int) : ConnModel :=
  { m with inUse := m.inUse.erase s, log := m.log ++ [.clear s i (m.execs i).wrote] }

/-- `if !c.closed { delete(c.calls, s) }`. -/
def dropCall (m : ConnModel) (s : Int) : ConnModel :=
  if m.conn.closed then m
  else { m with conn := { m.conn with calls := m.conn.calls.erase s },
                owner := Function.update m.owner s none }

/-- The start of `closeWithError(err)` for an error: `closed`, and the calls taken out of
`c.calls` to be handed the error.  Nothing if the connection is closed already. -/
def closeWithError (m : ConnModel) : ConnModel :=
  if m.conn.closed then m
  else { m with conn := { m.conn with closed := true, calls := ∅ }, owner := fun _ => none,
                closing := some (m.conn.calls.keys.filterMap m.owner) }

/-- `Close()`, `closeWithError(nil)`: `closed`, the calls left in `c.calls`, and `c.cancel()`. -/
def close (m : ConnModel) : ConnModel :=
  if m.conn.closed then m
  else { m with conn := { m.conn with closed := true }, cancelled := true }

/-- `recv` on the connection of protocol `version` with `numStreams` ids: the calls it leaves
in `c.calls` keep their execs, and a body read for a call puts `recv` in its `select` with the
call's exec. -/
def recvStep (version : UInt8) (numStreams : Int) (m : ConnModel) : Option ConnModel :=
  let (r, conn) := recv version numStreams none m.conn
  let m' := { m with conn := conn, owner := fun s => (conn.calls.lookup s).bind fun _ => m.owner s }
  match r with
  | .delivered s resp =>
    match m.owner s with
    | some j => some { m' with delivering := some (j, resp), log := m.log ++ [.removed s j] }
    | none => none
  -- `serve` closes the connection with `recv`'s error
  | .fail _ => some { m'.closeWithError with serving := false }
  -- a panic ends the program
  | .panicked => some { m' with serving := false }
  | _ => some m'

/-- The return of `exec` after `recv` handed it `resp` and it closed `call.timeout`: the stream
released, after an error only if the connection is not closed. -/
def finishStep (m : ConnModel) (i : Nat) : Option ConnModel :=
  match (m.execs i).pc with
  | .received s resp =>
    let m' := m.setPc i (.returned (some s) (.response resp))
    match resp with
    | .ok _ => some (m'.release i s)
    | .error _ => if m.conn.closed then some m' else some (m'.release i s)
  | _ => none

/-- One step of exec `i` from `pc`, or of `recv` or `closeWithError`. -/
def step (version : UInt8) (numStreams : Int) (m : ConnModel) : Event → Option ConnModel
  | .getStream i s =>
    if (m.execs i).pc = .start ∧ 1 ≤ s ∧ s < numStreams ∧ s ∉ m.inUse then
      some { m.setPc i (.gotStream s) with inUse := s :: m.inUse, log := m.log ++ [.get s i] }
    else none
  | .noStreams i =>
    if (m.execs i).pc = .start ∧
        (List.range numStreams.toNat).all fun k => k == 0 || decide ((k : Int) ∈ m.inUse) then
      some (m.setPc i (.returned none .noStreams))
    else none
  | .addCall i =>
    match (m.execs i).pc with
    | .gotStream s =>
      if m.conn.closed ∨ (m.conn.calls.lookup s).isSome then
        some (m.setPc i (.returned (some s) .addCallFailed))
      else
        some { m.setPc i (.registered s) with
          conn := { m.conn with calls := m.conn.calls.insert s s }
          owner := Function.update m.owner s (some i) }
    | _ => none
  | .buildFail i =>
    match (m.execs i).pc with
    | .registered s => some (((m.dropCall s).release i s).setPc i (.returned (some s) .buildFailed))
    | _ => none
  | .writeCanceled i =>
    match (m.execs i).pc with
    | .registered s => some (((m.dropCall s).release i s).setPc i (.returned (some s) .writeFailed))
    | _ => none
  -- whether a byte reached the connection is not known: the log says it may have
  | .writeFail i =>
    match (m.execs i).pc with
    | .registered s =>
      some { m with execs := Function.update m.execs i ⟨.returned (some s) .writeFailed, true⟩ }.closeWithError
    | _ => none
  | .write i =>
    match (m.execs i).pc with
    | .registered s => some { m with execs := Function.update m.execs i ⟨.waiting s, true⟩ }
    | _ => none
  | .timeout i =>
    match (m.execs i).pc with
    | .waiting s => some (m.setPc i (.returned (some s) .timeout))
    | _ => none
  | .cancel i =>
    match (m.execs i).pc with
    | .start => some (m.setPc i (.returned none .canceled))
    | .waiting s => some (m.setPc i (.returned (some s) .canceled))
    | _ => none
  | .connDone i =>
    match (m.execs i).pc with
    | .waiting s => if m.cancelled then some (m.setPc i (.returned (some s) .connectionClosed)) else none
    | _ => none
  | .recv => if m.serving ∧ m.delivering = none then m.recvStep version numStreams else none
  | .hand =>
    match m.delivering with
    | some (j, resp) =>
      match (m.execs j).pc with
      | .waiting s => some { m.setPc j (.received s resp) with delivering := none }
      | _ => none
    | none => none
  | .finish i => m.finishStep i
  | .recvTimeout =>
    match m.delivering with
    | some (j, _) =>
      match (m.execs j).pc with
      | .returned (some s) _ => some ({ m with delivering := none }.release j s)
      | _ => none
    | none => none
  | .recvCtxDone =>
    if m.cancelled ∧ m.delivering.isSome then some { m with delivering := none } else none
  | .closeCall =>
    match m.closing with
    | some (j :: js) =>
      match (m.execs j).pc with
      -- the connection is closed by now, so the call's `c.Closed()` check keeps the stream
      | .waiting s => some { m.setPc j (.returned (some s) .closedWith) with closing := some js }
      | .returned _ _ => some { m with closing := some js }
      | _ => none
    | _ => none
  | .closeDone => if m.closing = some [] then some { m with closing := none, cancelled := true } else none
  | .close => some m.close

/-- A schedule of steps, none if one of them cannot be taken. -/
def run (version : UInt8) (numStreams : Int) : ConnModel → List Event → Option ConnModel
  | m, [] => some m
  | m, e :: es => (m.step version numStreams e).bind fun m' => m'.run version numStreams es

end ConnModel

/-! ### The allocator's contract, as a check of the log -/

/-- The contract of `c.streams` over the log, with `held` the ids handed out and not cleared,
each with its exec and whether `recv` took that exec's call out of `c.calls` on a header of the
id: `GetStream` hands out only ids not held, and `Clear` clears only an id held by its exec, for
a call that wrote nothing or that `recv` took out. -/
def streamsCheck : List (Int × Nat × Bool) → List StreamEvent → Bool
  | _, [] => true
  | held, .get s i :: l => !(held.any fun h => h.1 == s) && streamsCheck ((s, i, false) :: held) l
  | held, .removed s i :: l =>
    streamsCheck (held.map fun h => if h.1 = s ∧ h.2.1 = i then (s, i, true) else h) l
  | held, .clear s i w :: l =>
    held.any (fun h => h.1 == s && h.2.1 == i && (!w || h.2.2)) &&
      streamsCheck (held.filter fun h => h.1 != s) l

namespace ConnModel

/-! ### What every run keeps of `c.calls` -/

@[simp] theorem setPc_conn (m : ConnModel) (i : Nat) (pc : ExecPc) : (m.setPc i pc).conn = m.conn := rfl

@[simp] theorem setPc_owner (m : ConnModel) (i : Nat) (pc : ExecPc) :
    (m.setPc i pc).owner = m.owner := rfl

@[simp] theorem release_conn (m : ConnModel) (i : Nat) (s : Int) : (m.release i s).conn = m.conn := rfl

@[simp] theorem release_owner (m : ConnModel) (i : Nat) (s : Int) :
    (m.release i s).owner = m.owner := rfl

@[simp] theorem close_calls (m : ConnModel) : m.close.conn.calls = m.conn.calls := by
  unfold close
  split <;> rfl

@[simp] theorem close_owner (m : ConnModel) : m.close.owner = m.owner := by
  unfold close
  split <;> rfl

/-- Each call is in `c.calls` under its own `streamID`, so `recv`'s check
`head.stream != call.streamID` never panics; and each call there has its exec, so `recv` hands
each body it reads to an exec. -/
structure Inv (m : ConnModel) : Prop where
  calls_self : ∀ s v, m.conn.calls.lookup s = some v → v = s
  calls_owner : ∀ s, (m.conn.calls.lookup s).isSome → (m.owner s).isSome

theorem Inv.init (stream : Stream) : Inv (init stream) :=
  ⟨fun _ _ h => (by cases h), fun _ h => (by cases h)⟩

/-- The invariant reads `c.calls` and the owners only. -/
theorem Inv.frame {m m' : ConnModel} (h : Inv m) (hc : m'.conn.calls = m.conn.calls)
    (ho : m'.owner = m.owner) : Inv m' := by
  constructor
  · intro s v hs
    rw [hc] at hs
    exact h.calls_self s v hs
  · intro s hs
    rw [hc] at hs
    rw [ho]
    exact h.calls_owner s hs

/-- Taking calls out keeps the invariant, when their owners go with them. -/
theorem Inv.of_sub {m m' : ConnModel} (h : Inv m)
    (hc : ∀ s v, m'.conn.calls.lookup s = some v → m.conn.calls.lookup s = some v)
    (ho : ∀ s, (m'.conn.calls.lookup s).isSome → m'.owner s = m.owner s) : Inv m' := by
  constructor
  · intro s v hs
    exact h.calls_self s v (hc s v hs)
  · intro s hs
    obtain ⟨v, hv⟩ := Option.isSome_iff_exists.mp hs
    rw [ho s hs]
    exact h.calls_owner s (by rw [hc s v hv]; rfl)

theorem lookup_of_lookup_erase {s k : Int} {v : Int} {calls : GoMap Int Int}
    (h : (calls.erase k).lookup s = some v) : calls.lookup s = some v := by
  by_cases hk : s = k
  · subst hk
    rw [AList.lookup_erase] at h
    cases h
  · rwa [AList.lookup_erase_ne hk] at h

theorem Inv.dropCall {m : ConnModel} (h : Inv m) (s : Int) : Inv (m.dropCall s) := by
  unfold ConnModel.dropCall
  split
  · exact h
  · refine h.of_sub (fun k v hk => lookup_of_lookup_erase hk) ?_
    intro k hk
    have hne : k ≠ s := by
      rintro rfl
      simp [AList.lookup_erase] at hk
    exact Function.update_of_ne hne _ _

theorem Inv.closeWithError {m : ConnModel} (h : Inv m) : Inv m.closeWithError := by
  unfold ConnModel.closeWithError
  split
  · exact h
  · exact h.of_sub (fun _ _ hk => by cases hk) (fun _ hk => by cases hk)

/-- `addCall`'s `c.calls[call.streamID] = call`, with its exec. -/
theorem Inv.addCall {m : ConnModel} (h : Inv m) (s : Int) (i : Nat) :
    Inv { m with conn := { m.conn with calls := m.conn.calls.insert s s },
                 owner := Function.update m.owner s (some i) } := by
  constructor
  · intro k v hk
    by_cases hks : k = s
    · subst hks
      rw [AList.lookup_insert] at hk
      exact (Option.some.inj hk).symm
    · rw [AList.lookup_insert_ne hks] at hk
      exact h.calls_self k v hk
  · intro k hk
    by_cases hks : k = s
    · subst hks
      simp
    · rw [AList.lookup_insert_ne hks] at hk
      dsimp only
      rw [Function.update_of_ne hks]
      exact h.calls_owner k hk

/-- The calls `recv` leaves in `c.calls` keep their execs. -/
theorem Inv.afterRecv {m : ConnModel} (h : Inv m) (version : UInt8) (numStreams : Int) :
    Inv { m with conn := (recv version numStreams none m.conn).2,
                 owner := fun s => ((recv version numStreams none m.conn).2.calls.lookup s).bind
                   fun _ => m.owner s } := by
  have hsub : ∀ s v, (recv version numStreams none m.conn).2.calls.lookup s = some v →
      m.conn.calls.lookup s = some v := by
    intro s v hs
    rcases recv_calls version numStreams none m.conn with hc | ⟨k, hc⟩
    · rwa [hc] at hs
    · rw [hc] at hs
      exact lookup_of_lookup_erase hs
  refine h.of_sub hsub ?_
  intro s hs
  obtain ⟨v, hv⟩ := Option.isSome_iff_exists.mp hs
  simp only [hv, Option.bind_some]

theorem Inv.recvStep {m m' : ConnModel} (h : Inv m) {version : UInt8} {numStreams : Int}
    (hs : m.recvStep version numStreams = some m') : Inv m' := by
  have hr := h.afterRecv version numStreams
  unfold ConnModel.recvStep at hs
  rcases hrv : recv version numStreams none m.conn with ⟨r, conn⟩
  simp only [hrv] at hs hr
  cases r with
  | delivered s resp =>
    dsimp only at hs
    split at hs
    · cases hs
      exact hr.frame rfl rfl
    · cases hs
  | fail e =>
    cases hs
    exact (hr.closeWithError).frame rfl rfl
  | _ =>
    cases hs
    exact hr.frame rfl rfl

/-- **One step keeps the invariant.** -/
theorem Inv.step {m m' : ConnModel} (h : Inv m) {version : UInt8} {numStreams : Int} {e : Event}
    (hs : m.step version numStreams e = some m') : Inv m' := by
  cases e with
  | getStream i s =>
    simp only [ConnModel.step] at hs
    split at hs
    · cases hs
      exact h.frame rfl rfl
    · cases hs
  | noStreams i =>
    simp only [ConnModel.step] at hs
    split at hs
    · cases hs
      exact h.frame rfl rfl
    · cases hs
  | addCall i =>
    simp only [ConnModel.step] at hs
    split at hs
    · split at hs
      · cases hs
        exact h.frame rfl rfl
      · cases hs
        exact (h.addCall _ i).frame rfl rfl
    · cases hs
  | buildFail i | writeCanceled i =>
    simp only [ConnModel.step] at hs
    split at hs
    · cases hs
      exact (h.dropCall _).frame rfl rfl
    · cases hs
  | writeFail i =>
    simp only [ConnModel.step] at hs
    split at hs
    · cases hs
      exact Inv.closeWithError (h.frame rfl rfl)
    · cases hs
  | write i | timeout i | connDone i =>
    simp only [ConnModel.step] at hs
    split at hs
    all_goals first
      | (cases hs; exact h.frame rfl rfl)
      | (split at hs <;> cases hs; exact h.frame rfl rfl)
      | cases hs
  | cancel i =>
    simp only [ConnModel.step] at hs
    split at hs <;> cases hs <;> exact h.frame rfl rfl
  | finish i =>
    simp only [ConnModel.step, finishStep] at hs
    split at hs
    · split at hs
      · cases hs
        exact h.frame rfl rfl
      · split at hs <;> cases hs <;> exact h.frame rfl rfl
    · cases hs
  | recv =>
    simp only [ConnModel.step] at hs
    split at hs
    · exact h.recvStep hs
    · cases hs
  | hand =>
    simp only [ConnModel.step] at hs
    split at hs
    · split at hs
      · cases hs
        exact h.frame rfl rfl
      · cases hs
    · cases hs
  | recvTimeout =>
    simp only [ConnModel.step] at hs
    split at hs
    · split at hs
      · cases hs
        exact h.frame rfl rfl
      · cases hs
    · cases hs
  | recvCtxDone | closeDone =>
    simp only [ConnModel.step] at hs
    split at hs
    · cases hs
      exact h.frame rfl rfl
    · cases hs
  | closeCall =>
    simp only [ConnModel.step] at hs
    split at hs
    · split at hs
      · cases hs
        exact h.frame rfl rfl
      · cases hs
        exact h.frame rfl rfl
      · cases hs
    · cases hs
  | close =>
    simp only [ConnModel.step] at hs
    cases hs
    exact h.frame (close_calls m) (close_owner m)

/-- **Every run keeps the invariant**, by induction on the schedule. -/
theorem Inv.run {version : UInt8} {numStreams : Int} :
    ∀ {m m' : ConnModel} {es : List Event}, Inv m → m.run version numStreams es = some m' → Inv m'
  | _, _, [], h, hr => by
    cases hr
    exact h
  | m, _, e :: es, h, hr => by
    simp only [ConnModel.run] at hr
    obtain ⟨m₁, h₁, hr⟩ := Option.bind_eq_some_iff.mp hr
    exact (h.step h₁).run hr

end ConnModel

/-! ### A stream recycled while its answer is on the way

The server sends, on stream 1, a 13-byte body whose fourth byte begins what reads as a header
of stream 2; the read of that body times out after three bytes, as in `serve_timeout_misaligns`.
`recv` hands exec 0 the error, reads the rest of its body as a frame of stream 2, and takes out
the call of the exec that holds stream 2.  The server's answer on stream 2 comes after. -/

/-- The bytes and the reads of the connection. -/
def recycledStream : Stream :=
  ⟨[0x84, 0, 0, 1, 0x08, 0, 0, 0, 13] ++ [0, 0, 0, 0x84, 0, 0, 2, 0x08, 0, 0, 0, 1, 0] ++
      [0x84, 0, 0, 2, 0x08, 0, 0, 0, 4] ++ [0, 0, 0, 1],
    [⟨1, none⟩, ⟨8, none⟩, ⟨3, some (.net true)⟩, ⟨0, some (.net true)⟩, ⟨0, some (.net true)⟩,
      ⟨0, some (.net true)⟩, ⟨0, some (.net true)⟩, ⟨1, none⟩, ⟨8, none⟩, ⟨1, none⟩,
      ⟨1, none⟩, ⟨8, none⟩, ⟨4, none⟩]⟩

/-- Execs 0 and 1 write on streams 1 and 2; exec 1 takes the misread frame and releases
stream 2; exec 2 takes stream 2 and receives the server's answer to exec 1. -/
def misdeliverySchedule : List Event :=
  [.getStream 0 1, .addCall 0, .write 0, .getStream 1 2, .addCall 1, .write 1,
   .recv, .hand, .finish 0, .recv, .hand, .finish 1,
   .getStream 2 2, .addCall 2, .write 2, .recv, .hand, .finish 2]

/-- Exec 1 takes stream 2 but has not written when `recv` takes its call out on the misread
header; it fails to build its frame and releases stream 2, exec 2 takes it and writes, and
`recv`, finding exec 1's `call.timeout` closed, releases stream 2 again. -/
def doubleClearSchedule : List Event :=
  [.getStream 0 1, .addCall 0, .write 0, .getStream 1 2, .addCall 1,
   .recv, .hand, .finish 0, .recv, .buildFail 1,
   .getStream 2 2, .addCall 2, .write 2, .recvTimeout, .getStream 3 2, .addCall 3]

theorem stream_recycled_early :
    ((ConnModel.init recycledStream).run protoVersion4 32768 misdeliverySchedule).map
        (fun m => ((m.execs 1).pc, (m.execs 2).pc, m.log, streamsCheck [] m.log)) =
      some (.returned (some 2) (.response (.ok [0])),
        .returned (some 2) (.response (.ok [0, 0, 0, 1])),
        [.get 1 0, .get 2 1, .removed 1 0, .clear 1 0 true, .removed 2 1, .clear 2 1 true,
          .get 2 2, .removed 2 2, .clear 2 2 true], true) ∧
    ((ConnModel.init recycledStream).run protoVersion4 32768 doubleClearSchedule).map
        (fun m => ((m.execs 2).pc, (m.execs 3).pc, m.log, streamsCheck [] m.log)) =
      some (.waiting 2, .returned (some 2) .addCallFailed,
        [.get 1 0, .get 2 1, .removed 1 0, .clear 1 0 true, .removed 2 1, .clear 2 1 false,
          .get 2 2, .clear 2 1 false, .get 2 3], false) := by
  constructor
  · decide
  · decide

end Gocql
