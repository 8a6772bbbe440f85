import Gocql.Support.Fuel
import Gocql.Frame.Parse

/-!
# Session — the query executor's retry loop

`queryExecutor.do(ctx, qry, hostIter)` (`query_executor.go`) runs a non-speculative query: it
takes hosts from `hostIter` while they are not nil, skips one that is down or has no pool or no
connection, and attempts the query on the connection of one that has.  `qry.attempt` counts the
attempt.  A logical error (`context.Canceled`, `context.DeadlineExceeded`, `ErrNotFound`), a
success, a query without a retry policy, or `Attempt` returning false ends the loop with the
attempt's `Iter`; otherwise `GetRetryType` of the error decides: `Retry` attempts again on the
same host, `RetryNextHost` on the next one, `Rethrow` and `Ignore` return the attempt's `Iter`,
and any other value `ErrUnknownRetryType`.  When the hosts run out, the last error is returned,
or `ErrNoConnections`.

The host iterator is the list of the hosts it yields before its first nil; the outcome of the
`n`-th attempt (`Attempts()` being `n` before it) is any success or error.  The loop is
`Fuel.loop` of one pass of its body.

* `queryExecutorDo_ignore`: `Ignore` returns the failed attempt's `Iter`, its error kept.
* `queryExecutorDo_last_attempt`: the `Iter` of an attempt that is returned is the one of the
  last attempt made, and every attempt before it failed.
* `queryExecutorDo_attempts_le`, `queryExecutorDo_returns`: under a policy whose `Attempt` holds
  only up to `N` attempts (`SimpleRetryPolicy{N}`, `ExponentialBackoffRetryPolicy{N}`), at most
  `N + 1` attempts are made from none, and the loop returns once it has enough passes;
  `queryExecutorDo_bounded` puts the three together.
-/

namespace Gocql

/-- `RetryType`. -/
abbrev RetryType := UInt16

/-- `Retry`: retry on the same connection. -/
def RetryType.retry : RetryType := 0x00
/-- `RetryNextHost`: retry on another connection. -/
def RetryType.retryNextHost : RetryType := 0x01
/-- `Ignore`: "ignore error and return result". -/
def RetryType.ignore : RetryType := 0x02
/-- `Rethrow`: raise error and stop retrying. -/
def RetryType.rethrow : RetryType := 0x03

/-- The errors an attempt's `Iter` carries, and the ones `do` makes. -/
inductive QueryError (ε : Type) where
  /-- `context.Canceled` -/
  | canceled
  /-- `context.DeadlineExceeded` -/
  | deadlineExceeded
  /-- `ErrNotFound`: `not found` -/
  | notFound
  /-- `ErrUnknownRetryType`: `unknown retry type returned by retry policy` -/
  | unknownRetryType
  /-- `ErrNoConnections`: `gocql: no hosts available in the pool` -/
  | noConnections
  /-- any other error -/
  | other (e : ε)
  deriving DecidableEq, Repr

/-- The errors that "represent logical errors" and end the loop at once. -/
def QueryError.isLogical {ε : Type} : QueryError ε → Bool
  | .canceled | .deadlineExceeded | .notFound => true
  | _ => false

/-- `RetryPolicy`: `Attempt(q)`, which reads `q.Attempts()`, and `GetRetryType(err)`. -/
structure RetryPolicy (ε : Type) where
  attempt : Nat → Bool
  getRetryType : QueryError ε → RetryType

/-- `SimpleRetryPolicy{NumRetries}`. -/
def simpleRetryPolicy {ε : Type} (numRetries : Int) : RetryPolicy ε where
  attempt attempts := decide ((attempts : Int) ≤ numRetries)
  getRetryType _ := RetryType.retryNextHost

/-- `ExponentialBackoffRetryPolicy{NumRetries, Min, Max}`; the sleep between attempts is not
modelled. -/
def exponentialBackoffRetryPolicy {ε : Type} (numRetries : Int) : RetryPolicy ε where
  attempt attempts := if (attempts : Int) > numRetries then false else true
  getRetryType _ := RetryType.retryNextHost

/-- `DowngradingConsistencyRetryPolicy{ConsistencyLevelsToTry}`, on the errors of error frames.
`Attempt` also sets the query's next consistency, which the outcomes of the attempts stand for. -/
def downgradingConsistencyRetryPolicy (consistencyLevelsToTry : List UInt16) : RetryPolicy ErrorDetails where
  attempt currentAttempt := if currentAttempt > consistencyLevelsToTry.length then false else true
  getRetryType
    | .other (.unavailable _ _ alive) => if alive > 0 then RetryType.retry else RetryType.rethrow
    | .other (.writeTimeout _ received _ writeType) =>
      if writeType = strBytes "SIMPLE" ∨ writeType = strBytes "BATCH" ∨ writeType = strBytes "COUNTER" then
        if received > 0 then RetryType.ignore else RetryType.rethrow
      else if writeType = strBytes "UNLOGGED_BATCH" then RetryType.retry
      else RetryType.rethrow
    | .other (.readTimeout ..) => RetryType.retry
    | _ => RetryType.retryNextHost

/-- The two count-based policies are one: the exponential one sleeps before the same attempts. -/
theorem exponentialBackoffRetryPolicy_eq {ε : Type} (numRetries : Int) :
    (exponentialBackoffRetryPolicy numRetries : RetryPolicy ε) = simpleRetryPolicy numRetries := by
  unfold exponentialBackoffRetryPolicy simpleRetryPolicy
  congr 1
  funext attempts
  by_cases h : (attempts : Int) ≤ numRetries
  · rw [if_neg (not_lt.mpr h), decide_eq_true h]
  · rw [if_pos (lt_of_not_ge h), decide_eq_false h]

/-- What `do` reads of a `SelectedHost`: whether `Info()` is nil, and of its host whether it is
up, whether `q.pool.getPool(host)` finds a pool, and whether `pool.Pick()` gives a connection. -/
structure SelectedHost (η : Type) where
  info : Option η
  isUp : Bool
  hasPool : Bool
  hasConn : Bool

/-- Whether `do` attempts the query on the host: its info is not nil, it is up, it has a pool,
and the pool a connection. -/
def SelectedHost.usable {η : Type} (sh : SelectedHost η) : Bool :=
  sh.info.isSome && sh.isUp && sh.hasPool && sh.hasConn

/-- The `*Iter` `do` returns: the one of the attempt made when `Attempts()` was `n`, with its
error, or a new one holding only an error. -/
inductive AttemptIter (ε : Type) where
  | attempt (n : Nat) (err : Option (QueryError ε))
  | fresh (err : QueryError ε)

/-- `iter.err`. -/
def AttemptIter.err {ε : Type} : AttemptIter ε → Option (QueryError ε)
  | .attempt _ err => err
  | .fresh err => some err

/-- The loop's variables: `selectedHost`, the hosts `hostIter()` has still to yield, the query's
`Attempts()`, and `lastErr`. -/
structure DoState (η ε : Type) where
  selectedHost : Option (SelectedHost η)
  hostIter : List (SelectedHost η)
  attempts : Nat
  lastErr : Option (QueryError ε)

/-- `selectedHost = hostIter()`. -/
def DoState.next {η ε : Type} (st : DoState η ε) : DoState η ε :=
  { st with selectedHost := st.hostIter.head?, hostIter := st.hostIter.tail }

/-- The hosts the loop has still to visit, the selected one among them. -/
def DoState.hostsLeft {η ε : Type} (st : DoState η ε) : Nat :=
  st.hostIter.length + if st.selectedHost.isSome then 1 else 0

theorem hostsLeft_start {η ε : Type} (hosts : List (SelectedHost η)) (attempts : Nat) (lastErr : Option (QueryError ε)) :
    (⟨hosts.head?, hosts.tail, attempts, lastErr⟩ : DoState η ε).hostsLeft = hosts.length := by
  cases hosts with
  | nil => rfl
  | cons h hs => simp [DoState.hostsLeft]

/-- Moving on leaves one host fewer to visit. -/
theorem hostsLeft_next {η ε : Type} {st : DoState η ε} (hsel : st.selectedHost.isSome = true) :
    st.next.hostsLeft + 1 = st.hostsLeft := by
  unfold DoState.hostsLeft
  rw [if_pos hsel]
  exact congrArg (· + 1) (hostsLeft_start st.hostIter st.attempts st.lastErr)

section Do

variable {η ε : Type} (rt : Option (RetryPolicy ε)) (outcome : Nat → Option (QueryError ε))

/-- The body after an attempt whose `Iter` carries `err`, the attempt counted in `st`. -/
def afterAttempt (iter : AttemptIter ε) (err : Option (QueryError ε)) (st : DoState η ε) :
    Fuel.Round (DoState η ε) (AttemptIter ε) :=
  if (err.map QueryError.isLogical).getD false then .done iter st
  else
    match rt, err with
    | none, _ | _, none => .done iter st
    | some rt, some e =>
      if !rt.attempt st.attempts then .done iter st
      else
        let st := { st with lastErr := some e }
        let retryType := rt.getRetryType e
        if retryType = RetryType.retry then .again st
        else if retryType = RetryType.rethrow ∨ retryType = RetryType.ignore then .done iter st
        else if retryType = RetryType.retryNextHost then .again st.next
        else .done (.fresh .unknownRetryType) st

/-- One pass of the loop of `do`. -/
def doRound (st : DoState η ε) : Fuel.Round (DoState η ε) (AttemptIter ε) :=
  match st.selectedHost with
  | none => .done (.fresh (st.lastErr.getD .noConnections)) st
  | some selectedHost =>
    if selectedHost.info.isNone || !selectedHost.isUp then .again st.next
    else if !selectedHost.hasPool then .again st.next
    else if !selectedHost.hasConn then .again st.next
    else
      -- `attemptQuery`, then `qry.attempt` adds the attempt to `Attempts()`
      let err := outcome st.attempts
      afterAttempt rt (.attempt st.attempts err) err { st with attempts := st.attempts + 1 }

/-- `queryExecutor.do(ctx, qry, hostIter)` from `Attempts()` equal to `attempts`, with at most
`fuel` passes of its loop. -/
def queryExecutorDo (fuel : Nat) (hosts : List (SelectedHost η)) (attempts : Nat) :
    Option (AttemptIter ε × DoState η ε) :=
  Fuel.loop (doRound rt outcome) fuel ⟨hosts.head?, hosts.tail, attempts, none⟩

/-! ### One pass -/

theorem doRound_none {st : DoState η ε} (hsel : st.selectedHost = none) :
    doRound rt outcome st = .done (.fresh (st.lastErr.getD .noConnections)) st := by
  unfold doRound
  rw [hsel]

/-- A host that is down, nil, or without a pool or a connection is skipped. -/
theorem doRound_skip {st : DoState η ε} {sh : SelectedHost η} (hsel : st.selectedHost = some sh)
    (hu : sh.usable = false) : doRound rt outcome st = .again st.next := by
  unfold doRound
  rw [hsel]
  dsimp only
  -- the first of the three checks that fails skips the host
  by_cases h₁ : (sh.info.isNone || !sh.isUp) = true
  · rw [if_pos h₁]
  · rw [if_neg h₁]
    by_cases h₂ : (!sh.hasPool) = true
    · rw [if_pos h₂]
    · rw [if_neg h₂]
      have h₃ : (!sh.hasConn) = true := by
        simp only [SelectedHost.usable, Bool.and_eq_false_iff] at hu
        simp only [Bool.or_eq_true, Option.isNone_iff_eq_none, Bool.not_eq_true', not_or] at h₁ h₂
        simp_all
      rw [if_pos h₃]

/-- A host with a connection is attempted. -/
theorem doRound_attempt {st : DoState η ε} {sh : SelectedHost η} (hsel : st.selectedHost = some sh)
    (hu : sh.usable = true) :
    doRound rt outcome st = afterAttempt rt (.attempt st.attempts (outcome st.attempts)) (outcome st.attempts)
      { st with attempts := st.attempts + 1 } := by
  simp only [SelectedHost.usable, Bool.and_eq_true, Option.isSome_iff_ne_none] at hu
  obtain ⟨⟨⟨hinfo, hup⟩, hpool⟩, hconn⟩ := hu
  unfold doRound
  rw [hsel]
  dsimp only
  rw [if_neg (by simp [hinfo, hup]), if_neg (by simp [hpool]), if_neg (by simp [hconn])]

/-- The end of a pass after an attempt returns the attempt's `Iter` or `ErrUnknownRetryType`,
and leaves the count of attempts. -/
theorem afterAttempt_done {iter r : AttemptIter ε} {err : Option (QueryError ε)} {st st' : DoState η ε}
    (h : afterAttempt rt iter err st = .done r st') :
    (r = iter ∨ r = .fresh .unknownRetryType) ∧ st'.attempts = st.attempts := by
  unfold afterAttempt at h
  split at h
  · cases h; exact ⟨.inl rfl, rfl⟩
  · split at h
    · cases h; exact ⟨.inl rfl, rfl⟩
    · cases h; exact ⟨.inl rfl, rfl⟩
    · case h_3 p e =>
      dsimp only at h
      split at h
      · cases h; exact ⟨.inl rfl, rfl⟩
      · split at h
        · cases h
        · split at h
          · cases h; exact ⟨.inl rfl, rfl⟩
          · split at h
            · cases h
            · cases h; exact ⟨.inr rfl, rfl⟩

/-- **Another pass after an attempt** follows a failure that is not logical, with a policy whose
`Attempt` holds and whose `GetRetryType` is `Retry`, which keeps the host, or `RetryNextHost`,
which moves on. -/
theorem afterAttempt_again {iter : AttemptIter ε} {err : Option (QueryError ε)} {st st' : DoState η ε}
    (h : afterAttempt rt iter err st = .again st') :
    ∃ p e, rt = some p ∧ err = some e ∧ e.isLogical = false ∧ p.attempt st.attempts = true ∧
      ((p.getRetryType e = RetryType.retry ∧ st' = { st with lastErr := some e }) ∨
        (p.getRetryType e = RetryType.retryNextHost ∧ st' = { st with lastErr := some e }.next)) := by
  unfold afterAttempt at h
  split at h
  · cases h
  · case isFalse hlogical =>
    split at h
    · cases h
    · cases h
    · case h_3 p e =>
      have hl : e.isLogical = false := by simpa using hlogical
      dsimp only at h
      split at h
      · cases h
      · case isFalse hattempt =>
        have ha : p.attempt st.attempts = true := by simpa using hattempt
        split at h
        · case isTrue hretry =>
          cases h
          exact ⟨p, e, rfl, rfl, hl, ha, .inl ⟨hretry, rfl⟩⟩
        · split at h
          · cases h
          · split at h
            · case isTrue hnext =>
              cases h
              exact ⟨p, e, rfl, rfl, hl, ha, .inr ⟨hnext, rfl⟩⟩
            · cases h

/-! ### `Ignore` -/

/-- **`Ignore` returns the error.**  When the first host has a connection and its attempt fails
with an error that is not logical, and the policy lets the query be attempted again but answers
`Ignore`, `do` returns the failed attempt's `Iter` with its error, not a result without one. -/
theorem queryExecutorDo_ignore {p : RetryPolicy ε} {outcome : Nat → Option (QueryError ε)}
    {sh : SelectedHost η} (hsh : sh.usable = true) (rest : List (SelectedHost η)) {attempts : Nat}
    {e : QueryError ε} (hfail : outcome attempts = some e) (hlogical : e.isLogical = false)
    (hattempt : p.attempt (attempts + 1) = true) (hignore : p.getRetryType e = RetryType.ignore) (fuel : Nat) :
    ∃ st, queryExecutorDo (some p) outcome (fuel + 1) (sh :: rest) attempts = some (.attempt attempts (some e), st) := by
  refine ⟨⟨some sh, rest, attempts + 1, some e⟩, Fuel.loop_done ?_ fuel⟩
  rw [List.head?_cons, List.tail_cons, @doRound_attempt η ε (some p) outcome ⟨some sh, rest, attempts, none⟩ sh rfl hsh]
  unfold afterAttempt
  dsimp only
  rw [hfail, Option.map_some, hlogical]
  dsimp only
  rw [hattempt, hignore]
  rfl

/-- An up host with a pool and a connection. -/
def usableHost : SelectedHost Unit := ⟨some (), true, true, true⟩

/-- A write timeout of a `SIMPLE` write that one replica acknowledged. -/
def simpleWriteTimeout : QueryError ErrorDetails := .other (.writeTimeout 1 1 2 (strBytes "SIMPLE"))

/-- `DowngradingConsistencyRetryPolicy` answers `Ignore` to such a timeout, and `do` returns it. -/
theorem downgrading_ignores_write_timeout :
    usableHost.usable = true ∧ simpleWriteTimeout.isLogical = false ∧
      (downgradingConsistencyRetryPolicy [1]).attempt 1 = true ∧
      (downgradingConsistencyRetryPolicy [1]).getRetryType simpleWriteTimeout = RetryType.ignore ∧
      ∃ st, queryExecutorDo (some (downgradingConsistencyRetryPolicy [1])) (fun _ => some simpleWriteTimeout) 1
          [usableHost] 0 = some (.attempt 0 (some simpleWriteTimeout), st) := by
  have hignore : (downgradingConsistencyRetryPolicy [1]).getRetryType simpleWriteTimeout = RetryType.ignore := by
    decide
  exact ⟨rfl, rfl, rfl, hignore, queryExecutorDo_ignore rfl [] rfl rfl rfl hignore 0⟩

/-! ### Runs: the last attempt -/

/-- What the passes keep between them: every attempt made from `attempts₀` on failed. -/
def AllFailed (attempts₀ : Nat) (st : DoState η ε) : Prop :=
  attempts₀ ≤ st.attempts ∧ ∀ k, attempts₀ ≤ k → k < st.attempts → (outcome k).isSome

/-- What `do` returns, from `attempts₀` on: every attempt but the last failed, and an attempt's
`Iter` returned is the last one's. -/
def LastAttempt (attempts₀ : Nat) (r : AttemptIter ε × DoState η ε) : Prop :=
  attempts₀ ≤ r.2.attempts ∧ (∀ k, attempts₀ ≤ k → k + 1 < r.2.attempts → (outcome k).isSome) ∧
    ∀ n err, r.1 = .attempt n err → n + 1 = r.2.attempts ∧ err = outcome n

theorem doRound_allFailed {attempts₀ : Nat} {st st' : DoState η ε} (hs : AllFailed outcome attempts₀ st)
    (h : doRound rt outcome st = .again st') : AllFailed outcome attempts₀ st' := by
  cases hsel : st.selectedHost with
  | none => rw [doRound_none rt outcome hsel] at h; cases h
  | some sh =>
    cases hu : sh.usable with
    | false =>
      rw [doRound_skip rt outcome hsel hu] at h
      cases h
      exact hs
    | true =>
      rw [doRound_attempt rt outcome hsel hu] at h
      obtain ⟨p, e, -, he, -, -, hst⟩ := afterAttempt_again rt h
      -- another pass follows the failure of the attempt just made
      have hatt : st'.attempts = st.attempts + 1 := by
        rcases hst with ⟨-, rfl⟩ | ⟨-, rfl⟩ <;> rfl
      refine ⟨by rw [hatt]; exact Nat.le_succ_of_le hs.1, fun k hk hlt => ?_⟩
      rcases Nat.lt_succ_iff_lt_or_eq.mp (hatt ▸ hlt) with hlt' | rfl
      · exact hs.2 k hk hlt'
      · rw [he]; rfl

theorem doRound_lastAttempt {attempts₀ : Nat} {st st' : DoState η ε} {r : AttemptIter ε}
    (hs : AllFailed outcome attempts₀ st) (h : doRound rt outcome st = .done r st') :
    LastAttempt outcome attempts₀ (r, st') := by
  cases hsel : st.selectedHost with
  | none =>
    -- out of hosts: the error is a new `Iter`'s
    rw [doRound_none rt outcome hsel] at h
    cases h
    exact ⟨hs.1, fun k hk hlt => hs.2 k hk (Nat.lt_of_succ_lt hlt), fun n err hr => nomatch hr⟩
  | some sh =>
    cases hu : sh.usable with
    | false => rw [doRound_skip rt outcome hsel hu] at h; cases h
    | true =>
      rw [doRound_attempt rt outcome hsel hu] at h
      obtain ⟨hr, hatt⟩ := afterAttempt_done rt h
      have h₁ := hs.1
      dsimp only at hatt
      refine ⟨by dsimp only; omega, fun k hk hlt => hs.2 k hk (by dsimp only at hlt; omega),
        fun n err hn => ?_⟩
      rcases hr with rfl | rfl
      · cases hn
        exact ⟨hatt.symm, rfl⟩
      · cases hn

/-- **The first success ends the loop**: the `Iter` of an attempt that `do` returns is the one of
the last attempt it made, with that attempt's outcome, and every attempt before it failed. -/
theorem queryExecutorDo_last_attempt {fuel : Nat} {hosts : List (SelectedHost η)} {attempts : Nat}
    {r : AttemptIter ε} {st : DoState η ε} (h : queryExecutorDo rt outcome fuel hosts attempts = some (r, st)) :
    attempts ≤ st.attempts ∧ (∀ k, attempts ≤ k → k + 1 < st.attempts → (outcome k).isSome) ∧
      ∀ n err, r = .attempt n err → n + 1 = st.attempts ∧ err = outcome n :=
  Fuel.loop_inv (AllFailed outcome attempts) (LastAttempt outcome attempts)
    (fun _ _ _ hs hr => doRound_lastAttempt rt outcome hs hr)
    (fun _ _ hs hr => doRound_allFailed rt outcome hs hr) fuel
    ⟨Nat.le_refl _, fun _ hk hlt => absurd hlt (Nat.not_lt.mpr hk)⟩ h

/-! ### Runs: how many attempts -/

/-- A last pass makes at most one more attempt. -/
theorem doRound_attempts_done {N : Nat} {st st' : DoState η ε} {r : AttemptIter ε} (hs : st.attempts ≤ N)
    (h : doRound rt outcome st = .done r st') : st'.attempts ≤ N + 1 := by
  cases hsel : st.selectedHost with
  | none =>
    rw [doRound_none rt outcome hsel] at h
    cases h
    omega
  | some sh =>
    cases hu : sh.usable with
    | false => rw [doRound_skip rt outcome hsel hu] at h; cases h
    | true =>
      rw [doRound_attempt rt outcome hsel hu] at h
      have hatt := (afterAttempt_done rt h).2
      dsimp only at hatt
      omega

section Bounded

variable {N : Nat} (hN : ∀ p ∈ rt, ∀ k, p.attempt k = true → k ≤ N)

include hN

/-- A pass that asks for another after an attempt was allowed it by `Attempt`. -/
theorem doRound_attempts_again {st st' : DoState η ε} (h : doRound rt outcome st = .again st') :
    st'.attempts = st.attempts ∧ st'.hostsLeft + 1 = st.hostsLeft ∨
      st'.attempts = st.attempts + 1 ∧ st'.attempts ≤ N ∧ st'.hostsLeft ≤ st.hostsLeft := by
  cases hsel : st.selectedHost with
  | none => rw [doRound_none rt outcome hsel] at h; cases h
  | some sh =>
    have hsome : st.selectedHost.isSome = true := by rw [hsel]; rfl
    cases hu : sh.usable with
    | false =>
      rw [doRound_skip rt outcome hsel hu] at h
      cases h
      exact .inl ⟨rfl, hostsLeft_next hsome⟩
    | true =>
      rw [doRound_attempt rt outcome hsel hu] at h
      obtain ⟨p, e, hp, -, -, ha, hst⟩ := afterAttempt_again rt h
      have hle := hN p (Option.mem_def.mpr hp) _ ha
      right
      rcases hst with ⟨-, rfl⟩ | ⟨-, rfl⟩
      · -- `Retry`: the same host again
        exact ⟨rfl, hle, Nat.le_refl _⟩
      · -- `RetryNextHost`
        refine ⟨rfl, hle, ?_⟩
        show st.next.hostsLeft ≤ st.hostsLeft
        have := hostsLeft_next hsome
        omega

/-- **At most `N + 1` attempts**: under a policy whose `Attempt` holds only up to `N`, `do`
started with at most `N` attempts made ends with at most `N + 1`. -/
theorem queryExecutorDo_attempts_le {fuel : Nat} {hosts : List (SelectedHost η)} {attempts : Nat}
    (ha : attempts ≤ N) {r : AttemptIter ε} {st : DoState η ε}
    (h : queryExecutorDo rt outcome fuel hosts attempts = some (r, st)) : st.attempts ≤ N + 1 :=
  Fuel.loop_inv (fun s : DoState η ε => s.attempts ≤ N) (fun x => x.2.attempts ≤ N + 1)
    (fun _ _ _ hs hr => doRound_attempts_done rt outcome hs hr)
    (fun _ _ hs hr => by
      rcases doRound_attempts_again rt outcome hN hr with ⟨he, -⟩ | ⟨-, hle, -⟩
      · rw [he]; exact hs
      · exact hle)
    fuel ha h

/-- **The loop returns**: under such a policy, more passes than hosts and attempts left suffice. -/
theorem queryExecutorDo_returns {fuel : Nat} {hosts : List (SelectedHost η)} {attempts : Nat}
    (hfuel : hosts.length + (N + 1 - attempts) < fuel) :
    (queryExecutorDo rt outcome fuel hosts attempts).isSome := by
  refine Fuel.loop_isSome (fun s => s.hostsLeft + (N + 1 - s.attempts)) (fun s s' h => ?_) fuel _
    (by rw [hostsLeft_start]; exact hfuel)
  show s'.hostsLeft + (N + 1 - s'.attempts) < s.hostsLeft + (N + 1 - s.attempts)
  rcases doRound_attempts_again rt outcome hN h with ⟨he, hl⟩ | ⟨he, hle, hl⟩ <;> omega

/-- **`do` under a bounded policy**: with more passes than hosts and attempts left, `do`
returns, having made at most `N + 1` attempts; the `Iter` of an attempt it returns is the one
of its last attempt, and every attempt before that one failed. -/
theorem queryExecutorDo_bounded {fuel : Nat} {hosts : List (SelectedHost η)} {attempts : Nat}
    (ha : attempts ≤ N) (hfuel : hosts.length + (N + 1 - attempts) < fuel) :
    ∃ r st, queryExecutorDo rt outcome fuel hosts attempts = some (r, st) ∧ st.attempts ≤ N + 1 ∧
      (∀ k, attempts ≤ k → k + 1 < st.attempts → (outcome k).isSome) ∧
      ∀ n err, r = .attempt n err → n + 1 = st.attempts ∧ err = outcome n := by
  obtain ⟨⟨r, st⟩, h⟩ := Option.isSome_iff_exists.mp (queryExecutorDo_returns rt outcome hN hfuel)
  obtain ⟨-, hfailed, hlast⟩ := queryExecutorDo_last_attempt rt outcome h
  exact ⟨r, st, h, queryExecutorDo_attempts_le rt outcome hN ha h, hfailed, hlast⟩

end Bounded

/-- `SimpleRetryPolicy{N}` and `ExponentialBackoffRetryPolicy{N}` allow an attempt only while
`Attempts()` is at most `N`. -/
theorem simpleRetryPolicy_attempt_le {numRetries : Int} {k : Nat}
    (h : (simpleRetryPolicy numRetries : RetryPolicy ε).attempt k = true) : k ≤ numRetries.toNat := by
  have hk : (k : Int) ≤ numRetries := of_decide_eq_true h
  omega

/-- `SimpleRetryPolicy{2}` over three usable hosts whose attempts all time out: seven passes
suffice. -/
theorem queryExecutorDo_three_hosts_returns :
    (∀ p ∈ some (simpleRetryPolicy 2 : RetryPolicy ErrorDetails), ∀ k, p.attempt k = true → k ≤ 2) ∧
      0 ≤ 2 ∧ [usableHost, usableHost, usableHost].length + (2 + 1 - 0) < 7 ∧
      ∃ r st, queryExecutorDo (some (simpleRetryPolicy 2)) (fun _ => some simpleWriteTimeout) 7
          [usableHost, usableHost, usableHost] 0 = some (r, st) ∧ st.attempts ≤ 2 + 1 ∧
        (∀ k, 0 ≤ k → k + 1 < st.attempts → (some simpleWriteTimeout).isSome) ∧
        ∀ n err, r = .attempt n err → n + 1 = st.attempts ∧ err = some simpleWriteTimeout :=
  have hN : ∀ p ∈ some (simpleRetryPolicy 2 : RetryPolicy ErrorDetails), ∀ k, p.attempt k = true → k ≤ 2 :=
    fun p hp k hk => by cases hp; exact simpleRetryPolicy_attempt_le hk
  ⟨hN, by decide, by decide, queryExecutorDo_bounded (some (simpleRetryPolicy 2)) (fun _ => some simpleWriteTimeout) hN
    (by decide) (by decide)⟩

/-- **`SimpleRetryPolicy{N}` makes at most `N + 1` attempts** from `Attempts() = 0`, and so does
`ExponentialBackoffRetryPolicy{N}`, which is the same policy; a negative `N` allows the first
one. -/
theorem simpleRetryPolicy_attempts (numRetries : Int) :
    (exponentialBackoffRetryPolicy numRetries : RetryPolicy ε) = simpleRetryPolicy numRetries ∧
      ∀ {fuel : Nat} {hosts : List (SelectedHost η)} {r : AttemptIter ε} {st : DoState η ε},
        queryExecutorDo (some (simpleRetryPolicy numRetries)) outcome fuel hosts 0 = some (r, st) →
          st.attempts ≤ numRetries.toNat + 1 :=
  ⟨exponentialBackoffRetryPolicy_eq numRetries, fun h =>
    queryExecutorDo_attempts_le (some (simpleRetryPolicy numRetries)) outcome
      (fun p hp k hk => by cases hp; exact simpleRetryPolicy_attempt_le hk) (Nat.zero_le _) h⟩

/-- `SimpleRetryPolicy{2}` over four hosts whose attempts all time out stops after three
attempts. -/
theorem simpleRetryPolicy_two_retries :
    ∃ r st, queryExecutorDo (some (simpleRetryPolicy 2)) (fun _ => some simpleWriteTimeout) 10
        [usableHost, usableHost, usableHost, usableHost] 0 = some (r, st) ∧
      st.attempts ≤ (2 : Int).toNat + 1 :=
  have h : queryExecutorDo (some (simpleRetryPolicy 2)) (fun _ => some simpleWriteTimeout) 10
      [usableHost, usableHost, usableHost, usableHost] 0 = some (_, _) := rfl
  ⟨_, _, h, (simpleRetryPolicy_attempts (fun _ => some simpleWriteTimeout) 2).2 h⟩

end Do

end Gocql
