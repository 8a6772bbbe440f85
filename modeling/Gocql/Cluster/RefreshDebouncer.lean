import Gocql.Support.Chan

/-!
# Cluster — the ring-refresh debouncer

`refreshDebouncer` runs `refreshFn`, the ring refresh, in a goroutine of its own, the flusher,
which waits in a `select` for a request on `refreshNowCh`, a tick of its timer, or `quit`.
`debounce` arms the timer.  `refreshNow` makes an `errorBroadcaster` when there is none, puts a
request in the one-slot `refreshNowCh`, and registers a new listener channel in the
broadcaster.  `stop` sets `stopped` and meets the flusher on the unbuffered `quit`.  The
flusher, once woken, takes `d.mu`: when stopped it closes the listeners of the current
broadcaster and returns; otherwise it drains both request channels, takes the broadcaster out
of `d.broadcaster`, and, with the mutex released, runs `refreshFn` and broadcasts its error to
the listeners of the broadcaster it took.  `Session.refreshRing` is `refreshNow` and one
receive on the listener.

Each locked section and each channel operation of the four goroutines is one event of a
`Debouncer`, in any interleaving.  The model records for each listener the broadcaster it was
registered in and the number of runs of `refreshFn` begun before it, and tags each value sent
with the run it comes from.  The timer is Go's before 1.23, the module's version: `Stop` does
not drain `timer.C`.

* `Debouncer.step`, `Debouncer.run`.
* `DebouncerInv`: the invariant of every run from `Debouncer.init`.
* `listeners_served_once`: each listener gets at most one value, and then is closed, and is
  closed once; a value it gets comes from a run of `refreshFn` begun after it was registered.
* `fresh_listener_listed`: a listener that got nothing is in the list of `d.broadcaster` or in
  the one the flusher is about to broadcast to; `debouncer_listeners` states the two.
* `exited_run_listeners`: once the flusher has returned, no step touches a listener.
* `refreshRing_blocks_after_stop`: after `stop` has returned, `refreshNow` hands out a listener
  that no interleaving serves, so `Session.refreshRing` blocks for ever.
* `stop_blocks_after_wake`: a flusher woken by a request before `stop` sends on `quit` returns
  without receiving from `quit`, and `stop` blocks for ever on its send.
-/

namespace Gocql

variable {ε : Type}

/-! ### The state -/

/-- Where the flusher goroutine is. -/
inductive FlusherPc where
  /-- in the `select` at the top of its loop -/
  | select
  /-- woken by a case of the `select`, about to take `d.mu` -/
  | woke
  /-- in run `run` of `refreshFn`, holding the broadcaster it took out of `d.broadcaster` -/
  | refreshing (cur : Option Nat) (run : Nat)
  /-- returned -/
  | exited
  deriving DecidableEq, Repr

/-- Where the goroutine that called `stop` is. -/
inductive StopPc where
  | idle
  /-- blocked on `d.quit <- struct{}{}` -/
  | sending
  /-- past the send, before `close(d.quit)` -/
  | synced
  | returned
  deriving DecidableEq, Repr

/-- A channel `refreshNow` returned, with the broadcaster it was registered in and the number of
runs of `refreshFn` begun before; each value sent is tagged with the run it comes from. -/
structure Listener (ε : Type) where
  chan : Chan (Nat × ε)
  broadcaster : Nat
  registeredAt : Nat

/-- A `refreshDebouncer`, its timer and channels, the broadcasters and listeners made so far,
and where its goroutines are.  Broadcasters and listeners are named by the order they were
made. -/
structure Debouncer (ε : Type) where
  stopped : Bool
  /-- `d.broadcaster` -/
  broadcaster : Option Nat
  /-- the timer is running -/
  armed : Bool
  /-- `timer.C` holds a tick -/
  fired : Bool
  /-- `refreshNowCh` holds a request -/
  requested : Bool
  quitClosed : Bool
  /-- the `listeners` slice of each broadcaster -/
  broadcasters : Nat → List Nat
  made : Nat
  listeners : Nat → Listener ε
  handedOut : Nat
  /-- the runs of `refreshFn` begun -/
  runs : Nat
  flusher : FlusherPc
  stopper : StopPc

namespace Debouncer

/-- `newRefreshDebouncer`: the timer made and stopped, the flusher started. -/
def init : Debouncer ε where
  stopped := false
  broadcaster := none
  armed := false
  fired := false
  requested := false
  quitClosed := false
  broadcasters := fun _ => []
  made := 0
  listeners := fun _ => ⟨Chan.empty, 0, 0⟩
  handedOut := 0
  runs := 0
  flusher := .select
  stopper := .idle

/-- `b.newListener()` on broadcaster `b`: a new channel, appended to `b.listeners`. -/
def addListener (d : Debouncer ε) (b : Nat) : Debouncer ε :=
  { d with
    broadcasters := Function.update d.broadcasters b (d.broadcasters b ++ [d.handedOut])
    listeners := Function.update d.listeners d.handedOut ⟨Chan.empty, b, d.runs⟩
    handedOut := d.handedOut + 1 }

/-- `refreshNow`, under `d.mu`: a broadcaster and a request when there is no broadcaster (the
send on `refreshNowCh` falls to `default` when a request is already there), then a listener. -/
def refreshNow (d : Debouncer ε) : Debouncer ε :=
  match d.broadcaster with
  | some b => d.addListener b
  | none =>
    ({ d with broadcaster := some d.made, made := d.made + 1, requested := true } : Debouncer ε).addListener
      d.made

/-- The loop `broadcast` and `stop` of an `errorBroadcaster` share: nothing when it has no
listener, otherwise `f` on each of them and the slice emptied. -/
def eachListener (d : Debouncer ε) (b : Nat) (f : Listener ε → Listener ε) : Debouncer ε :=
  if d.broadcasters b = [] then d
  else
    { d with
      broadcasters := Function.update d.broadcasters b []
      listeners := Chan.forEach (d.broadcasters b) f d.listeners }

/-- `errorBroadcaster.broadcast(err)`, the error of run `k`: send it on each listener, then close. -/
def broadcast (d : Debouncer ε) (b k : Nat) (err : ε) : Debouncer ε :=
  d.eachListener b fun L => { L with chan := (L.chan.send (k, err)).close }

/-- `errorBroadcaster.stop()`: close each listener. -/
def stopBroadcaster (d : Debouncer ε) (b : Nat) : Debouncer ε :=
  d.eachListener b fun L => { L with chan := L.chan.close }

/-- The flusher's section under `d.mu` after its `select`. -/
def flush (d : Debouncer ε) : Debouncer ε :=
  if d.stopped then
    let d' := (match d.broadcaster with
      | some b => d.stopBroadcaster b
      | none => d)
    { d' with broadcaster := none, armed := false, flusher := .exited }
  else
    -- both request channels drained, the timer stopped, the broadcaster taken
    { d with
      requested := false, fired := false, armed := false, broadcaster := none
      flusher := .refreshing d.broadcaster d.runs, runs := d.runs + 1 }

end Debouncer

/-- One step of one goroutine: a call of `debounce` or `refreshNow`, the timer firing, the two
steps of `stop` (its locked section, and `close(d.quit)` after the send), and the flusher's
cases of `select`, its locked section, and the return of `refreshFn` with its error. -/
inductive DebouncerEvent (ε : Type) where
  | debounce
  | refreshNow
  | timerFires
  | stop
  | closeQuit
  | wakeRequest
  | wakeTimer
  | wakeQuit
  | lock
  | refreshed (err : ε)

namespace Debouncer

/-- The step of an event, or `none` when it cannot happen now. -/
def step (d : Debouncer ε) : DebouncerEvent ε → Option (Debouncer ε)
  | .debounce => some (if d.stopped then d else { d with armed := true })
  | .refreshNow => some d.refreshNow
  | .timerFires => if d.armed then some { d with armed := false, fired := true } else none
  | .stop =>
    if d.stopper = .idle then
      some (if d.stopped then { d with stopper := .returned } else { d with stopped := true, stopper := .sending })
    else none
  | .closeQuit => if d.stopper = .synced then some { d with quitClosed := true, stopper := .returned } else none
  | .wakeRequest =>
    if d.flusher = .select ∧ d.requested then some { d with requested := false, flusher := .woke } else none
  | .wakeTimer => if d.flusher = .select ∧ d.fired then some { d with fired := false, flusher := .woke } else none
  | .wakeQuit =>
    if d.flusher = .select then
      -- the send of `stop` meets the receive; once `quit` is closed the receive never blocks
      if d.stopper = .sending then some { d with stopper := .synced, flusher := .woke }
      else if d.quitClosed then some { d with flusher := .woke }
      else none
    else none
  | .lock => if d.flusher = .woke then some d.flush else none
  | .refreshed err =>
    match d.flusher with
    | .refreshing cur k =>
      let d' := (match cur with
        | some b => d.broadcast b k err
        | none => d)
      some { d' with flusher := .select }
    | _ => none

/-- A run: the events in turn, each of which has to be able to happen. -/
def run : Debouncer ε → List (DebouncerEvent ε) → Option (Debouncer ε)
  | d, [] => some d
  | d, e :: es => (d.step e).bind fun d' => d'.run es

/-- What `Session.refreshRing` returns from its receive on listener `l`: the error sent to it,
the error for a listener closed with nothing sent, or `none` while the receive blocks. -/
def refreshRingResult (d : Debouncer ε) (l : Nat) : Option (Except String ε) :=
  match (d.listeners l).chan.recv? with
  | some (some (_, err)) => some (.ok err)
  | some none => some (.error "could not refresh ring because stop was requested")
  | none => none

end Debouncer


/-! ### Spec lemmas -/

namespace Debouncer

variable {d : Debouncer ε}

@[simp] theorem addListener_broadcasters (b : Nat) :
    (d.addListener b).broadcasters = Function.update d.broadcasters b (d.broadcasters b ++ [d.handedOut]) := rfl

@[simp] theorem addListener_listeners (b : Nat) :
    (d.addListener b).listeners = Function.update d.listeners d.handedOut ⟨Chan.empty, b, d.runs⟩ := rfl

@[simp] theorem addListener_handedOut (b : Nat) : (d.addListener b).handedOut = d.handedOut + 1 := rfl

@[simp] theorem addListener_runs (b : Nat) : (d.addListener b).runs = d.runs := rfl
@[simp] theorem addListener_made (b : Nat) : (d.addListener b).made = d.made := rfl
@[simp] theorem addListener_broadcaster (b : Nat) : (d.addListener b).broadcaster = d.broadcaster := rfl
@[simp] theorem addListener_flusher (b : Nat) : (d.addListener b).flusher = d.flusher := rfl
@[simp] theorem addListener_stopper (b : Nat) : (d.addListener b).stopper = d.stopper := rfl

/-- Over a slice with no repeats, `eachListener` applies `f` to each listed listener once and
empties the slice. -/
theorem eachListener_eq {b : Nat} (hn : (d.broadcasters b).Nodup) (f : Listener ε → Listener ε) :
    d.eachListener b f =
      { d with
        broadcasters := Function.update d.broadcasters b []
        listeners := fun l => if l ∈ d.broadcasters b then f (d.listeners l) else d.listeners l } := by
  unfold eachListener
  split
  · next h =>
    have hb : Function.update d.broadcasters b [] = d.broadcasters := by
      rw [Function.update_eq_self_iff]; exact h.symm
    rw [hb, h]
    rfl
  · congr 1
    funext l
    exact Chan.forEach_of_nodup hn f d.listeners l

end Debouncer

/-! ### The invariant -/

namespace Listener

/-- Nothing sent, not closed. -/
def Fresh (L : Listener ε) : Prop := L.chan.sent = [] ∧ L.chan.closes = 0

/-- Closed once, after at most one value, which comes from a run of `refreshFn` begun after the
listener was registered. -/
def Served (L : Listener ε) : Prop :=
  L.chan.closes = 1 ∧ (L.chan.sent = [] ∨ ∃ k err, L.chan.sent = [(k, err)] ∧ L.registeredAt ≤ k)

theorem not_fresh_send_close (L : Listener ε) (a : Nat × ε) :
    ¬ Fresh { L with chan := (L.chan.send a).close } := by
  rintro ⟨-, h⟩
  simp [Chan.close] at h

end Listener

/-- What every run keeps: the slices of the broadcasters list fresh listeners of their own, once
each, and every fresh listener is listed; a listener is fresh or served; a slice with listeners
belongs to `d.broadcaster` or to the broadcaster the flusher took, whose listeners were all
registered before its run began. -/
structure DebouncerInv (d : Debouncer ε) : Prop where
  listed : ∀ b l, l ∈ d.broadcasters b →
    l < d.handedOut ∧ (d.listeners l).broadcaster = b ∧ (d.listeners l).Fresh
  nodup : ∀ b, (d.broadcasters b).Nodup
  fresh_listed : ∀ l, l < d.handedOut → (d.listeners l).Fresh →
    l ∈ d.broadcasters (d.listeners l).broadcaster
  served : ∀ l, l < d.handedOut → (d.listeners l).Fresh ∨ (d.listeners l).Served
  registered : ∀ l, l < d.handedOut → (d.listeners l).registeredAt ≤ d.runs
  unmade : ∀ b, d.made ≤ b → d.broadcasters b = []
  current_lt : ∀ b, d.broadcaster = some b → b < d.made
  taken : ∀ b k, d.flusher = .refreshing (some b) k →
    b < d.made ∧ d.broadcaster ≠ some b ∧ ∀ l ∈ d.broadcasters b, (d.listeners l).registeredAt ≤ k
  active : ∀ b, d.broadcasters b ≠ [] →
    d.broadcaster = some b ∨ ∃ k, d.flusher = .refreshing (some b) k

namespace DebouncerInv

variable {d d' : Debouncer ε}

theorem init : DebouncerInv (Debouncer.init : Debouncer ε) where
  listed _ _ h := absurd h List.not_mem_nil
  nodup _ := List.nodup_nil
  fresh_listed _ h := absurd h (Nat.not_lt_zero _)
  served _ h := absurd h (Nat.not_lt_zero _)
  registered _ h := absurd h (Nat.not_lt_zero _)
  unmade _ _ := rfl
  current_lt _ h := by cases h
  taken _ _ h := by cases h
  active _ h := absurd rfl h

/-- A step that leaves the broadcasters and listeners alone, and moves the flusher only between
places where it holds no broadcaster, keeps the invariant. -/
theorem frame (h : DebouncerInv d) (hb : d'.broadcasters = d.broadcasters) (hl : d'.listeners = d.listeners)
    (hn : d'.handedOut = d.handedOut) (hr : d'.runs = d.runs) (hm : d'.made = d.made)
    (hc : d'.broadcaster = d.broadcaster)
    (hf : ∀ b k, d'.flusher = .refreshing (some b) k ↔ d.flusher = .refreshing (some b) k) :
    DebouncerInv d' where
  listed b l hm' := by rw [hb] at hm'; rw [hl, hn]; exact h.listed b l hm'
  nodup b := hb ▸ h.nodup b
  fresh_listed l hlt hfr := by rw [hl, hn] at *; rw [hb]; exact h.fresh_listed l hlt hfr
  served l hlt := by rw [hl]; exact h.served l (hn ▸ hlt)
  registered l hlt := by rw [hl, hr]; exact h.registered l (hn ▸ hlt)
  unmade b hle := by rw [hb]; exact h.unmade b (hm ▸ hle)
  current_lt b hcb := by rw [hm]; exact h.current_lt b (hc ▸ hcb)
  taken b k hk := by rw [hm, hc, hb, hl]; exact h.taken b k ((hf b k).mp hk)
  active b hne := by
    rw [hc]
    simp only [hf]
    exact h.active b (hb ▸ hne)

end DebouncerInv

namespace DebouncerInv

variable {d : Debouncer ε}

theorem lt_of_mem (h : DebouncerInv d) {b l : Nat} (hl : l ∈ d.broadcasters b) : l < d.handedOut :=
  (h.listed b l hl).1

/-- A listener registered in `d.broadcaster`. -/
theorem addListener (h : DebouncerInv d) {b : Nat} (hb : d.broadcaster = some b) :
    DebouncerInv (d.addListener b) := by
  have hbm := h.current_lt b hb
  -- the new listener is `d.handedOut`: it is in no slice yet, and every old one is below it
  have hnew : ∀ c, d.handedOut ∉ d.broadcasters c := fun c hc => Nat.lt_irrefl _ (h.lt_of_mem hc)
  have hold : ∀ l, l < d.handedOut → (d.addListener b).listeners l = d.listeners l := fun l hl => by
    simp [Function.update_of_ne (Nat.ne_of_lt hl)]
  have hnewL : (d.addListener b).listeners d.handedOut = ⟨Chan.empty, b, d.runs⟩ := by simp
  have hslice : ∀ c, (d.addListener b).broadcasters c =
      if c = b then d.broadcasters b ++ [d.handedOut] else d.broadcasters c := fun c => by
    by_cases hc : c = b
    · subst hc; simp
    · simp [hc]
  constructor
  · intro c l hl
    rw [hslice] at hl
    split at hl
    · next hc =>
      subst hc
      rcases List.mem_append.mp hl with hl | hl
      · obtain ⟨hlt, hbc, hfr⟩ := h.listed c l hl
        rw [hold l hlt]
        exact ⟨by simp; omega, hbc, hfr⟩
      · obtain rfl := List.mem_singleton.mp hl
        rw [hnewL]
        exact ⟨by simp, rfl, rfl, rfl⟩
    · obtain ⟨hlt, hbc, hfr⟩ := h.listed c l hl
      rw [hold l hlt]
      exact ⟨by simp; omega, hbc, hfr⟩
  · intro c
    rw [hslice]
    split
    · next hc =>
      subst hc
      exact (List.nodup_append.mpr ⟨h.nodup c, by simp,
        fun a ha b hb' => by obtain rfl := List.mem_singleton.mp hb'; exact fun e => hnew c (e ▸ ha)⟩)
    · exact h.nodup c
  · intro l hlt hfr
    simp only [Debouncer.addListener_handedOut] at hlt
    rcases Nat.lt_succ_iff_lt_or_eq.mp hlt with hlt | rfl
    · rw [hold l hlt] at hfr ⊢
      rw [hslice]
      split
      · next hc => rw [← hc]; exact List.mem_append_left _ (h.fresh_listed l hlt hfr)
      · exact h.fresh_listed l hlt hfr
    · rw [hnewL, hslice, if_pos rfl]
      exact List.mem_append_right _ (List.mem_singleton_self _)
  · intro l hlt
    simp only [Debouncer.addListener_handedOut] at hlt
    rcases Nat.lt_succ_iff_lt_or_eq.mp hlt with hlt | rfl
    · rw [hold l hlt]; exact h.served l hlt
    · rw [hnewL]; exact .inl ⟨rfl, rfl⟩
  · intro l hlt
    simp only [Debouncer.addListener_handedOut] at hlt
    rcases Nat.lt_succ_iff_lt_or_eq.mp hlt with hlt | rfl
    · rw [hold l hlt]; exact h.registered l hlt
    · rw [hnewL]; exact Nat.le_refl _
  · intro c hc
    rw [hslice, if_neg (by simp at hc; omega)]
    exact h.unmade c hc
  · exact h.current_lt
  · intro c k hk
    obtain ⟨hcm, hne, hreg⟩ := h.taken c k hk
    have hcb : c ≠ b := fun e => hne (e ▸ hb)
    refine ⟨hcm, by simpa using hne, fun l hl => ?_⟩
    rw [hslice, if_neg hcb] at hl
    rw [hold l (h.lt_of_mem hl)]
    exact hreg l hl
  · intro c hne
    rw [hslice] at hne
    split at hne
    · next hc => exact .inl (hc ▸ hb)
    · exact h.active c hne

end DebouncerInv

namespace DebouncerInv

variable {d : Debouncer ε}

/-- With no broadcaster and the flusher holding none, no slice has a listener. -/
theorem slices_empty (h : DebouncerInv d) (hc : d.broadcaster = none)
    (hf : ∀ b k, d.flusher ≠ .refreshing (some b) k) (b : Nat) : d.broadcasters b = [] := by
  by_contra hne
  rcases h.active b hne with hb | ⟨k, hk⟩
  · rw [hc] at hb; cases hb
  · exact hf b k hk

/-- With every slice empty, no listener is fresh. -/
theorem not_fresh (h : DebouncerInv d) (he : ∀ b, d.broadcasters b = []) {l : Nat} (hl : l < d.handedOut) :
    ¬ (d.listeners l).Fresh := fun hfr => by
  have := h.fresh_listed l hl hfr
  rw [he] at this
  exact List.not_mem_nil this

theorem refreshNow (h : DebouncerInv d) : DebouncerInv d.refreshNow := by
  unfold Debouncer.refreshNow
  split
  · next b hb => exact h.addListener hb
  · next hc =>
    -- a new broadcaster `d.made`, whose slice is empty
    apply DebouncerInv.addListener _ rfl
    exact {
      listed := h.listed
      nodup := h.nodup
      fresh_listed := h.fresh_listed
      served := h.served
      registered := h.registered
      unmade := fun b hb => h.unmade b (by simp at hb; omega)
      current_lt := fun b hb => by cases hb; simp
      taken := fun b k hk => by
        obtain ⟨hbm, -, hreg⟩ := h.taken b k hk
        exact ⟨by simp; omega, (fun e => by cases e; omega), hreg⟩
      active := fun b hne => by
        rcases h.active b hne with hb | hk
        · rw [hc] at hb; cases hb
        · exact .inr hk }

end DebouncerInv

namespace DebouncerInv

variable {d : Debouncer ε}

/-- A state with no listener in any slice and every listener served, as `stop` leaves it. -/
theorem quiet (he : ∀ b, d.broadcasters b = []) (hs : ∀ l, l < d.handedOut → (d.listeners l).Served)
    (hr : ∀ l, l < d.handedOut → (d.listeners l).registeredAt ≤ d.runs) (hc : d.broadcaster = none)
    (hf : ∀ b k, d.flusher ≠ .refreshing (some b) k) : DebouncerInv d where
  listed b l hl := by rw [he] at hl; exact absurd hl List.not_mem_nil
  nodup b := by rw [he]; exact List.nodup_nil
  fresh_listed l hl hfr := by
    obtain ⟨h1, -⟩ := hs l hl
    rw [hfr.2] at h1
    cases h1
  served l hl := .inr (hs l hl)
  registered := hr
  unmade b _ := he b
  current_lt b hb := by rw [hc] at hb; cases hb
  taken b k hk := absurd hk (hf b k)
  active b hne := absurd (he b) hne

/-- A fresh listener closed by `stop` is served. -/
theorem served_close {L : Listener ε} (hL : L.Fresh) : Listener.Served { L with chan := L.chan.close } := by
  refine ⟨?_, .inl hL.1⟩
  show L.chan.closes + 1 = 1
  rw [hL.2]

/-- A fresh listener sent the error of a run begun after it, and closed, is served. -/
theorem served_send_close {L : Listener ε} (hL : L.Fresh) {k : Nat} (err : ε) (hk : L.registeredAt ≤ k) :
    Listener.Served { L with chan := (L.chan.send (k, err)).close } := by
  refine ⟨?_, .inr ⟨k, err, ?_, hk⟩⟩
  · show L.chan.closes + 1 = 1
    rw [hL.2]
  · show L.chan.sent ++ [(k, err)] = [(k, err)]
    rw [hL.1, List.nil_append]

/-- The flusher's section under `d.mu`, when stopped: it closes what `d.broadcaster` lists and
returns. -/
theorem flush_stopped (h : DebouncerInv d) (hw : d.flusher = .woke) (hs : d.stopped = true) :
    DebouncerInv d.flush := by
  have hnr : ∀ b k, d.flusher ≠ .refreshing (some b) k := fun b k e => by rw [hw] at e; cases e
  rw [Debouncer.flush, if_pos hs]
  split
  · next b hb =>
    -- only the slice of `b` has listeners; those are closed, the others were served already
    have hother : ∀ c, c ≠ b → d.broadcasters c = [] := fun c hcb => by
      by_contra hne
      rcases h.active c hne with hc | ⟨k, hk⟩
      · exact hcb (Option.some.inj (hc.symm.trans hb))
      · exact hnr c k hk
    rw [Debouncer.stopBroadcaster, Debouncer.eachListener_eq (h.nodup b)]
    apply quiet
    · intro c
      by_cases hcb : c = b
      · subst hcb; simp
      · simp [Function.update_of_ne hcb, hother c hcb]
    · intro l hl
      simp only at hl ⊢
      split
      · next hm => exact served_close (h.listed b l hm).2.2
      · next hm =>
        rcases h.served l hl with hfr | hsv
        · have := h.fresh_listed l hl hfr
          by_cases hcb : (d.listeners l).broadcaster = b
          · rw [hcb] at this; exact absurd this hm
          · rw [hother _ hcb] at this; exact absurd this List.not_mem_nil
        · exact hsv
    · intro l hl
      simp only at hl ⊢
      split <;> exact h.registered l hl
    · rfl
    · intro b k e; cases e
  · next hb =>
    have he := h.slices_empty hb hnr
    dsimp only
    apply quiet
    · exact he
    · intro l hl
      rcases h.served l hl with hfr | hsv
      · exact absurd hfr (h.not_fresh he hl)
      · exact hsv
    · exact h.registered
    · rfl
    · intro b k e; cases e

/-- The flusher's section under `d.mu`, when not stopped: it takes `d.broadcaster` for the run it
begins. -/
theorem flush_running (h : DebouncerInv d) (hw : d.flusher = .woke) (hs : d.stopped = false) :
    DebouncerInv d.flush := by
  rw [Debouncer.flush, if_neg (by simp [hs])]
  exact {
    listed := h.listed
    nodup := h.nodup
    fresh_listed := h.fresh_listed
    served := h.served
    registered := fun l hl => Nat.le_succ_of_le (h.registered l hl)
    unmade := h.unmade
    current_lt := fun b hb => by cases hb
    taken := fun b k hk => by
      obtain ⟨hb, rfl⟩ := FlusherPc.refreshing.inj hk
      refine ⟨h.current_lt b hb, (fun e => by cases e), fun l hl => ?_⟩
      exact h.registered l (h.lt_of_mem hl)
    active := fun b hne => by
      rcases h.active b hne with hb | ⟨k, hk⟩
      · exact .inr ⟨d.runs, by simp [hb]⟩
      · rw [hw] at hk; cases hk }

theorem flush (h : DebouncerInv d) (hw : d.flusher = .woke) : DebouncerInv d.flush := by
  cases hs : d.stopped
  · exact h.flush_running hw hs
  · exact h.flush_stopped hw hs

end DebouncerInv

namespace DebouncerInv

variable {d : Debouncer ε}

/-- The flusher leaving its `select` holds no broadcaster before or after. -/
theorem leave_select (h : DebouncerInv d) {d' : Debouncer ε} (hw : d.flusher = .select)
    (hb : d'.broadcasters = d.broadcasters) (hl : d'.listeners = d.listeners) (hn : d'.handedOut = d.handedOut)
    (hr : d'.runs = d.runs) (hm : d'.made = d.made) (hc : d'.broadcaster = d.broadcaster)
    (hf : d'.flusher = .woke) : DebouncerInv d' :=
  h.frame hb hl hn hr hm hc fun b k => by
    rw [hw, hf]
    exact ⟨(fun e => by cases e), fun e => by cases e⟩

/-- The return of `refreshFn` in run `k`: the flusher broadcasts its error to the broadcaster it
took, whose listeners were all registered before the run began. -/
theorem refreshed (h : DebouncerInv d) {cur : Option Nat} {k : Nat} (hk : d.flusher = .refreshing cur k)
    (err : ε) :
    DebouncerInv { (match cur with | some b => d.broadcast b k err | none => d) with flusher := .select } := by
  cases cur with
  | none =>
    refine h.frame rfl rfl rfl rfl rfl rfl fun c k' => ?_
    rw [hk]
    constructor
    · intro e; cases e
    · intro e; cases e
  | some b =>
    obtain ⟨hbm, hne, hreg⟩ := h.taken b k hk
    -- only the slice of `b` changes, and only its listeners, each served once
    have hmem : ∀ l, l ∈ d.broadcasters b → ∀ c, l ∈ d.broadcasters c → c = b := fun l hl c hc =>
      (h.listed c l hc).2.1.symm.trans (h.listed b l hl).2.1
    simp only [Debouncer.broadcast, Debouncer.eachListener_eq (h.nodup b)]
    constructor <;> dsimp only
    · intro c l hl
      by_cases hcb : c = b
      · subst hcb; simp at hl
      · rw [Function.update_of_ne hcb] at hl
        have hlb : l ∉ d.broadcasters b := fun hlb => hcb (hmem l hlb c hl)
        simp only [if_neg hlb]
        exact h.listed c l hl
    · intro c
      by_cases hcb : c = b
      · subst hcb; simp
      · rw [Function.update_of_ne hcb]; exact h.nodup c
    · intro l hl hfr
      split at hfr
      · exact absurd hfr (Listener.not_fresh_send_close _ _)
      · next hlb =>
        have hin := h.fresh_listed l hl hfr
        simp only [if_neg hlb]
        have hcb : (d.listeners l).broadcaster ≠ b := fun e => hlb (e ▸ hin)
        rw [Function.update_of_ne hcb]
        exact hin
    · intro l hl
      split
      · next hlb =>
        exact .inr (served_send_close (h.listed b l hlb).2.2 err (hreg l hlb))
      · exact h.served l hl
    · intro l hl
      split <;> exact h.registered l hl
    · intro c hc
      by_cases hcb : c = b
      · subst hcb; simp
      · rw [Function.update_of_ne hcb]; exact h.unmade c hc
    · exact h.current_lt
    · intro c k' e; cases e
    · intro c hc
      by_cases hcb : c = b
      · subst hcb; simp at hc
      · rw [Function.update_of_ne hcb] at hc
        rcases h.active c hc with hb | ⟨k', hk'⟩
        · exact .inl hb
        · rw [hk] at hk'
          obtain ⟨e, -⟩ := FlusherPc.refreshing.inj hk'
          exact absurd (Option.some.inj e).symm hcb

/-- Every step keeps the invariant. -/
theorem step (h : DebouncerInv d) {e : DebouncerEvent ε} {d' : Debouncer ε} (hs : d.step e = some d') :
    DebouncerInv d' := by
  cases e with
  | debounce =>
    cases hs
    split
    · exact h
    · exact h.frame rfl rfl rfl rfl rfl rfl fun _ _ => Iff.rfl
  | refreshNow =>
    cases hs
    exact h.refreshNow
  | timerFires =>
    simp only [Debouncer.step] at hs
    split at hs
    · cases hs; exact h.frame rfl rfl rfl rfl rfl rfl fun _ _ => Iff.rfl
    · cases hs
  | stop =>
    simp only [Debouncer.step] at hs
    split at hs
    · cases hs
      split
      · exact h.frame rfl rfl rfl rfl rfl rfl fun _ _ => Iff.rfl
      · exact h.frame rfl rfl rfl rfl rfl rfl fun _ _ => Iff.rfl
    · cases hs
  | closeQuit =>
    simp only [Debouncer.step] at hs
    split at hs
    · cases hs; exact h.frame rfl rfl rfl rfl rfl rfl fun _ _ => Iff.rfl
    · cases hs
  | wakeRequest =>
    simp only [Debouncer.step] at hs
    split at hs
    · next hw => cases hs; exact h.leave_select hw.1 rfl rfl rfl rfl rfl rfl rfl
    · cases hs
  | wakeTimer =>
    simp only [Debouncer.step] at hs
    split at hs
    · next hw => cases hs; exact h.leave_select hw.1 rfl rfl rfl rfl rfl rfl rfl
    · cases hs
  | wakeQuit =>
    simp only [Debouncer.step] at hs
    split at hs
    · next hw =>
      split at hs
      · cases hs; exact h.leave_select hw rfl rfl rfl rfl rfl rfl rfl
      · split at hs
        · cases hs; exact h.leave_select hw rfl rfl rfl rfl rfl rfl rfl
        · cases hs
    · cases hs
  | lock =>
    simp only [Debouncer.step] at hs
    split at hs
    · next hw => cases hs; exact h.flush hw
    · cases hs
  | refreshed err =>
    simp only [Debouncer.step] at hs
    split at hs
    · next cur k hk => cases hs; exact h.refreshed hk err
    · cases hs

theorem run : ∀ {d d' : Debouncer ε} {es : List (DebouncerEvent ε)}, DebouncerInv d → d.run es = some d' →
    DebouncerInv d'
  | _, _, [], h, hr => by
    cases hr
    exact h
  | d, _, e :: es, h, hr => by
    simp only [Debouncer.run] at hr
    obtain ⟨d₁, h₁, hr⟩ := Option.bind_eq_some_iff.mp hr
    exact (h.step h₁).run hr

end DebouncerInv

/-! ### What every run keeps -/

/-- **Each listener is served at most once.**  In every run from `newRefreshDebouncer`, every
channel `refreshNow` handed out gets at most one value, is closed once the value is in it and
is never closed twice; and a value in it is the error of a run of `refreshFn` begun after the
listener was registered. -/
theorem listeners_served_once {es : List (DebouncerEvent ε)} {d : Debouncer ε}
    (hr : Debouncer.init.run es = some d) (l : Nat) (hl : l < d.handedOut) :
    (d.listeners l).chan.closes ≤ 1 ∧ (d.listeners l).chan.sent.length ≤ 1 ∧
      ((d.listeners l).chan.sent ≠ [] → (d.listeners l).chan.closes = 1) ∧
      ∀ k err, (k, err) ∈ (d.listeners l).chan.sent → (d.listeners l).registeredAt ≤ k := by
  rcases (DebouncerInv.init.run hr).served l hl with ⟨hs, hc⟩ | ⟨hc, hs | ⟨k, err, hs, hk⟩⟩
  · simp [hs, hc]
  · simp [hs, hc]
  · refine ⟨Nat.le_of_eq hc, by simp [hs], fun _ => hc, fun k' err' hm => ?_⟩
    rw [hs, List.mem_singleton] at hm
    obtain ⟨rfl, -⟩ := Prod.mk.inj hm
    exact hk

/-- **A listener that got nothing is waiting on a broadcaster**: the one in `d.broadcaster`, or
the one the flusher is running `refreshFn` for, in every run. -/
theorem fresh_listener_listed {es : List (DebouncerEvent ε)} {d : Debouncer ε}
    (hr : Debouncer.init.run es = some d) (l : Nat) (hl : l < d.handedOut) (hfr : (d.listeners l).Fresh) :
    d.broadcaster = some (d.listeners l).broadcaster ∨
      ∃ k, d.flusher = .refreshing (some (d.listeners l).broadcaster) k := by
  have h := DebouncerInv.init.run hr
  exact h.active _ (List.ne_nil_of_mem (h.fresh_listed l hl hfr))

/-- **Every listener of every run**: each channel `refreshNow` handed out is served at most once
and closed after its value, with the error of a run of `refreshFn` begun after it was
registered; and while it has got nothing, it is waiting on the broadcaster in `d.broadcaster`
or on the one the flusher is running `refreshFn` for. -/
theorem debouncer_listeners {es : List (DebouncerEvent ε)} {d : Debouncer ε}
    (hr : Debouncer.init.run es = some d) (l : Nat) (hl : l < d.handedOut) :
    ((d.listeners l).chan.closes ≤ 1 ∧ (d.listeners l).chan.sent.length ≤ 1 ∧
      ((d.listeners l).chan.sent ≠ [] → (d.listeners l).chan.closes = 1) ∧
      ∀ k err, (k, err) ∈ (d.listeners l).chan.sent → (d.listeners l).registeredAt ≤ k) ∧
    ((d.listeners l).Fresh → d.broadcaster = some (d.listeners l).broadcaster ∨
      ∃ k, d.flusher = .refreshing (some (d.listeners l).broadcaster) k) :=
  ⟨listeners_served_once hr l hl, fresh_listener_listed hr l hl⟩

/-- While the refresh `refreshNow` asked for runs, its listener has got nothing and waits on the
flusher's broadcaster. -/
theorem refreshNow_listener_waits :
    ∃ d : Debouncer Unit, Debouncer.init.run [.refreshNow, .wakeRequest, .lock] = some d ∧ 0 < d.handedOut ∧
      (d.listeners 0).Fresh ∧
      ((d.listeners 0).chan.closes ≤ 1 ∧ (d.listeners 0).chan.sent.length ≤ 1 ∧
        ((d.listeners 0).chan.sent ≠ [] → (d.listeners 0).chan.closes = 1) ∧
        ∀ k err, (k, err) ∈ (d.listeners 0).chan.sent → (d.listeners 0).registeredAt ≤ k) ∧
      (d.broadcaster = some (d.listeners 0).broadcaster ∨
        ∃ k, d.flusher = .refreshing (some (d.listeners 0).broadcaster) k) :=
  have hr : Debouncer.init.run [.refreshNow, .wakeRequest, .lock] = some _ := rfl
  have h := debouncer_listeners hr 0 (by decide)
  ⟨_, hr, by decide, ⟨rfl, rfl⟩, h.1, h.2 ⟨rfl, rfl⟩⟩

/-! ### After the flusher returns -/

namespace Debouncer

/-- Once the flusher has returned, a step leaves it there, touches no listener handed out, and
leaves `stop` blocked on its send if it was. -/
theorem step_of_exited {d d' : Debouncer ε} {e : DebouncerEvent ε} (hx : d.flusher = .exited)
    (hs : d.step e = some d') :
    d'.flusher = .exited ∧ d.handedOut ≤ d'.handedOut ∧ (∀ l, l < d.handedOut → d'.listeners l = d.listeners l) ∧
      (d.stopper = .sending → d'.stopper = .sending) := by
  cases e with
  | debounce =>
    cases hs
    split
    · exact ⟨hx, Nat.le_refl _, fun _ _ => rfl, id⟩
    · exact ⟨hx, Nat.le_refl _, fun _ _ => rfl, id⟩
  | refreshNow =>
    cases hs
    unfold refreshNow
    split
    all_goals
      refine ⟨hx, by simp, fun l hl => ?_, id⟩
      simp [Function.update_of_ne (Nat.ne_of_lt hl)]
  | timerFires | closeQuit =>
    simp only [step] at hs
    split at hs
    · cases hs; exact ⟨hx, Nat.le_refl _, fun _ _ => rfl, by simp_all⟩
    · cases hs
  | stop =>
    simp only [step] at hs
    split at hs
    · next hi =>
      cases hs
      split
      · exact ⟨hx, Nat.le_refl _, fun _ _ => rfl, fun e => by rw [hi] at e; cases e⟩
      · exact ⟨hx, Nat.le_refl _, fun _ _ => rfl, fun _ => rfl⟩
    · cases hs
  | wakeRequest | wakeTimer | wakeQuit | lock =>
    -- the flusher is not in its `select`, nor woken
    simp only [step, hx] at hs
    simp at hs
  | refreshed err =>
    simp only [step, hx] at hs
    cases hs

theorem run_of_exited : ∀ {d d' : Debouncer ε} {es : List (DebouncerEvent ε)}, d.flusher = .exited →
    d.run es = some d' →
    d'.flusher = .exited ∧ (∀ l, l < d.handedOut → d'.listeners l = d.listeners l) ∧
      (d.stopper = .sending → d'.stopper = .sending)
  | _, _, [], hx, hr => by
    cases hr
    exact ⟨hx, fun _ _ => rfl, id⟩
  | d, _, e :: es, hx, hr => by
    simp only [run] at hr
    obtain ⟨d₁, h₁, hr⟩ := Option.bind_eq_some_iff.mp hr
    obtain ⟨hx₁, hn₁, hl₁, hs₁⟩ := step_of_exited hx h₁
    obtain ⟨hx', hl', hs'⟩ := run_of_exited hx₁ hr
    exact ⟨hx', fun l hl => (hl' l (Nat.lt_of_lt_of_le hl hn₁)).trans (hl₁ l hl), fun e => hs' (hs₁ e)⟩

end Debouncer

/-- **`Session.refreshRing` blocks for ever after `stop`.**  `stop` sets `stopped`, meets the
flusher on `quit` and returns; the flusher takes the mutex, finds `stopped` and returns.  A
`refreshNow` then makes a broadcaster, leaves a request in `refreshNowCh` and hands out a
listener, which no goroutine will ever send to or close: in every continuation of the run the
receive of `refreshRing` blocks. -/
theorem refreshRing_blocks_after_stop :
    ∃ d : Debouncer ε, Debouncer.init.run [.stop, .wakeQuit, .closeQuit, .lock, .refreshNow] = some d ∧
      d.stopper = .returned ∧ d.flusher = .exited ∧ d.handedOut = 1 ∧
      ∀ (es : List (DebouncerEvent ε)) (d' : Debouncer ε), d.run es = some d' → d'.refreshRingResult 0 = none := by
  refine ⟨_, rfl, rfl, rfl, rfl, fun es d' hr => ?_⟩
  obtain ⟨-, hl, -⟩ := Debouncer.run_of_exited rfl hr
  rw [Debouncer.refreshRingResult, hl 0 Nat.zero_lt_one]
  rfl

/-- **`stop` can block for ever.**  A request wakes the flusher before `stop` runs; `stop` sets
`stopped` and blocks on its send on `quit`; the flusher takes the mutex, finds `stopped` and
returns without receiving.  No continuation lets `stop` return; the listener `refreshNow` handed
out was closed with nothing sent. -/
theorem stop_blocks_after_wake :
    ∃ d : Debouncer ε, Debouncer.init.run [.refreshNow, .wakeRequest, .stop, .lock] = some d ∧
      d.stopper = .sending ∧ d.flusher = .exited ∧
      d.refreshRingResult 0 = some (.error "could not refresh ring because stop was requested") ∧
      ∀ (es : List (DebouncerEvent ε)) (d' : Debouncer ε), d.run es = some d' → d'.stopper = .sending := by
  refine ⟨_, rfl, rfl, rfl, rfl, fun es d' hr => ?_⟩
  exact (Debouncer.run_of_exited rfl hr).2.2 rfl

end Gocql
