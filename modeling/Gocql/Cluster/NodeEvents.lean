import Mathlib.Data.List.Basic

/-!
# Cluster — node events, debounced

`handleEvent` (`events.go`) passes every topology-change and status-change frame to the
session's `nodeEvents`, an `eventDebouncer`.  `debounce` appends a frame to the debouncer's
buffer while it holds fewer than `eventBufferSize` frames, and drops it once the buffer is full;
every call re-arms the timer, and when the timer fires the flusher hands the buffer to the
callback, `Session.handleNodeEvent`, and starts an empty one.  `handleNodeEvent` folds its batch
into one flag, whether a topology change came, and `sEvents`, one `nodeEvent` per host, keyed by
`host.String()`: the first status frame of a host makes its entry, every later one sets its
`change`.  It then refreshes the ring if a topology change came, and calls `handleNodeUp` or
`handleNodeDown` once per entry.

* `EventDebouncer`: the buffer, with its bound as a field.  `debounce_events`: a frame is kept
  iff the buffer has room; `run_append`, `run_debounces`, `run_timer`: a run hands to the callback
  the first `eventBufferSize` frames of each stretch between two ticks of the timer
  (`run_stretch`), and drops the others.
* `handleNodeEvent`: `lookup_collect`: the entry of a host depends on its status frames only:
  the host and port of the first, the change of the last; `keys_nodup`: one entry per host, so
  one handler call per host (`handleNodeEvent_calls`).
* `nodeEvents_debounced`: what the callback makes of the frames between two ticks: the first
  `eventBufferSize` of them, a refresh iff one of these is a topology change, and per host the
  call of its last status frame among these.
* `nodeEvents_drop_latest`: `eventBufferSize` status frames of a host followed by a newer status
  and a topology change: the newer status and the topology change are dropped.

Go visits `sEvents` in no fixed order; the model visits it in the order of the hosts' first
frames, and nothing here depends on that order.  `host.String()` is a parameter, `ipString`.
-/

namespace Gocql

/-- `eventBufferSize`. -/
def eventBufferSize : Nat := 1000

/-- The frames an `eventDebouncer` holds: those debounced since its last flush, at most
`eventBufferSize` of them. -/
structure EventDebouncer (α : Type) where
  events : List α
  bounded : events.length ≤ eventBufferSize

namespace EventDebouncer

variable {α : Type}

/-- `newEventDebouncer`: no frames. -/
def empty : EventDebouncer α := ⟨[], Nat.zero_le _⟩

/-- `debounce`: a frame is kept while the buffer has room, and dropped once it is full. -/
def debounce (e : EventDebouncer α) (frame : α) : EventDebouncer α :=
  if h : e.events.length < eventBufferSize then
    ⟨e.events ++ [frame], by rw [List.length_append, List.length_singleton]; omega⟩
  else e

/-- `flush`: the frames handed to `callback`, none when there are none, and the buffer after. -/
def flush (e : EventDebouncer α) : Option (List α) × EventDebouncer α :=
  if e.events.length = 0 then (none, e) else (some e.events, empty)

/-- What happens to an `eventDebouncer`: a frame debounced, or its timer firing. -/
inductive Event (α : Type) where
  | debounce (frame : α)
  | timer

/-- One event, with the batch it hands to `callback`. -/
def step (e : EventDebouncer α) : Event α → EventDebouncer α × Option (List α)
  | .debounce frame => (e.debounce frame, none)
  | .timer => ((e.flush).2, (e.flush).1)

/-- A run: the batches handed to `callback`, in order, and the buffer at the end. -/
def run : EventDebouncer α → List (Event α) → List (List α) × EventDebouncer α
  | e, [] => ([], e)
  | e, ev :: evs => ((e.step ev).2.toList ++ (run (e.step ev).1 evs).1, (run (e.step ev).1 evs).2)

/-! ### The buffer -/

/-- The buffer holds the first `eventBufferSize` frames debounced. -/
theorem debounce_events (e : EventDebouncer α) (frame : α) :
    (e.debounce frame).events = (e.events ++ [frame]).take eventBufferSize := by
  unfold debounce
  split
  · case isTrue h =>
    rw [List.take_of_length_le (by rw [List.length_append, List.length_singleton]; omega)]
  · case isFalse h =>
    rw [List.take_append_of_le_length (by omega), List.take_of_length_le e.bounded]

/-- Cutting a prefix at `n` before appending changes nothing of the first `n`. -/
theorem take_append_take (l m : List α) (n : Nat) : (l.take n ++ m).take n = (l ++ m).take n := by
  by_cases h : l.length ≤ n
  · rw [List.take_of_length_le h]
  · have hl : (l.take n).length = n := List.length_take_of_le (by omega)
    rw [List.take_append_of_le_length (by omega), List.take_append_of_le_length (by omega),
      List.take_take, Nat.min_self]

/-- Frames debounced one after another, with no tick in between. -/
theorem foldl_debounce_events (frames : List α) :
    ∀ e : EventDebouncer α,
      (frames.foldl debounce e).events = (e.events ++ frames).take eventBufferSize := by
  induction frames with
  | nil => exact fun e => by rw [List.foldl_nil, List.append_nil, List.take_of_length_le e.bounded]
  | cons frame frames ih =>
    intro e
    rw [List.foldl_cons, ih, debounce_events]
    -- frames past the bound stay past it
    rw [take_append_take, List.append_assoc, List.singleton_append]

/-! ### Runs -/

theorem run_append (e : EventDebouncer α) (evs evs' : List (Event α)) :
    run e (evs ++ evs') = ((run e evs).1 ++ (run (run e evs).2 evs').1, (run (run e evs).2 evs').2) := by
  induction evs generalizing e with
  | nil => rfl
  | cons ev evs ih => simp only [List.cons_append, run, ih, List.append_assoc]

/-- Frames debounced hand nothing to the callback. -/
theorem run_debounces (e : EventDebouncer α) (frames : List α) :
    run e (frames.map .debounce) = ([], frames.foldl debounce e) := by
  induction frames generalizing e with
  | nil => rfl
  | cons frame frames ih => simp only [List.map_cons, run, step, ih, Option.toList_none, List.nil_append,
      List.foldl_cons]

/-- A tick hands the buffer to the callback, if it holds a frame. -/
theorem run_timer (e : EventDebouncer α) :
    run e [.timer] = (if e.events = [] then [] else [e.events], if e.events = [] then e else empty) := by
  by_cases h : e.events = []
  · simp [run, step, flush, h]
  · simp [run, step, flush, h]

/-- **Between two ticks of the timer**, the callback is handed the first `eventBufferSize`
frames debounced, and the others are lost. -/
theorem run_stretch (frames : List α) :
    (run empty (frames.map .debounce ++ [.timer])).1 =
      if frames = [] then [] else [frames.take eventBufferSize] := by
  have hev : (frames.foldl debounce empty).events = frames.take eventBufferSize := by
    rw [foldl_debounce_events]
    rfl
  rw [run_append, run_debounces]
  simp only [run_timer, hev, List.nil_append]
  by_cases h : frames = []
  · simp [h]
  · have hne : frames.take eventBufferSize ≠ [] := by
      simp [h, eventBufferSize]
    simp [h, hne]

end EventDebouncer

/-! ### `handleNodeEvent` -/

/-- The frames `nodeEvents` is given: `handleEvent` passes it the topology and the status
changes. -/
inductive NodeEventFrame where
  | topologyChange (change : String) (host : List UInt8) (port : Int)
  | statusChange (change : String) (host : List UInt8) (port : Int)
  deriving DecidableEq, Repr

/-- Whether a frame is a topology change. -/
def NodeEventFrame.isTopologyChange : NodeEventFrame → Bool
  | .topologyChange .. => true
  | .statusChange .. => false

/-- `nodeEvent`. -/
structure NodeEvent where
  change : String
  host : List UInt8
  port : Int
  deriving DecidableEq, Repr

/-- The handler calls `handleNodeEvent` dispatches. -/
inductive NodeHandlerCall where
  | handleNodeUp (host : List UInt8) (port : Int)
  | handleNodeDown (host : List UInt8) (port : Int)
  deriving DecidableEq, Repr

section Handle

variable (ipString : List UInt8 → String)

/-- One status frame into `sEvents`: a host seen before gets the frame's `change`, a new one an
entry of its own. -/
def recordStatus (sEvents : List (String × NodeEvent)) (change : String) (host : List UInt8)
    (port : Int) : List (String × NodeEvent) :=
  match sEvents.lookup (ipString host) with
  | some _ => sEvents.map fun kv => if kv.1 = ipString host then (kv.1, { kv.2 with change }) else kv
  | none => sEvents ++ [(ipString host, ⟨change, host, port⟩)]

/-- The loop of `handleNodeEvent` over one frame. -/
def collectStep (acc : Bool × List (String × NodeEvent)) : NodeEventFrame → Bool × List (String × NodeEvent)
  | .topologyChange .. => (true, acc.2)
  | .statusChange change host port => (acc.1, recordStatus ipString acc.2 change host port)

/-- The handler call for one entry of `sEvents`. -/
def dispatch (disableNodeStatusEvents : Bool) (f : NodeEvent) : Option NodeHandlerCall :=
  if f.change = "UP" then
    if disableNodeStatusEvents then none else some (.handleNodeUp f.host f.port)
  else if f.change = "DOWN" then
    if disableNodeStatusEvents then none else some (.handleNodeDown f.host f.port)
  else none

/-- `Session.handleNodeEvent` on a batch: whether it calls `debounceRingRefresh`, and the
handler calls it dispatches. -/
def handleNodeEvent (disableTopologyEvents disableNodeStatusEvents : Bool)
    (frames : List NodeEventFrame) : Bool × List NodeHandlerCall :=
  let (topologyEventReceived, sEvents) := frames.foldl (collectStep ipString) (false, [])
  (topologyEventReceived && !disableTopologyEvents,
    sEvents.filterMap fun kv => dispatch disableNodeStatusEvents kv.2)

/-- `handleNodeEvent` as the flag and the entries of its loop. -/
theorem handleNodeEvent_eq (disableTopologyEvents disableNodeStatusEvents : Bool)
    (frames : List NodeEventFrame) :
    handleNodeEvent ipString disableTopologyEvents disableNodeStatusEvents frames =
      ((frames.foldl (collectStep ipString) (false, [])).1 && !disableTopologyEvents,
        (frames.foldl (collectStep ipString) (false, [])).2.filterMap fun kv =>
          dispatch disableNodeStatusEvents kv.2) := rfl

/-! ### One host's entry -/

/-- The entry of host `k` after one more frame. -/
def entryStep (k : String) (o : Option NodeEvent) : NodeEventFrame → Option NodeEvent
  | .topologyChange .. => o
  | .statusChange change host port =>
    if ipString host = k then
      some (match o with
        | some f => { f with change }
        | none => ⟨change, host, port⟩)
    else o

theorem lookup_cons_ne {k k' : String} {f : NodeEvent} {l : List (String × NodeEvent)}
    (h : k ≠ k') : ((k', f) :: l).lookup k = l.lookup k := by
  simp [List.lookup_cons, beq_eq_false_iff_ne.mpr h]

theorem lookup_map_change {sEvents : List (String × NodeEvent)} {key k : String} (change : String) :
    (sEvents.map fun kv => if kv.1 = key then (kv.1, { kv.2 with change }) else kv).lookup k =
      if k = key then (sEvents.lookup k).map fun f => { f with change } else sEvents.lookup k := by
  induction sEvents with
  | nil => by_cases hk : k = key <;> simp [hk]
  | cons kv sEvents ih =>
    obtain ⟨k', f⟩ := kv
    by_cases hkey : k' = key
    · subst hkey
      by_cases hk : k = k'
      · subst hk
        simp [List.lookup_cons_self]
      · simp [lookup_cons_ne hk, hk, ih]
    · by_cases hk : k = k'
      · subst hk
        simp [List.lookup_cons_self, hkey]
      · simp [lookup_cons_ne hk, hkey, ih]

theorem lookup_append_singleton {sEvents : List (String × NodeEvent)} {key k : String}
    {f : NodeEvent} (hnone : sEvents.lookup key = none) :
    (sEvents ++ [(key, f)]).lookup k = if k = key then some f else sEvents.lookup k := by
  rw [List.lookup_append]
  by_cases hk : k = key
  · subst hk
    simp [hnone, List.lookup_cons_self]
  · rw [if_neg hk, lookup_cons_ne hk, List.lookup_nil, Option.or_none]

/-- **One status frame** changes only its own host's entry, as `entryStep` says. -/
theorem lookup_collectStep (k : String) (acc : Bool × List (String × NodeEvent))
    (frame : NodeEventFrame) :
    (collectStep ipString acc frame).2.lookup k = entryStep ipString k (acc.2.lookup k) frame := by
  cases frame with
  | topologyChange => rfl
  | statusChange change host port =>
    simp only [collectStep, recordStatus, entryStep]
    cases hl : acc.2.lookup (ipString host) with
    | some f =>
      simp only [lookup_map_change]
      by_cases hk : ipString host = k
      · subst hk
        simp [hl]
      · simp [hk, Ne.symm hk]
    | none =>
      simp only [lookup_append_singleton hl]
      by_cases hk : ipString host = k
      · subst hk
        simp [hl]
      · simp [hk, Ne.symm hk]

/-- **The entry of a host** after a batch is its status frames folded by `entryStep`. -/
theorem lookup_collect (k : String) (frames : List NodeEventFrame) :
    ∀ acc : Bool × List (String × NodeEvent),
      (frames.foldl (collectStep ipString) acc).2.lookup k =
        frames.foldl (entryStep ipString k) (acc.2.lookup k) := by
  induction frames with
  | nil => exact fun _ => rfl
  | cons frame frames ih =>
    intro acc
    rw [List.foldl_cons, ih, lookup_collectStep, List.foldl_cons]

/-- `sEvents` has one entry per host. -/
theorem keys_nodup_collectStep (acc : Bool × List (String × NodeEvent))
    (hnd : (acc.2.map Prod.fst).Nodup) (frame : NodeEventFrame) :
    ((collectStep ipString acc frame).2.map Prod.fst).Nodup := by
  cases frame with
  | topologyChange => exact hnd
  | statusChange change host port =>
    simp only [collectStep, recordStatus]
    cases hl : acc.2.lookup (ipString host) with
    | some f =>
      have hkeys : (acc.2.map fun kv => if kv.1 = ipString host then (kv.1, { kv.2 with change })
          else kv).map Prod.fst = acc.2.map Prod.fst := by
        rw [List.map_map]
        exact List.map_congr_left fun kv _ => by by_cases h : kv.1 = ipString host <;> simp [h]
      rw [hkeys]
      exact hnd
    | none =>
      rw [List.map_append, List.map_singleton, List.nodup_append]
      refine ⟨hnd, by simp, ?_⟩
      intro a ha b hb hab
      simp only [List.mem_singleton] at hb
      subst hb hab
      obtain ⟨kv, hkv, hk⟩ := List.mem_map.mp ha
      have : acc.2.lookup kv.1 ≠ none := by
        rw [ne_eq, List.lookup_eq_none_iff]
        intro h
        simpa using h kv hkv
      exact this (hk ▸ hl)

theorem keys_nodup (frames : List NodeEventFrame) :
    ∀ acc : Bool × List (String × NodeEvent), (acc.2.map Prod.fst).Nodup →
      ((frames.foldl (collectStep ipString) acc).2.map Prod.fst).Nodup := by
  induction frames with
  | nil => exact fun _ h => h
  | cons frame frames ih =>
    intro acc hnd
    exact ih _ (keys_nodup_collectStep ipString acc hnd frame)

/-- Every entry of `sEvents` is keyed by its own host. -/
theorem keyed_collectStep (acc : Bool × List (String × NodeEvent))
    (hk : ∀ kv ∈ acc.2, ipString kv.2.host = kv.1) (frame : NodeEventFrame) :
    ∀ kv ∈ (collectStep ipString acc frame).2, ipString kv.2.host = kv.1 := by
  cases frame with
  | topologyChange => exact hk
  | statusChange change host port =>
    simp only [collectStep, recordStatus]
    cases acc.2.lookup (ipString host) with
    | some f =>
      intro kv hkv
      obtain ⟨kv₀, hkv₀, rfl⟩ := List.mem_map.mp hkv
      by_cases h : kv₀.1 = ipString host
      · simpa [h] using hk kv₀ hkv₀
      · simpa [h] using hk kv₀ hkv₀
    | none =>
      intro kv hkv
      rcases List.mem_append.mp hkv with hkv | hkv
      · exact hk kv hkv
      · rw [List.mem_singleton] at hkv
        subst hkv
        rfl

theorem keyed (frames : List NodeEventFrame) :
    ∀ acc : Bool × List (String × NodeEvent), (∀ kv ∈ acc.2, ipString kv.2.host = kv.1) →
      ∀ kv ∈ (frames.foldl (collectStep ipString) acc).2, ipString kv.2.host = kv.1 := by
  induction frames with
  | nil => exact fun _ h => h
  | cons frame frames ih =>
    intro acc hk
    exact ih _ (keyed_collectStep ipString acc hk frame)

/-- The host a handler call is about. -/
def NodeHandlerCall.host : NodeHandlerCall → List UInt8
  | .handleNodeUp host _ => host
  | .handleNodeDown host _ => host

theorem dispatch_host {disableNodeStatusEvents : Bool} {f : NodeEvent} {c : NodeHandlerCall}
    (h : dispatch disableNodeStatusEvents f = some c) : c.host = f.host := by
  unfold dispatch at h
  split_ifs at h <;> cases h <;> rfl

/-- With one entry per host, each keyed by its host, the calls about a host are those of its
entry. -/
theorem filter_dispatch (disableNodeStatusEvents : Bool) (k : String) :
    ∀ sEvents : List (String × NodeEvent), (sEvents.map Prod.fst).Nodup →
      (∀ kv ∈ sEvents, ipString kv.2.host = kv.1) →
      ((sEvents.filterMap fun kv => dispatch disableNodeStatusEvents kv.2).filter
          fun c => ipString c.host = k) =
        ((sEvents.lookup k).bind (dispatch disableNodeStatusEvents)).toList
  | [], _, _ => rfl
  | (k', f) :: sEvents, hnd, hk => by
    obtain ⟨hnotin, hnd'⟩ := List.nodup_cons.mp hnd
    have ih := filter_dispatch disableNodeStatusEvents k sEvents hnd'
      fun kv h => hk kv (List.mem_cons_of_mem _ h)
    have hf : ipString f.host = k' := hk (k', f) List.mem_cons_self
    by_cases hkk : k = k'
    · -- the entry of `k` is this one, and no later one has its key
      subst hkk
      have hnone : sEvents.lookup k = none := by
        rw [List.lookup_eq_none_iff]
        intro kv hkv
        rw [bne_iff_ne]
        exact fun h => hnotin (List.mem_map.mpr ⟨kv, hkv, h.symm⟩)
      rw [List.lookup_cons_self]
      cases hd : dispatch disableNodeStatusEvents f with
      | none =>
        simp only [List.filterMap_cons, hd]
        rw [ih, hnone]
        simp [hd]
      | some c =>
        simp only [List.filterMap_cons, hd, List.filter_cons, dispatch_host hd, hf, decide_true,
          if_true]
        rw [ih, hnone]
        simp [hd]
    · rw [lookup_cons_ne hkk]
      cases hd : dispatch disableNodeStatusEvents f with
      | none =>
        simp only [List.filterMap_cons, hd]
        exact ih
      | some c =>
        have hc : ¬ ipString c.host = k := by rw [dispatch_host hd, hf]; exact Ne.symm hkk
        simp only [List.filterMap_cons, hd, List.filter_cons, hc, decide_false, Bool.false_eq_true,
          if_false]
        exact ih

/-- **The handler calls about one host**: at most one, the dispatch of its entry, which its
status frames alone make (`lookup_collect`). -/
theorem handleNodeEvent_calls (disableTopologyEvents disableNodeStatusEvents : Bool)
    (frames : List NodeEventFrame) (k : String) :
    (handleNodeEvent ipString disableTopologyEvents disableNodeStatusEvents frames).2.filter
        (fun c => ipString c.host = k) =
      ((frames.foldl (entryStep ipString k) none).bind (dispatch disableNodeStatusEvents)).toList := by
  have hnd := keys_nodup ipString frames (false, []) List.nodup_nil
  have hk := keyed ipString frames (false, []) fun _ h => absurd h List.not_mem_nil
  have hl := lookup_collect ipString k frames (false, [])
  rw [handleNodeEvent_eq, filter_dispatch ipString disableNodeStatusEvents k _ hnd hk, hl]
  rfl

/-- The flag of the loop: set by the first topology change, and kept. -/
theorem foldl_collectStep_fst (frames : List NodeEventFrame) :
    ∀ acc : Bool × List (String × NodeEvent), (frames.foldl (collectStep ipString) acc).1 =
      (acc.1 || frames.any NodeEventFrame.isTopologyChange) := by
  induction frames with
  | nil => intro acc; simp
  | cons frame frames ih =>
    intro acc
    rw [List.foldl_cons, ih]
    cases frame <;> simp [collectStep, NodeEventFrame.isTopologyChange]

/-- The changes of the status frames of host `k`, in order. -/
def statusChanges (k : String) (frames : List NodeEventFrame) : List String :=
  frames.filterMap fun
    | .statusChange change host _ => if ipString host = k then some change else none
    | .topologyChange .. => none

/-- The entry of a host carries the change of its last status frame. -/
theorem foldl_entryStep_change (k : String) (frames : List NodeEventFrame) :
    ∀ o : Option NodeEvent, (frames.foldl (entryStep ipString k) o).map NodeEvent.change =
      (statusChanges ipString k frames).getLast?.or (o.map NodeEvent.change) := by
  induction frames with
  | nil => exact fun _ => rfl
  | cons frame frames ih =>
    intro o
    rw [List.foldl_cons, ih]
    cases frame with
    | topologyChange => rfl
    | statusChange change host port =>
      by_cases hk : ipString host = k
      · have hc : (entryStep ipString k o (.statusChange change host port)).map NodeEvent.change =
            some change := by
          cases o <;> simp [entryStep, hk]
        have hs : statusChanges ipString k (.statusChange change host port :: frames) =
            change :: statusChanges ipString k frames := by
          simp [statusChanges, hk]
        rw [hc, hs, List.getLast?_cons]
        cases (statusChanges ipString k frames).getLast? <;> rfl
      · simp only [entryStep, statusChanges, hk, if_false, List.filterMap_cons]

/-- A frame that changes nothing, repeated, changes nothing. -/
theorem foldl_replicate_fixed {β γ : Type} {f : β → γ → β} {b : β} {x : γ} (h : f b x = b) :
    ∀ n, (List.replicate n x).foldl f b = b
  | 0 => rfl
  | n + 1 => by rw [List.replicate_succ, List.foldl_cons, h, foldl_replicate_fixed h n]

/-- `eventBufferSize` status frames `DOWN` of a host, then an `UP` of it and a topology change,
all between two ticks: the callback dispatches `DOWN`, and the ring is not refreshed. -/
theorem nodeEvents_drop_latest (host : List UInt8) (port : Int) :
    (EventDebouncer.run EventDebouncer.empty
        ((List.replicate eventBufferSize (NodeEventFrame.statusChange "DOWN" host port) ++
          [NodeEventFrame.statusChange "UP" host port,
            NodeEventFrame.topologyChange "NEW_NODE" host port]).map .debounce ++
          [.timer])).1.map (handleNodeEvent ipString false false) =
      [(false, [.handleNodeDown host port])] := by
  -- the buffer fills with the `DOWN`s, and the two frames after them are dropped
  have htake : (List.replicate eventBufferSize (NodeEventFrame.statusChange "DOWN" host port) ++
      [NodeEventFrame.statusChange "UP" host port,
        NodeEventFrame.topologyChange "NEW_NODE" host port]).take eventBufferSize =
      List.replicate eventBufferSize (NodeEventFrame.statusChange "DOWN" host port) :=
    List.take_left' List.length_replicate
  have hfix : collectStep ipString (false, [(ipString host, ⟨"DOWN", host, port⟩)])
      (.statusChange "DOWN" host port) = (false, [(ipString host, ⟨"DOWN", host, port⟩)]) := by
    simp [collectStep, recordStatus, List.lookup_cons_self]
  rw [EventDebouncer.run_stretch,
    if_neg (List.append_ne_nil_of_right_ne_nil _ (List.cons_ne_nil _ _)), htake]
  simp only [List.map_cons, List.map_nil, List.cons.injEq, and_true]
  -- one entry for the host, made by the first `DOWN`
  have hbatch : (List.replicate eventBufferSize (NodeEventFrame.statusChange "DOWN" host port)).foldl
      (collectStep ipString) (false, []) = (false, [(ipString host, ⟨"DOWN", host, port⟩)]) := by
    rw [show eventBufferSize = 999 + 1 from rfl, List.replicate_succ, List.foldl_cons]
    exact foldl_replicate_fixed hfix 999
  rw [handleNodeEvent_eq, hbatch]
  simp [dispatch]

/-- At `10.0.0.1:9042`, its address printed by `toString`. -/
theorem nodeEvents_drop_latest_at :
    (EventDebouncer.run EventDebouncer.empty
        ((List.replicate eventBufferSize (NodeEventFrame.statusChange "DOWN" [10, 0, 0, 1] 9042) ++
          [NodeEventFrame.statusChange "UP" [10, 0, 0, 1] 9042,
            NodeEventFrame.topologyChange "NEW_NODE" [10, 0, 0, 1] 9042]).map .debounce ++
          [.timer])).1.map (handleNodeEvent toString false false) =
      [(false, [.handleNodeDown [10, 0, 0, 1] 9042])] :=
  nodeEvents_drop_latest toString [10, 0, 0, 1] 9042

/-- **What the callback makes of a stretch of frames**: between two ticks of the timer it is
handed the first `eventBufferSize` frames, the buffer dropping the rest; on them it refreshes the
ring iff one is a topology change and topology events are on, and makes for each host at most one
handler call, the dispatch of the host's entry, which carries the change of the host's last
status frame among them. -/
theorem nodeEvents_debounced (disableTopologyEvents disableNodeStatusEvents : Bool)
    (frames : List NodeEventFrame) :
    (EventDebouncer.run EventDebouncer.empty (frames.map .debounce ++ [.timer])).1 =
        (if frames = [] then [] else [frames.take eventBufferSize]) ∧
    (handleNodeEvent ipString disableTopologyEvents disableNodeStatusEvents
        (frames.take eventBufferSize)).1 =
      ((frames.take eventBufferSize).any NodeEventFrame.isTopologyChange && !disableTopologyEvents) ∧
    ∀ k, (handleNodeEvent ipString disableTopologyEvents disableNodeStatusEvents
          (frames.take eventBufferSize)).2.filter (fun c => ipString c.host = k) =
        (((frames.take eventBufferSize).foldl (entryStep ipString k) none).bind
          (dispatch disableNodeStatusEvents)).toList ∧
      ((frames.take eventBufferSize).foldl (entryStep ipString k) none).map NodeEvent.change =
        (statusChanges ipString k (frames.take eventBufferSize)).getLast? := by
  refine ⟨EventDebouncer.run_stretch frames, ?_, fun k => ⟨handleNodeEvent_calls ipString _ _ _ k, ?_⟩⟩
  · rw [handleNodeEvent_eq, foldl_collectStep_fst, Bool.false_or]
  · rw [foldl_entryStep_change, Option.map_none, Option.or_none]

end Handle

end Gocql
