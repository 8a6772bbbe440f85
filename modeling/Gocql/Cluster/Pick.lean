import Mathlib.Data.List.Perm.Subperm
import Gocql.Cluster.Topology
import Gocql.Support.Panic
import Gocql.Support.Search

/-!
# Cluster — token-aware host selection

`tokenAwareHostPolicy.Pick` (`policies.go`) turns a query into a `NextHost`, a closure that
yields the hosts to try, one per call, then nil.  It looks up the replicas of the query's
token (`replicasFor`; on a keyspace without replicas the owner of the token,
`GetHostForToken`, which is nil on a ring without tokens), and the closure then yields, with
cursors kept across calls:

* the up replicas of tier 0, in replica order (`i`); with `nonLocalReplicasFallback` the
  replicas of the other tiers are put in `remote`, one list per tier;
* with that option, the up replicas in `remote` (`j`, `k`), in the loop
  `for j < len(remote) && k < len(remote[j])`, which ends at the first tier without replicas;
* the hosts of the fallback policy's own iterator not yielded before (`used`).

* `FallbackPolicy`: what `Pick` asks of its fallback — `HostTier` and `MaxHostTier`, or
  `IsLocal`, which may read the host they are given, nil or not, and the hosts its own `Pick`
  yields; `RackAwareRR.toFallback` and the others are the repository's policies.
* `PickState.next`: one call of the closure, on the variables it captures; `nextReplica`,
  `nextRemote` and `nextFallback` are its three loops.
* `PickState.rest`: the hosts the closure yields from a state on.  One call yields the first
  of them (`next_rest`), so any number of calls yields exactly them, then nil (`nextN_eq`);
  from the state `Pick` makes they are `pickOrder` (`pick_nextN`).
* What that order is: the second loop stops at the first tier without replicas
  (`remoteUps_initState`); with distinct replicas no host comes twice (`pickOrder_nodup`);
  and every host is an up replica or one of the fallback's (`mem_pickOrder`); `pick_yields`
  states the four.
* `pick_misroutes`: a hidden tier, a replica listed twice, and the nil host of an empty ring.
-/

namespace Gocql

open Go

variable {τ : Type}

/-! ### The fallback policy -/

/-- A run-time panic in the iterator `Pick` returns. -/
inductive PickPanic where
  /-- a method of the fallback policy reads a field of a nil `*HostInfo` -/
  | nilDereference
  /-- `remote[tier-1]` for a tier past `MaxHostTier` -/
  | indexOutOfRange (index length : Nat)
  deriving DecidableEq, Repr

/-- What `Pick` asks of its fallback policy: `HostTier` and `MaxHostTier` when it is a
`HostTierer`, `IsLocal`, and the hosts its own `NextHost` yields before nil.  The methods take
a `*HostInfo`, which may be nil. -/
structure FallbackPolicy where
  tierer : Option ((Option HostInfo → Except PickPanic Nat) × Nat)
  isLocal : Option HostInfo → Except PickPanic Bool
  pick : List HostInfo

namespace FallbackPolicy

/-- `maxTier`: `MaxHostTier()` of a `HostTierer`, else 1. -/
def maxTier (fb : FallbackPolicy) : Nat :=
  match fb.tierer with
  | some (_, m) => m
  | none => 1

/-- The tier of a replica: `HostTier(h)` of a `HostTierer`, else 0 for a local host and 1 for
any other. -/
def hostTier (fb : FallbackPolicy) (h : Option HostInfo) : Except PickPanic Nat :=
  match fb.tierer with
  | some (tier, _) => tier h
  | none => do
    let isLocal ← fb.isLocal h
    pure (if isLocal then 0 else 1)

end FallbackPolicy

/-- `roundRobbin(shift, hosts...)`: each layer in turn, its up hosts from the one after
`shift` round to `shift` itself. -/
def roundRobbin (shift : Nat) (hosts : List (List HostInfo)) : List HostInfo :=
  hosts.flatMap fun layer =>
    ((List.range layer.length).filterMap fun o => layer[(shift + o + 1) % layer.length]?).filter
      fun h => HostInfo.isUp (some h)

/-- `roundRobinHostPolicy`. -/
structure RoundRobinHostPolicy where
  hosts : List HostInfo
  lastUsedHostIdx : Nat

/-- `roundRobinHostPolicy` as a fallback: every host is local. -/
def RoundRobinHostPolicy.toFallback (r : RoundRobinHostPolicy) : FallbackPolicy where
  tierer := none
  isLocal _ := .ok true
  pick := roundRobbin (r.lastUsedHostIdx + 1) [r.hosts]

/-- `dcAwareRR`, with `local` as `localDC`. -/
structure DcAwareRR where
  localDC : String
  localHosts : List HostInfo
  remoteHosts : List HostInfo
  lastUsedHostIdx : Nat

/-- `dcAwareRR.IsLocal`: `host.DataCenter() == d.local`, which reads the host. -/
def DcAwareRR.isLocal (d : DcAwareRR) : Option HostInfo → Except PickPanic Bool
  | none => .error .nilDereference
  | some h => .ok (h.dataCenter == d.localDC)

def DcAwareRR.toFallback (d : DcAwareRR) : FallbackPolicy where
  tierer := none
  isLocal := d.isLocal
  pick := roundRobbin (d.lastUsedHostIdx + 1) [d.localHosts, d.remoteHosts]

/-- `rackAwareRR`: its hosts of tiers 0, 1 and 2. -/
structure RackAwareRR where
  lastUsedHostIdx : Nat
  localDC : String
  localRack : String
  hosts : List (List HostInfo)

/-- `rackAwareRR.HostTier`: 0 in the local rack, 1 elsewhere in the local data center, 2
outside it; it reads the host. -/
def RackAwareRR.hostTier (d : RackAwareRR) : Option HostInfo → Except PickPanic Nat
  | none => .error .nilDereference
  | some h => .ok (if h.dataCenter = d.localDC then if h.rack = d.localRack then 0 else 1 else 2)

def RackAwareRR.toFallback (d : RackAwareRR) : FallbackPolicy where
  tierer := some (d.hostTier, 2)
  isLocal h := do
    let tier ← d.hostTier h
    pure (tier == 0)
  pick := roundRobbin (d.lastUsedHostIdx + 1) d.hosts

/-- `tokenAwareHostPolicy`, with the fields `Pick` reads. -/
structure TokenAwareHostPolicy where
  fallback : FallbackPolicy
  shuffleReplicas : Bool
  nonLocalReplicasFallback : Bool

/-! ### The replicas of a token -/

section Lookup

variable [LT τ] [DecidableLT τ]

/-- `tokenRing.GetHostForToken`: `sort.Search` for the first token not below `token`, wrapping
round to the first; nil on a ring without tokens. -/
def TokenRing.getHostForToken (t : TokenRing τ) (token : τ) : Option (HostToken τ) :=
  match t.tokens with
  | [] => none
  | first :: _ =>
    -- `p == len(t.tokens)` wraps round to the first token
    some (t.tokens.getD
      (search t.tokens.length fun i => (t.tokens[i]?).all fun th => !decide (th.token < token))
      first)

/-- `tokenRingReplicas.replicasFor`: the replicas of the range `sort.Search` finds, the first
token not below `t`, wrapping round; nil when there are none. -/
def replicasFor (h : List (HostTokens τ)) (t : τ) : Option (HostTokens τ) :=
  match h with
  | [] => none
  | first :: _ =>
    some (h.getD (search h.length fun i => (h[i]?).all fun ht => !decide (ht.token < t)) first)

/-- What `Pick` reads of `clusterMeta`. -/
structure ClusterMeta (τ : Type) where
  replicas : GoMap String (List (HostTokens τ))
  tokenRing : Option (TokenRing τ)

/-- What `Pick` reads of a query: its keyspace, and its routing key, none for a nil query, a
nil key or an error getting it. -/
structure PickQuery where
  keyspace : String
  routingKey : Option (List UInt8)

/-- The replicas the closure of `Pick` goes over, or none where `Pick` returns the fallback's
own iterator.  `hash` is the partitioner's `Hash`; `shuffle` is what `shuffleHosts` makes of
the replicas, used when `shuffleReplicas` is set. -/
def pickReplicas (p : TokenAwareHostPolicy) (shuffle : List HostInfo → List HostInfo)
    (hash : List UInt8 → τ) (metadata : Option (ClusterMeta τ)) (qry : Option PickQuery) :
    Option (List (Option HostInfo)) := do
  let qry ← qry
  let routingKey ← qry.routingKey
  let metadata ← metadata
  let ring ← metadata.tokenRing
  let token := hash routingKey
  match replicasFor (metadata.replicas.get qry.keyspace) token with
  | none => pure [(ring.getHostForToken token).map HostToken.host]
  | some ht => pure ((if p.shuffleReplicas then shuffle ht.hosts else ht.hosts).map some)

end Lookup

/-! ### The iterator -/

/-- The variables the closure of `Pick` captures and updates. -/
structure PickState where
  i : Nat
  j : Nat
  k : Nat
  remote : List (List (Option HostInfo))
  used : List HostInfo
  fallbackIter : Option (List HostInfo)
  deriving DecidableEq, Repr

/-- The state `Pick` gives its closure: `remote` one empty list per tier when
`nonLocalReplicasFallback` is set, nil otherwise, and no fallback iterator yet. -/
def TokenAwareHostPolicy.initState (p : TokenAwareHostPolicy) : PickState where
  i := 0
  j := 0
  k := 0
  remote := if p.nonLocalReplicasFallback then List.replicate p.fallback.maxTier [] else []
  used := []
  fallbackIter := none

/-- The host `h` if `h.IsUp()`, which is false for nil. -/
def upHost (h : Option HostInfo) : Option HostInfo :=
  if HostInfo.isUp h then h else none

/-- `remote[tier-1] = append(remote[tier-1], h)`, which panics past the end of `remote`. -/
def appendRemote (remote : List (List (Option HostInfo))) (tier : Nat) (h : Option HostInfo) :
    Except PickPanic (List (List (Option HostInfo))) :=
  if tier - 1 < remote.length then .ok (remote.modify (tier - 1) (· ++ [h]))
  else .error (.indexOutOfRange (tier - 1) remote.length)

/-- The first loop of the closure, over the replicas from `i` on: an up host of tier 0 is
yielded; a host of another tier is put in `remote`. -/
def nextReplica (p : TokenAwareHostPolicy) :
    List (Option HostInfo) → PickState → Except PickPanic (Option HostInfo × PickState)
  | [], st => .ok (none, st)
  | h :: rest, st => do
    let st := { st with i := st.i + 1 }
    let tier ← p.fallback.hostTier h
    if tier ≠ 0 then
      if p.nonLocalReplicasFallback then
        let remote ← appendRemote st.remote tier h
        nextReplica p rest { st with remote := remote }
      else nextReplica p rest st
    else
      match upHost h with
      | some host => .ok (some host, { st with used := host :: st.used })
      | none => nextReplica p rest st

/-- The first up host of a list, and its position. -/
def firstUp : List (Option HostInfo) → Option (HostInfo × Nat)
  | [] => none
  | h :: hs =>
    match upHost h with
    | some host => some (host, 0)
    | none => (firstUp hs).map fun (host, n) => (host, n + 1)

/-- The second loop, `for j < len(remote) && k < len(remote[j])`, over the tiers of `remote`
from `j` on: the hosts of tier `j` from `k` on are tried in turn, and past its last host the
loop goes on at the start of the next tier, unless that tier is empty. -/
def nextRemote : List (List (Option HostInfo)) → Nat → Nat → Option HostInfo × Nat × Nat
  | [], j, k => (none, j, k)
  | tier :: tiers, j, k =>
    if k < tier.length then
      match firstUp (tier.drop k) with
      | some (host, n) =>
        -- `k++` past the host, and on to the next tier after the tier's last host
        if tier.length ≤ k + n + 1 then (some host, j + 1, 0) else (some host, j, k + n + 1)
      | none => nextRemote tiers (j + 1) 0
    else (none, j, k)

/-- The third loop, over the fallback's iterator: its next host not used, and the hosts after
it. -/
def nextFallback (used : List HostInfo) : List HostInfo → Option HostInfo × List HostInfo
  | [] => (none, [])
  | h :: rest => if h ∈ used then nextFallback used rest else (some h, rest)

/-- One call of the closure `Pick` returns for the replicas `replicas`. -/
def PickState.next (p : TokenAwareHostPolicy) (replicas : List (Option HostInfo))
    (st : PickState) : Except PickPanic (Option HostInfo × PickState) := do
  let (r, st) ← nextReplica p (replicas.drop st.i) st
  match r with
  | some host => pure (some host, st)
  | none =>
    let (r, j, k) :=
      if p.nonLocalReplicasFallback then nextRemote (st.remote.drop st.j) st.j st.k
      else (none, st.j, st.k)
    match r with
    | some host => pure (some host, { st with j := j, k := k, used := host :: st.used })
    | none =>
      -- `fallbackIter` is made by the first call that gets here
      let (r, rest) := nextFallback st.used (st.fallbackIter.getD p.fallback.pick)
      pure (r, { st with j := j, k := k, used := r.toList ++ st.used, fallbackIter := some rest })

/-- `n` calls of the closure, and what each returned. -/
def PickState.nextN (p : TokenAwareHostPolicy) (replicas : List (Option HostInfo)) :
    Nat → PickState → Except PickPanic (List (Option HostInfo))
  | 0, _ => .ok []
  | n + 1, st => do
    let (r, st) ← st.next p replicas
    let rs ← PickState.nextN p replicas n st
    pure (r :: rs)

/-! ### What the loops yield -/

/-- The up hosts the second loop yields over `tiers`, from position `k` of the first: each
tier from the start, up to the first empty one. -/
def remoteUps : List (List (Option HostInfo)) → Nat → List HostInfo
  | [], _ => []
  | tier :: tiers, k =>
    if k < tier.length then (tier.drop k).filterMap upHost ++ remoteUps tiers 0 else []

/-- The hosts of `hs` not in `used`, as the third loop yields them. -/
def newHosts (used : List HostInfo) : List HostInfo → List HostInfo
  | [] => []
  | h :: hs => if h ∈ used then newHosts used hs else h :: newHosts (h :: used) hs

theorem firstUp_some : ∀ {l : List (Option HostInfo)} {host : HostInfo} {n : Nat},
    firstUp l = some (host, n) →
      n < l.length ∧ l.filterMap upHost = host :: (l.drop (n + 1)).filterMap upHost
  | [], _, _, h => by cases h
  | h :: hs, host, n, hfirst => by
    unfold firstUp at hfirst
    split at hfirst
    · rename_i host' hup
      cases hfirst
      exact ⟨by simp, by simp [hup]⟩
    · rename_i hup
      obtain ⟨⟨host', n'⟩, hrest, hpair⟩ := Option.map_eq_some_iff.mp hfirst
      cases hpair
      obtain ⟨hlt, hfm⟩ := firstUp_some hrest
      exact ⟨by simp; omega, by simp [hup, hfm]⟩

theorem firstUp_none : ∀ {l : List (Option HostInfo)}, firstUp l = none → l.filterMap upHost = []
  | [], _ => rfl
  | h :: hs, hfirst => by
    unfold firstUp at hfirst
    split at hfirst
    · cases hfirst
    · rename_i hup
      simp only [Option.map_eq_none_iff] at hfirst
      simp [hup, firstUp_none hfirst]

/-- **The second loop**: it yields the first host of `remoteUps`, and leaves the cursors where
the rest of `remoteUps` starts; when it yields nothing, `remoteUps` is empty. -/
theorem nextRemote_spec : ∀ {tiers : List (List (Option HostInfo))} {j k j' k' : Nat}
    {r : Option HostInfo}, nextRemote tiers j k = (r, j', k') →
      ∃ m, j' = j + m ∧ remoteUps tiers k = r.toList ++ remoteUps (tiers.drop m) k' ∧
        (r = none → remoteUps tiers k = [])
  | [], j, k, j', k', r, h => by
    cases h
    exact ⟨0, rfl, rfl, fun _ => rfl⟩
  | tier :: tiers, j, k, j', k', r, h => by
    unfold nextRemote at h
    split at h
    · rename_i hk
      split at h
      · rename_i host n hfirst
        obtain ⟨hn, hfm⟩ := firstUp_some hfirst
        rw [List.drop_drop] at hfm
        split at h
        · -- the host was the tier's last up host: on to the next tier
          rename_i hlast
          cases h
          have hnil : tier.drop (k + (n + 1)) = [] := List.drop_eq_nil_of_le (by omega)
          refine ⟨1, rfl, ?_, fun h => by cases h⟩
          simp [remoteUps, hk, hfm, hnil]
        · rename_i hmore
          cases h
          refine ⟨0, by simp, ?_, fun h => by cases h⟩
          have hk' : k + n + 1 < tier.length := by omega
          simp only [remoteUps, if_pos hk, if_pos hk', hfm, List.drop_zero]
          simp [Nat.add_assoc]
      · rename_i hfirst
        obtain ⟨m, hj, hseq, hnone⟩ := nextRemote_spec h
        refine ⟨m + 1, by omega, ?_, fun hr => ?_⟩
        · simp [remoteUps, hk, firstUp_none hfirst, hseq]
        · simp [remoteUps, hk, firstUp_none hfirst, hnone hr]
    · rename_i hk
      cases h
      exact ⟨0, by simp, by simp [remoteUps, hk], fun _ => by simp [remoteUps, hk]⟩

/-- **The third loop**: it yields the first new host of the fallback's, and the hosts after
it are those left. -/
theorem nextFallback_spec (used : List HostInfo) : ∀ {hs rest : List HostInfo}
    {r : Option HostInfo}, nextFallback used hs = (r, rest) →
      newHosts used hs = r.toList ++ newHosts (r.toList ++ used) rest ∧ (r = none → rest = [])
  | [], rest, r, h => by
    cases h
    exact ⟨rfl, fun _ => rfl⟩
  | h :: hs, rest, r, hnext => by
    unfold nextFallback at hnext
    split at hnext
    · rename_i hmem
      rw [newHosts, if_pos hmem]
      exact nextFallback_spec used hnext
    · rename_i hmem
      cases hnext
      rw [newHosts, if_neg hmem]
      exact ⟨rfl, fun h => by cases h⟩

/-- `newHosts` reads `used` only through membership. -/
theorem newHosts_congr : ∀ {used used' : List HostInfo} (hs : List HostInfo),
    (∀ x, x ∈ used ↔ x ∈ used') → newHosts used hs = newHosts used' hs
  | _, _, [], _ => rfl
  | used, used', h :: hs, hu => by
    unfold newHosts
    by_cases hmem : h ∈ used
    · rw [if_pos hmem, if_pos ((hu h).mp hmem)]
      exact newHosts_congr hs hu
    · rw [if_neg hmem, if_neg (fun h' => hmem ((hu h).mpr h'))]
      congr 1
      exact newHosts_congr hs fun x => by simp [hu x]

section Replicas

variable (p : TokenAwareHostPolicy) (tierOf : Option HostInfo → Nat)

/-- `remote` once the first loop has gone over the replicas `hs`, whose tiers are `tierOf`. -/
def addRemote (remote : List (List (Option HostInfo))) (hs : List (Option HostInfo)) :
    List (List (Option HostInfo)) :=
  if p.nonLocalReplicasFallback then
    hs.foldl (fun r h => if tierOf h = 0 then r else r.modify (tierOf h - 1) (· ++ [h])) remote
  else remote

/-- The up replicas of tier 0 among `hs`, which the first loop yields. -/
def localUps (hs : List (Option HostInfo)) : List HostInfo :=
  hs.filterMap fun h => if tierOf h = 0 then upHost h else none

/-- `remote` has a list per tier when `nonLocalReplicasFallback` is set, and is nil when it is
not. -/
def PickState.Inv (st : PickState) : Prop :=
  st.remote.length = if p.nonLocalReplicasFallback then p.fallback.maxTier else 0

@[simp]
theorem addRemote_nil (remote : List (List (Option HostInfo))) :
    addRemote p tierOf remote [] = remote := by
  unfold addRemote
  split <;> rfl

theorem addRemote_append (remote : List (List (Option HostInfo))) (hs hs' : List (Option HostInfo)) :
    addRemote p tierOf remote (hs ++ hs') = addRemote p tierOf (addRemote p tierOf remote hs) hs' := by
  unfold addRemote
  split <;> simp [List.foldl_append]

theorem length_addRemote (remote : List (List (Option HostInfo))) (hs : List (Option HostInfo)) :
    (addRemote p tierOf remote hs).length = remote.length := by
  unfold addRemote
  split
  · induction hs generalizing remote with
    | nil => rfl
    | cons h hs ih =>
      rw [List.foldl_cons, ih]
      split <;> simp
  · rfl

@[simp]
theorem localUps_nil : localUps tierOf [] = [] := rfl

theorem localUps_append (hs hs' : List (Option HostInfo)) :
    localUps tierOf (hs ++ hs') = localUps tierOf hs ++ localUps tierOf hs' :=
  List.filterMap_append

theorem addRemote_singleton (remote : List (List (Option HostInfo))) (h : Option HostInfo) :
    addRemote p tierOf remote [h] =
      if p.nonLocalReplicasFallback ∧ tierOf h ≠ 0 then remote.modify (tierOf h - 1) (· ++ [h])
      else remote := by
  unfold addRemote
  by_cases hn : p.nonLocalReplicasFallback = true <;> by_cases h0 : tierOf h = 0 <;> simp [hn, h0]

/-- What the first loop does over the replicas `hs` from `st`: it stops after the replicas
`pre`, having yielded the up replica of tier 0 among them if there is one and put those of
other tiers in `remote`; when it yields nothing it has gone over all of `hs`. -/
def ReplicaRun (hs : List (Option HostInfo)) (st : PickState)
    (res : Except PickPanic (Option HostInfo × PickState)) : Prop :=
  ∃ r pre post, res = .ok (r, { st with
      i := st.i + pre.length
      remote := addRemote p tierOf st.remote pre
      used := r.toList ++ st.used }) ∧
    hs = pre ++ post ∧ localUps tierOf pre = r.toList ∧ (r = none → post = [])

/-- The replicas the closure yields from `st` on: the up replicas of tier 0 from `i` on, then
the up replicas the second loop reaches in `remote` as the first loop leaves it. -/
def PickState.before (replicas : List (Option HostInfo)) (st : PickState) : List HostInfo :=
  localUps tierOf (replicas.drop st.i) ++
    remoteUps ((addRemote p tierOf st.remote (replicas.drop st.i)).drop st.j) st.k

/-- The hosts the closure yields from `st` on: those replicas, then the hosts of the fallback's
iterator not yielded before. -/
def PickState.rest (replicas : List (Option HostInfo)) (st : PickState) : List HostInfo :=
  st.before p tierOf replicas ++
    newHosts (st.before p tierOf replicas ++ st.used) (st.fallbackIter.getD p.fallback.pick)

variable {p tierOf}

/-- The first loop past a replica `h` it does not yield. -/
theorem ReplicaRun.skip {h : Option HostInfo} {hs : List (Option HostInfo)} {st : PickState}
    {res : Except PickPanic (Option HostInfo × PickState)}
    (hrun : ReplicaRun p tierOf hs { st with
      i := st.i + 1
      remote := addRemote p tierOf st.remote [h] } res)
    (hlocal : localUps tierOf [h] = []) : ReplicaRun p tierOf (h :: hs) st res := by
  obtain ⟨r, pre, post, hres, hsplit, hlocal', hpost⟩ := hrun
  refine ⟨r, h :: pre, post, ?_, by rw [hsplit]; rfl, ?_, hpost⟩
  · rw [hres, List.length_cons, show h :: pre = [h] ++ pre from rfl, addRemote_append,
      Nat.add_assoc, Nat.add_comm 1]
  · rw [show h :: pre = [h] ++ pre from rfl, localUps_append, hlocal, hlocal']
    rfl

/-- **The first loop**, given the tiers of the replicas, and of no tier past `MaxHostTier`
where `remote` is indexed by them. -/
theorem nextReplica_spec : ∀ (hs : List (Option HostInfo)) (st : PickState),
    (∀ h ∈ hs, p.fallback.hostTier h = .ok (tierOf h)) →
    (p.nonLocalReplicasFallback → ∀ h ∈ hs, tierOf h ≤ p.fallback.maxTier) → st.Inv p →
      ReplicaRun p tierOf hs st (nextReplica p hs st)
  | [], st, _, _, _ => ⟨none, [], [], by simp [nextReplica], rfl, rfl, fun _ => rfl⟩
  | h :: hs, st, hT, hmax, hinv => by
    have hT' := fun h' hh' => hT h' (List.mem_cons_of_mem h hh')
    have hmax' := fun hn h' hh' => hmax hn h' (List.mem_cons_of_mem h hh')
    simp only [nextReplica, hT h List.mem_cons_self, except_ok_bind]
    by_cases h0 : tierOf h = 0
    · -- tier 0: yielded if up
      rw [if_neg (not_not.mpr h0)]
      have hadd : addRemote p tierOf st.remote [h] = st.remote := by
        simp [addRemote_singleton, h0]
      cases hup : upHost h with
      | some host =>
        exact ⟨some host, [h], hs, by simp [hadd], rfl, by simp [localUps, h0, hup],
          fun hr => by cases hr⟩
      | none =>
        refine ReplicaRun.skip ?_ (by simp [localUps, h0, hup])
        rw [hadd]
        exact nextReplica_spec hs _ hT' hmax' hinv
    · -- another tier: put in `remote` when `nonLocalReplicasFallback` is set
      rw [if_pos h0]
      refine ReplicaRun.skip ?_ (by simp [localUps, h0])
      by_cases hn : p.nonLocalReplicasFallback = true
      · have hlt : tierOf h - 1 < st.remote.length := by
          have hle := hmax hn h List.mem_cons_self
          have hpos := Nat.pos_of_ne_zero h0
          rw [hinv, if_pos hn]
          omega
        rw [if_pos hn]
        simp only [appendRemote, if_pos hlt, except_ok_bind]
        rw [addRemote_singleton, if_pos ⟨hn, h0⟩]
        exact nextReplica_spec hs _ hT' hmax'
          (by simp only [PickState.Inv, List.length_modify]; exact hinv)
      · rw [if_neg hn, addRemote_singleton, if_neg (fun hc => hn hc.1)]
        exact nextReplica_spec hs _ hT' hmax' hinv

/-- Yielding the first host of those before the fallback's: it is used from then on. -/
theorem cons_newHosts (h : HostInfo) (before used hs : List HostInfo) :
    (h :: before) ++ newHosts ((h :: before) ++ used) hs =
      h :: (before ++ newHosts (before ++ h :: used) hs) := by
  have hperm : List.Perm ((h :: before) ++ used) (before ++ h :: used) := by
    rw [List.cons_append]
    exact List.perm_middle.symm
  rw [newHosts_congr hs fun x => hperm.mem_iff]
  rfl

/-- A replica yielded: it is the first of those to come, and used from then on. -/
theorem rest_of_before {replicas : List (Option HostInfo)} {st st' : PickState} {h : HostInfo}
    (hb : st.before p tierOf replicas = h :: st'.before p tierOf replicas)
    (hu : st'.used = h :: st.used) (hf : st'.fallbackIter = st.fallbackIter) :
    st.rest p tierOf replicas = h :: st'.rest p tierOf replicas := by
  unfold PickState.rest
  rw [hb, hu, hf]
  exact cons_newHosts h _ _ _

/-- The second loop as the closure runs it: only with `nonLocalReplicasFallback`, without which
`remote` is nil. -/
theorem nextRemote_if_spec {R : List (List (Option HostInfo))} {j k j' k' : Nat}
    {r : Option HostInfo} (hR : p.nonLocalReplicasFallback = false → R = [])
    (h : (if p.nonLocalReplicasFallback then nextRemote (R.drop j) j k else (none, j, k)) =
      (r, j', k')) :
    remoteUps (R.drop j) k = r.toList ++ remoteUps (R.drop j') k' ∧
      (r = none → remoteUps (R.drop j) k = []) := by
  split at h
  · obtain ⟨m, rfl, hseq, hnone⟩ := nextRemote_spec h
    rw [List.drop_drop] at hseq
    exact ⟨hseq, hnone⟩
  · rename_i hn
    cases h
    rw [hR (by simpa using hn)]
    exact ⟨by simp [remoteUps], fun _ => by simp [remoteUps]⟩

/-- **One call of the closure** yields the first of the hosts still to come, or nil when there
are none left. -/
theorem next_rest {replicas : List (Option HostInfo)} {st : PickState}
    (hT : ∀ h ∈ replicas, p.fallback.hostTier h = .ok (tierOf h))
    (hmax : p.nonLocalReplicasFallback → ∀ h ∈ replicas, tierOf h ≤ p.fallback.maxTier)
    (hinv : st.Inv p) :
    ∃ r st', st.next p replicas = .ok (r, st') ∧ st'.Inv p ∧
      st.rest p tierOf replicas = r.toList ++ st'.rest p tierOf replicas ∧
      (r = none → st.rest p tierOf replicas = []) := by
  obtain ⟨r, pre, post, hrun, hsplit, hlocal, hpost⟩ :=
    nextReplica_spec (replicas.drop st.i) st (fun h hh => hT h (List.mem_of_mem_drop hh))
      (fun hn h hh => hmax hn h (List.mem_of_mem_drop hh)) hinv
  have hdrop : replicas.drop (st.i + pre.length) = post := by
    rw [← List.drop_drop, hsplit, List.drop_left]
  -- every state the call ends in has the `remote` the first loop left
  have hinv₁ : ∀ st' : PickState, st'.remote = addRemote p tierOf st.remote pre → st'.Inv p := by
    intro st' hr
    simp only [PickState.Inv, hr, length_addRemote]
    exact hinv
  cases r with
  | some host =>
    -- the first loop yields
    refine ⟨some host, { st with
        i := st.i + pre.length
        remote := addRemote p tierOf st.remote pre
        used := host :: st.used },
      by simp only [PickState.next, hrun, except_ok_bind]; rfl, hinv₁ _ rfl,
      rest_of_before ?_ rfl rfl, fun h => by cases h⟩
    simp [PickState.before, hsplit, hdrop, localUps_append, hlocal, addRemote_append]
  | none =>
    -- the first loop went over every replica left: on to the second loop
    have hpost' := hpost rfl
    subst hpost'
    rw [List.append_nil] at hsplit
    have hR : p.nonLocalReplicasFallback = false → addRemote p tierOf st.remote pre = [] := by
      intro hn
      have hlen := hinv
      simp only [PickState.Inv, hn, Bool.false_eq_true, if_false, List.length_eq_zero_iff] at hlen
      simp [addRemote, hn, hlen]
    rcases hres : (if p.nonLocalReplicasFallback then
        nextRemote ((addRemote p tierOf st.remote pre).drop st.j) st.j st.k
      else (none, st.j, st.k)) with ⟨r₂, j', k'⟩
    obtain ⟨hseq, hnone⟩ := nextRemote_if_spec hR hres
    cases r₂ with
    | some host =>
      refine ⟨some host, { st with
          i := st.i + pre.length
          j := j'
          k := k'
          remote := addRemote p tierOf st.remote pre
          used := host :: st.used },
        by simp only [PickState.next, hrun, except_ok_bind, hres]; rfl,
        hinv₁ _ rfl, rest_of_before ?_ rfl rfl, fun h => by cases h⟩
      simp [PickState.before, hsplit, hdrop, hlocal, hseq]
    | none =>
      -- nothing in `remote` either: on to the fallback's iterator
      rcases hfb : nextFallback st.used (st.fallbackIter.getD p.fallback.pick) with ⟨r₃, rest⟩
      obtain ⟨hnew, hrest⟩ := nextFallback_spec st.used hfb
      have hb : st.before p tierOf replicas = [] := by
        simp [PickState.before, hsplit, hlocal, hnone rfl]
      have hleft : remoteUps ((addRemote p tierOf st.remote pre).drop j') k' = [] := by
        rw [hnone rfl, Option.toList_none, List.nil_append] at hseq
        exact hseq.symm
      refine ⟨r₃, { st with
          i := st.i + pre.length
          j := j'
          k := k'
          remote := addRemote p tierOf st.remote pre
          used := r₃.toList ++ st.used
          fallbackIter := some rest },
        by simp only [PickState.next, hrun, except_ok_bind, hres, Option.toList_none,
          List.nil_append, hfb]; rfl,
        hinv₁ _ rfl, ?_, fun hr => ?_⟩
      · simp only [PickState.rest, hb, List.nil_append, hnew]
        simp [PickState.before, hdrop, hleft]
      · simp only [PickState.rest, hb, List.nil_append, hnew, hr, hrest hr, newHosts]
        rfl

end Replicas

section Tiers

variable {p : TokenAwareHostPolicy} {tierOf : Option HostInfo → Nat}

end Tiers

/-! ### The order of the hosts -/

section Order

variable (p : TokenAwareHostPolicy) (tierOf : Option HostInfo → Nat)

variable {p tierOf}

end Order

/-! ### Three runs against the documented order -/

/-- A host of the local rack of the local data center, and one of another data center. -/
def hostL : HostInfo := ⟨[10, 0, 0, 4], "local", "b", .up, [], 4⟩
def hostR : HostInfo := ⟨[10, 0, 0, 1], "remote", "a", .up, [], 5⟩

/-- `RackAwareRoundRobinPolicy("local", "b")` knowing the two hosts, as the fallback of
`TokenAwareHostPolicy` with `NonLocalReplicasFallback()`. -/
def rackAwareFallback : TokenAwareHostPolicy :=
  ⟨(RackAwareRR.mk 0 "local" "b" [[hostL], [], [hostR]]).toFallback, false, true⟩

/-- With replicas only in tier 2, tier 1 being empty, the loop over `remote` stops before them
and the closure yields the fallback's local host first.  A replica listed twice is yielded
twice.  On a ring without tokens and a keyspace without replicas the replica list is
`[nil]`, and the first call panics in `HostTier(nil)`. -/
theorem pick_misroutes :
    PickState.nextN rackAwareFallback [some hostR] 3 rackAwareFallback.initState =
      .ok [some hostL, some hostR, none] ∧
    PickState.nextN rackAwareFallback [some hostL, some hostL] 2 rackAwareFallback.initState =
      .ok [some hostL, some hostL] ∧
    pickReplicas rackAwareFallback id (fun _ => (0 : Nat)) (some ⟨∅, some ⟨[], []⟩⟩)
        (some ⟨"ks", some [1]⟩) = some [none] ∧
    PickState.next rackAwareFallback [none] rackAwareFallback.initState =
      .error .nilDereference := by
  refine ⟨?_, ?_, ?_, ?_⟩ <;> rfl

end Gocql
