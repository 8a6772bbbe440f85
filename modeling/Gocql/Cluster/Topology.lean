import Mathlib
import Gocql.Cluster.Host

/-!
# Cluster — replica placement

`networkTopology.replicaMap` (`topology.go`) places the replicas of every token range of the
ring for `NetworkTopologyStrategy`.  For each token whose owner's data center has a nonzero
replication factor it walks the ring from that token once round, and takes a host when its
data center still wants replicas: a host of a rack not yet seen in its data center at once, a
host of a seen rack only after every rack of the data center is seen (hosts skipped before
that are drained when the last rack turns up).  The walk stops early once every data center
has its replication factor (`haveRF`).

The walk is modelled as Go runs it: the per-data-center counters, seen-rack sets and skipped
queues are Go maps kept across tokens and reset per token, the loop guard is tested before
each step, and the three `panic`s of the function are the errors of `ReplicaPanic`.

* `walkStep`, `walk`: one iteration of the inner loop, and the loop over the ring from token
  `i` on.
* `replicaLoop`: the loop over the tokens, with the checks on the first replica.
* `NetworkTopology.replicaMap`: the whole function, with its final size check.
-/

namespace Gocql

variable {τ : Type}

/-- `hostToken`: a token of the ring and the host that owns it. -/
structure HostToken (τ : Type) where
  token : τ
  host : HostInfo
  deriving DecidableEq, Repr

/-- `tokenRing`: the tokens sorted ascending, each with its host, and the hosts they came
from. -/
structure TokenRing (τ : Type) where
  tokens : List (HostToken τ)
  hosts : List HostInfo

/-- `hostTokens`: the replicas of the range that ends at `token`. -/
structure HostTokens (τ : Type) where
  token : τ
  hosts : List HostInfo
  deriving DecidableEq, Repr

/-- `networkTopology`: the replication factor of each data center. -/
structure NetworkTopology where
  dcs : GoMap String Nat

/-- The `panic`s of `replicaMap`, one constructor per message. -/
inductive ReplicaPanic (τ : Type) where
  | replicaOverflow (rf count : Nat) (dc : String)
  | noReplicas (token : τ)
  | notPrimary (expected got : List UInt8)
  | sizeMismatch (got expected : Nat)
  deriving DecidableEq, Repr

namespace NetworkTopology

/-- `haveRF`: the counters have one entry per data center of `dcs`, each at its factor. -/
def haveRF (n : NetworkTopology) (replicaCounts : GoMap String Nat) : Bool :=
  replicaCounts.entries.length == n.dcs.entries.length &&
    n.dcs.entries.all fun e => e.2 == replicaCounts.get e.1

end NetworkTopology

/-- `dcRacks`: the racks of each data center among the ring's hosts. -/
def buildDcRacks (hosts : List HostInfo) : GoMap String (List String) :=
  hosts.foldl (fun m h => m.insert h.dataCenter ((m.get h.dataCenter).insert h.rack)) ∅

/-- The maps `replicaMap` keeps across its loops, and the replicas of the current token. -/
structure WalkState where
  replicas : List HostInfo
  skipped : GoMap String (List HostInfo)
  replicasInDC : GoMap String Nat
  seenDCRacks : GoMap String (List String)

/-- One iteration of the inner loop of `replicaMap` at host `h`. -/
def walkStep (n : NetworkTopology) (dcRacks : GoMap String (List String)) (h : HostInfo)
    (s : WalkState) : Except (ReplicaPanic τ) WalkState :=
  let dc := h.dataCenter
  let rack := h.rack
  let rf := n.dcs.get dc
  let count := s.replicasInDC.get dc
  if rf = 0 then .ok s
  else if rf ≤ count then
    if rf < count then .error (.replicaOverflow rf count dc) else .ok s
  else if rack ∉ dcRacks.get dc then .ok s
  else
    let racks := s.seenDCRacks.get dc
    if rack ∈ racks ∧ racks.length = (dcRacks.get dc).length then
      -- every rack seen: take the host although its rack is not new
      .ok { s with
        replicas := s.replicas ++ [h]
        replicasInDC := s.replicasInDC.insert dc (count + 1) }
    else if rack ∉ racks then
      let racks := racks.insert rack
      let seenDCRacks := s.seenDCRacks.insert dc racks
      let r := count + 1
      if racks.length = (dcRacks.get dc).length then
        -- the last rack: the drain loop stops at the queue's end or at `rf`
        let skippedHosts := s.skipped.get dc
        let k := min skippedHosts.length (rf - r)
        .ok { replicas := s.replicas ++ [h] ++ skippedHosts.take k
              skipped := s.skipped.insert dc (skippedHosts.drop k)
              replicasInDC := s.replicasInDC.insert dc (r + k)
              seenDCRacks := seenDCRacks }
      else
        .ok { s with
          replicas := s.replicas ++ [h]
          replicasInDC := s.replicasInDC.insert dc r
          seenDCRacks := seenDCRacks }
    else .ok { s with skipped := s.skipped.insert dc (s.skipped.get dc ++ [h]) }

/-- The inner loop of `replicaMap` over the hosts of the ring from the current token on: the
guard `len(replicas) < totalRF && !haveRF(replicasInDC)` is tested before each step. -/
def walk (n : NetworkTopology) (dcRacks : GoMap String (List String)) (totalRF : Nat) :
    List HostInfo → WalkState → Except (ReplicaPanic τ) WalkState
  | [], s => .ok s
  | h :: hs, s =>
      if s.replicas.length < totalRF ∧ n.haveRF s.replicasInDC = false then
        match walkStep n dcRacks h s with
        | .ok s' => walk n dcRacks totalRF hs s'
        | .error e => .error e
      else .ok s

/-- The resets at the top of each token: every skipped queue emptied, and the counter and
seen-rack set of every data center of `dcs` cleared. -/
def resetWalk (n : NetworkTopology) (s : WalkState) : WalkState :=
  { replicas := []
    skipped := s.skipped.keys.foldl (fun m k => m.insert k []) s.skipped
    replicasInDC := n.dcs.keys.foldl (fun m dc => m.insert dc 0) s.replicasInDC
    seenDCRacks := n.dcs.keys.foldl
      (fun m dc => if dc ∈ m then m.insert dc [] else m) s.seenDCRacks }

/-- The loop over the tokens of the ring, `i` the index of the current one: a token of a data
center without replicas is skipped, any other gets its walk, whose first replica must be the
token's owner. -/
def replicaLoop (n : NetworkTopology) (dcRacks : GoMap String (List String)) (totalRF : Nat)
    (tokens : List (HostToken τ)) :
    Nat → List (HostToken τ) → WalkState → List (HostTokens τ) →
      Except (ReplicaPanic τ) (List (HostTokens τ))
  | _, [], _, ring => .ok ring
  | i, th :: rest, s, ring =>
      if n.dcs.get th.host.dataCenter = 0 then replicaLoop n dcRacks totalRF tokens (i + 1) rest s ring
      else
        -- the walk visits `tokens[i + j]` for `j < len(tokens)`, wrapping round the ring
        match walk n dcRacks totalRF ((tokens.drop i ++ tokens.take i).map HostToken.host)
            (resetWalk n s) with
        | .error e => .error e
        | .ok s =>
          match s.replicas with
          | [] => .error (.noReplicas th.token)
          | r :: rs =>
            if r.equal th.host then
              replicaLoop n dcRacks totalRF tokens (i + 1) rest s (ring ++ [⟨th.token, r :: rs⟩])
            else .error (.notPrimary r.connectAddress th.host.connectAddress)

namespace NetworkTopology

/-- `networkTopology.replicaMap`. -/
def replicaMap (n : NetworkTopology) (tokenRing : TokenRing τ) :
    Except (ReplicaPanic τ) (List (HostTokens τ)) :=
  let dcRacks := buildDcRacks tokenRing.hosts
  let s : WalkState :=
    { replicas := []
      skipped := ∅
      replicasInDC := dcRacks.keys.foldl (fun m dc => m.insert dc 0) ∅
      seenDCRacks := dcRacks.keys.foldl (fun m dc => m.insert dc []) ∅ }
  let totalRF := (n.dcs.entries.map Sigma.snd).sum
  match replicaLoop n dcRacks totalRF tokenRing.tokens 0 tokenRing.tokens s [] with
  | .error e => .error e
  | .ok ring =>
    let dcsWithReplicas := (n.dcs.entries.filter fun e => 0 < e.2).length
    if dcsWithReplicas = dcRacks.entries.length ∧ ring.length ≠ tokenRing.tokens.length then
      .error (.sizeMismatch ring.length tokenRing.tokens.length)
    else .ok ring

end NetworkTopology

/-! ### A ring with a host on two tokens -/

/-- Two hosts of one rack of `dc1`; `hostA` owns two tokens of the ring. -/
def hostA : HostInfo := ⟨[10, 0, 0, 1], "dc1", "r1", .up, [], 1⟩
def hostB : HostInfo := ⟨[10, 0, 0, 2], "dc1", "r1", .up, [], 2⟩
def hostC : HostInfo := ⟨[10, 0, 0, 3], "dc2", "r1", .up, [], 3⟩

/-- With three replicas wanted in `dc1` and two hosts there, every replica list takes a host
twice; and with a factor for a data center outside the ring and none for `dc2`, the final size
check panics. -/
theorem replicaMap_repeats_host :
    NetworkTopology.replicaMap ⟨(∅ : GoMap String Nat).insert "dc1" 3⟩
        (⟨[⟨0, hostA⟩, ⟨1, hostB⟩, ⟨2, hostA⟩], [hostA, hostB]⟩ : TokenRing Int) =
      .ok [⟨0, [hostA, hostB, hostA]⟩, ⟨1, [hostB, hostA, hostA]⟩, ⟨2, [hostA, hostA, hostB]⟩] ∧
    NetworkTopology.replicaMap ⟨((∅ : GoMap String Nat).insert "dc1" 1).insert "dc3" 1⟩
        (⟨[⟨0, hostA⟩, ⟨1, hostC⟩], [hostA, hostC]⟩ : TokenRing Int) =
      .error (.sizeMismatch 1 2) := by
  constructor <;> decide

end Gocql
