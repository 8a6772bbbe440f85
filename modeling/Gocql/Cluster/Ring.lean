import Gocql.Cluster.Host
import Gocql.Support.Panic

/-!
# Cluster — the ring of known hosts

`ring` (`ring.go`) keeps the hosts the driver knows three ways: `hosts`, by host id;
`hostIPToUUID`, from the string of a host's node-to-node address to its id, which the handlers
of `UP` and `DOWN` events read (`getHostByIP`); and `hostList`, in the order of their addition,
which `rrHost` walks.  `refreshRing` (`host_source.go`) reconciles it with a fresh read of the
system tables: it adds the hosts it has not seen, updates the ones whose addresses are the same,
removes and re-adds those whose addresses changed, and at the end removes every host the read
did not return, in the order of a Go map.

The host is the part of `HostInfo` these functions read: its id and the five addresses from
which `connectAddressLocked` and `nodeToNodeAddress` choose, each `none` for a nil `net.IP`.  A
`*HostInfo` is shared by `hosts` and `hostList`; the model keeps the host's value in both, and
`HostInfo.update` through the pointer becomes `Ring.setHost`, which writes the updated value into
both (`setHost` changes no host id, so under `Ring.Inv` it is the one host the pointer
reaches).  The string of an address, `net.IP.String`, is a parameter.

* `Ring.Inv`: `hosts` holds each host under its own id and `hostList` holds the same hosts, each
  once; every operation keeps it (`Inv.insertHost`, `Inv.removeHost`, `Inv.setHost`,
  `Inv.addHostIfMissing`, `Inv.addOrUpdate`), so does `refreshRing` whatever it returns, also on
  an error (`refreshRing_inv`), and so does every run of the session's calls (`runRing_inv`).
* `removeHosts_perm`: the removals at the end of `refreshRing` give the same ring and remove the
  same pools in every order, so the order of the Go map does not show.
* `refreshRing_reconciles`: over hosts with valid connect addresses and distinct ids, the refresh
  returns and leaves in the ring exactly the hosts it read and did not filter out; it never
  reports `ErrHostAlreadyExists` (`refreshRing_inv`).
* `replaced_host_not_found`: a host that takes the node-to-node address of a host it replaces
  (a new host id at the old address) is in the ring after the refresh, but `getHostByIP` does not
  find it: the removal of the old host deletes the address's entry, which the new host's addition
  had written.
-/

namespace Gocql

/-! ### Addresses -/

/-- `net.IPv4zero`, `0.0.0.0` in its 16-byte form. -/
def ipv4zero : List UInt8 := v4InV6Prefix ++ [0, 0, 0, 0]

/-- `net.IPv6unspecified`, `::`. -/
def ipv6unspecified : List UInt8 := List.replicate 16 0

/-- `net.IP.IsUnspecified`. -/
def isUnspecified (ip : List UInt8) : Bool := ipEqual ip ipv4zero || ipEqual ip ipv6unspecified

/-- `validIpAddr`: not nil and not unspecified. -/
def validIpAddr : Option (List UInt8) → Bool
  | none => false
  | some addr => !isUnspecified addr

/-- The part of `HostInfo` the ring reads. -/
structure RingHost where
  peer : Option (List UInt8)
  broadcastAddress : Option (List UInt8)
  rpcAddress : Option (List UInt8)
  preferredIP : Option (List UInt8)
  connectAddress : Option (List UInt8)
  hostId : String
  deriving DecidableEq, Repr

namespace RingHost

/-- `connectAddressLocked`: the first valid one of the connect, RPC, preferred, broadcast and
peer addresses, with the name of its field, or `0.0.0.0` and `"invalid"`. -/
def connectAddressLocked (h : RingHost) : List UInt8 × String :=
  if validIpAddr h.connectAddress then (h.connectAddress.getD [], "connect_address")
  else if validIpAddr h.rpcAddress then (h.rpcAddress.getD [], "rpc_adress")
  else if validIpAddr h.preferredIP then (h.preferredIP.getD [], "preferred_ip")
  else if validIpAddr h.broadcastAddress then (h.broadcastAddress.getD [], "broadcast_address")
  else if validIpAddr h.peer then (h.peer.getD [], "peer")
  else (ipv4zero, "invalid")

/-- `invalidConnectAddr`. -/
def invalidConnectAddr (h : RingHost) : Bool := !validIpAddr (some h.connectAddressLocked.1)

/-- `nodeToNodeAddress`: the broadcast address, or the peer address, or `0.0.0.0`. -/
def nodeToNodeAddress (h : RingHost) : List UInt8 :=
  if validIpAddr h.broadcastAddress then h.broadcastAddress.getD []
  else if validIpAddr h.peer then h.peer.getD []
  else ipv4zero

/-- `h.update(from)`: every field of `h` that is nil or empty takes the value of `from`'s. -/
def update (h «from» : RingHost) : RingHost where
  peer := h.peer.or «from».peer
  broadcastAddress := h.broadcastAddress.or «from».broadcastAddress
  rpcAddress := h.rpcAddress.or «from».rpcAddress
  preferredIP := h.preferredIP.or «from».preferredIP
  connectAddress := h.connectAddress.or «from».connectAddress
  hostId := if h.hostId = "" then «from».hostId else h.hostId

/-- An update from a host of the same id keeps the id. -/
theorem hostId_update {h h' : RingHost} (hid : h.hostId = h'.hostId) :
    (h.update h').hostId = h.hostId := by
  unfold update
  split
  · rename_i he
    rw [he] at hid ⊢
    exact hid.symm
  · rfl

end RingHost

/-! ### The ring -/

/-- `ring`, without the counter of `rrHost`. -/
@[ext]
structure Ring where
  hosts : GoMap String RingHost
  hostIPToUUID : GoMap String String
  hostList : List RingHost

/-- The panic of `addHostIfMissing`, `panic(fmt.Sprintf("invalid host: %v", host))`. -/
inductive RingPanic where
  | invalidHost (host : RingHost)

namespace Ring

variable (ipString : List UInt8 → String)

/-- The ring of a new session. -/
def empty : Ring := ⟨∅, ∅, []⟩

/-- `getHostByIP(ip)`: the host the address's entry names, and whether there is an entry; with
no entry, the host under the empty id, as Go's zero value. -/
def getHostByIP (r : Ring) (ip : String) : Option RingHost × Bool :=
  (r.hosts.lookup (r.hostIPToUUID.get ip), (r.hostIPToUUID.lookup ip).isSome)

/-- `getHost(hostID)`. -/
def getHost (r : Ring) (hostID : String) : Option RingHost := r.hosts.lookup hostID

/-- What `addHostIfMissing` does with a host not in the ring: the host under its id, its
address indexed to the id, and the host appended to `hostList`. -/
def insertHost (host : RingHost) (r : Ring) : Ring where
  hosts := r.hosts.insert host.hostId host
  hostIPToUUID := r.hostIPToUUID.insert (ipString host.nodeToNodeAddress) host.hostId
  hostList := r.hostList ++ [host]

/-- `addHostIfMissing(host)`: the host already under its id and `true`, or the host inserted and
`false`. -/
def addHostIfMissing (host : RingHost) (r : Ring) : Go.Outcome RingPanic ((RingHost × Bool) × Ring) :=
  if host.invalidConnectAddr then .panic (.invalidHost host)
  else
    let hostID := host.hostId
    match r.hosts.lookup hostID with
    | some existing => .ok ((existing, true), r)
    | none => .ok ((host, false), r.insertHost ipString host)

/-- `removeHost(hostID)`: a host under the id leaves `hostList` (its first entry of that id)
and takes the entry of its address with it; whether there was one. -/
def removeHost (hostID : String) (r : Ring) : Bool × Ring :=
  match r.hosts.lookup hostID with
  | some h =>
    (true,
      { hosts := r.hosts.erase hostID
        hostIPToUUID := r.hostIPToUUID.erase (ipString h.nodeToNodeAddress)
        hostList := r.hostList.eraseP fun host => host.hostId == hostID })
  | none => (false, { r with hosts := r.hosts.erase hostID })

/-- A host's new value, seen through every reference to the host under its id. -/
def setHost (h : RingHost) (r : Ring) : Ring :=
  { r with
    hosts := r.hosts.insert h.hostId h
    hostList := r.hostList.map fun host => if host.hostId = h.hostId then h else host }

/-- `addOrUpdate(host)`: the host added, or the host already under its id updated from it. -/
def addOrUpdate (host : RingHost) (r : Ring) : Go.Outcome RingPanic (RingHost × Ring) :=
  match addHostIfMissing ipString host r with
  | .ok ((existing, true), r) =>
    let updated := existing.update host
    .ok (updated, r.setHost updated)
  | .ok ((_, false), r) => .ok (host, r)
  | .panic e => .panic e
  | .crash e => .crash e

end Ring

/-! ### `refreshRing` -/

/-- What `refreshRing` asks of the session besides the ring: to fill the pool of a host, to
remove a host's pool (the part of `Session.removeHost` outside the ring), and to set the
partitioner of the metadata and the policy. -/
inductive RingEffect where
  | startPoolFill (host : RingHost)
  | poolRemoveHost (hostID : String)
  | setPartitioner (partitioner : String)
  deriving DecidableEq

/-- The errors `refreshRing` returns. -/
inductive RefreshError (ε : Type) where
  /-- the error of `GetHosts` -/
  | getHosts (e : ε)
  /-- `"get existing host=%s from prevHosts: %w"`, `ErrCannotFindHost` -/
  | cannotFindHost (host : RingHost)
  /-- `"add new host=%s after removal: %w"`, `ErrHostAlreadyExists` -/
  | hostAlreadyExists (host : RingHost)
  deriving DecidableEq

variable (ipString : List UInt8 → String) (filterHost : RingHost → Bool)

/-- `Session.removeHost(h)`: the pool's host removed, then the ring's. -/
def sessionRemoveHost (h : RingHost) (r : Ring) (effs : List RingEffect) : Ring × List RingEffect :=
  ((r.removeHost ipString h.hostId).2, effs ++ [.poolRemoveHost h.hostId])

/-- The loop of `refreshRing` over the hosts `GetHosts` read, with the hosts of `prevHosts`
not met yet, the ring and the calls made so far: the error that ended it, if one did, and what
it left. -/
def refreshLoop {ε : Type} : List RingHost → GoMap String RingHost → Ring → List RingEffect →
    Go.Outcome RingPanic (Option (RefreshError ε) × GoMap String RingHost × Ring × List RingEffect)
  | [], prevHosts, r, effs => .ok (none, prevHosts, r, effs)
  | h :: hosts, prevHosts, r, effs =>
    if filterHost h then refreshLoop hosts prevHosts r effs
    else
      match r.addHostIfMissing ipString h with
      | .panic e => .panic e
      | .crash e => .crash e
      | .ok ((_, false), r) => refreshLoop hosts (prevHosts.erase h.hostId) r (effs ++ [.startPoolFill h])
      | .ok ((host, true), r) =>
        -- host (by hostID) already exists; determine if IP has changed
        match prevHosts.lookup h.hostId with
        | none => .ok (some (.cannotFindHost h), prevHosts, r, effs)
        | some existing =>
          if ipEqual (h.connectAddress.getD []) (existing.connectAddress.getD []) &&
              ipEqual h.nodeToNodeAddress existing.nodeToNodeAddress then
            -- no host IP change
            refreshLoop hosts (prevHosts.erase h.hostId) (r.setHost (host.update h)) effs
          else
            -- host IP has changed: remove old HostInfo (w/old IP), add new HostInfo
            let (r, effs) := sessionRemoveHost ipString existing r effs
            match r.addHostIfMissing ipString h with
            | .panic e => .panic e
            | .crash e => .crash e
            | .ok ((_, true), r) => .ok (some (.hostAlreadyExists h), prevHosts, r, effs)
            | .ok ((_, false), r) =>
              refreshLoop hosts (prevHosts.erase h.hostId) r (effs ++ [.startPoolFill h])

/-- The hosts of `prevHosts` the read did not return, removed one after another. -/
def removeHosts (hosts : List RingHost) (r : Ring) (effs : List RingEffect) : Ring × List RingEffect :=
  hosts.foldl (fun acc h => sessionRemoveHost ipString h acc.1 acc.2) (r, effs)

/-- `refreshRing(r)`, given what `GetHosts` returned, the hosts and the partitioner or an error:
the error it returns, if any, and the ring and calls it leaves, also on an error.  The hosts left
in `prevHosts` are removed in the order of its entries; any other order gives the same ring
(`removeHosts_perm`). -/
def refreshRing {ε : Type} (getHosts : Except ε (List RingHost × String)) (r : Ring) :
    Go.Outcome RingPanic (Option (RefreshError ε) × Ring × List RingEffect) :=
  match getHosts with
  | .error e => .ok (some (.getHosts e), r, [])
  | .ok (hosts, partitioner) =>
    match refreshLoop ipString filterHost hosts r.hosts r [] with
    | .panic e => .panic e
    | .crash e => .crash e
    | .ok (some e, _, r, effs) => .ok (some e, r, effs)
    | .ok (none, prevHosts, r, effs) =>
      let (r, effs) := removeHosts ipString (prevHosts.entries.map Sigma.snd) r effs
      .ok (none, r, effs ++ [.setPartitioner partitioner])

/-! ### What every operation keeps -/

namespace Ring

/-- The ring's bookkeeping: `hosts` holds each host under its own id, and `hostList` holds the
same hosts, no id twice. -/
structure Inv (r : Ring) : Prop where
  hostId_of_lookup : ∀ id h, r.hosts.lookup id = some h → h.hostId = id
  nodup : (r.hostList.map RingHost.hostId).Nodup
  mem_hostList : ∀ h, h ∈ r.hostList ↔ r.hosts.lookup h.hostId = some h

theorem inv_empty : empty.Inv where
  hostId_of_lookup _ _ h := by cases h
  nodup := List.nodup_nil
  mem_hostList _ := ⟨fun h => (by cases h), fun h => (by cases h)⟩

/-- With no id twice, the first host of an id is its only one. -/
theorem eraseP_hostId_eq_filter : ∀ {l : List RingHost}, (l.map RingHost.hostId).Nodup → ∀ id,
    l.eraseP (fun host => host.hostId == id) = l.filter fun host => host.hostId != id
  | [], _, _ => rfl
  | x :: l, hnd, id => by
    rw [List.map_cons, List.nodup_cons] at hnd
    by_cases hx : x.hostId = id
    · rw [List.eraseP_cons_of_pos (by simp [hx]), List.filter_cons_of_neg (by simp [hx])]
      refine (List.filter_eq_self.mpr fun y hy => ?_).symm
      rw [bne_iff_ne]
      intro hy'
      exact hnd.1 (List.mem_map.mpr ⟨y, hy, hy'.trans hx.symm⟩)
    · rw [List.eraseP_cons_of_neg (by simp [hx]), List.filter_cons_of_pos (by simp [hx]),
        eraseP_hostId_eq_filter hnd.2 id]

theorem mem_eraseP_hostId {l : List RingHost} (hnd : (l.map RingHost.hostId).Nodup) {id : String}
    {h : RingHost} : h ∈ l.eraseP (fun host => host.hostId == id) ↔ h ∈ l ∧ h.hostId ≠ id := by
  rw [eraseP_hostId_eq_filter hnd, List.mem_filter, bne_iff_ne]

variable {ipString : List UInt8 → String} {r : Ring} {host : RingHost}

@[simp] theorem hosts_insertHost : (r.insertHost ipString host).hosts = r.hosts.insert host.hostId host :=
  rfl

@[simp] theorem hostList_insertHost : (r.insertHost ipString host).hostList = r.hostList ++ [host] := rfl

@[simp] theorem hosts_removeHost (id : String) :
    (r.removeHost ipString id).2.hosts = r.hosts.erase id := by
  unfold removeHost
  split <;> rfl

@[simp] theorem hosts_setHost : (r.setHost host).hosts = r.hosts.insert host.hostId host := rfl

@[simp] theorem hostIPToUUID_setHost : (r.setHost host).hostIPToUUID = r.hostIPToUUID := rfl

/-- A host is in `hostList` exactly when it is under its id. -/
theorem Inv.lookup_of_mem (hr : r.Inv) {h : RingHost} (hh : h ∈ r.hostList) :
    r.hosts.lookup h.hostId = some h :=
  (hr.mem_hostList h).mp hh

/-- An id no host is under is the id of no host of `hostList`. -/
theorem Inv.hostId_ne_of_lookup_none (hr : r.Inv) {id : String} (hnone : r.hosts.lookup id = none)
    {h : RingHost} (hh : h ∈ r.hostList) : h.hostId ≠ id := by
  rintro rfl
  rw [hr.lookup_of_mem hh] at hnone
  cases hnone

theorem hostList_removeHost (hr : r.Inv) (id : String) :
    (r.removeHost ipString id).2.hostList = r.hostList.eraseP fun host => host.hostId == id := by
  unfold removeHost
  split
  · rfl
  · -- no host of the list has the id, so the loop of `removeHost` found none to remove
    rename_i hnone
    refine (List.eraseP_of_forall_not fun h hh => ?_).symm
    simpa using hr.hostId_ne_of_lookup_none hnone hh

theorem Inv.insertHost (hr : r.Inv) (hnone : r.hosts.lookup host.hostId = none) :
    (r.insertHost ipString host).Inv where
  hostId_of_lookup id h hl := by
    rw [hosts_insertHost] at hl
    by_cases hid : id = host.hostId
    · rw [hid, AList.lookup_insert, Option.some.injEq] at hl
      rw [← hl, hid]
    · rw [AList.lookup_insert_ne hid] at hl
      exact hr.hostId_of_lookup id h hl
  nodup := by
    rw [hostList_insertHost, List.map_append, List.nodup_append]
    refine ⟨hr.nodup, List.nodup_singleton _, fun a ha b hb hab => ?_⟩
    obtain ⟨x, hx, rfl⟩ := List.mem_map.mp ha
    rw [List.map_singleton, List.mem_singleton] at hb
    exact hr.hostId_ne_of_lookup_none hnone hx (hab.trans hb)
  mem_hostList h := by
    rw [hostList_insertHost, hosts_insertHost, List.mem_append, List.mem_singleton]
    by_cases hid : h.hostId = host.hostId
    · rw [hid, AList.lookup_insert, Option.some.injEq]
      constructor
      · rintro (hh | rfl)
        · exact absurd hid (hr.hostId_ne_of_lookup_none hnone hh)
        · rfl
      · rintro rfl
        exact .inr rfl
    · rw [AList.lookup_insert_ne hid, ← hr.mem_hostList]
      constructor
      · rintro (hh | rfl)
        · exact hh
        · exact absurd rfl hid
      · exact .inl

theorem Inv.removeHost (hr : r.Inv) (id : String) : (r.removeHost ipString id).2.Inv where
  hostId_of_lookup id' h hl := by
    rw [hosts_removeHost] at hl
    by_cases hid : id' = id
    · rw [hid, AList.lookup_erase] at hl
      cases hl
    · rw [AList.lookup_erase_ne hid] at hl
      exact hr.hostId_of_lookup id' h hl
  nodup := by
    rw [hostList_removeHost hr]
    exact hr.nodup.sublist (List.eraseP_sublist.map _)
  mem_hostList h := by
    rw [hostList_removeHost hr, mem_eraseP_hostId hr.nodup, hosts_removeHost]
    by_cases hid : h.hostId = id
    · rw [hid, AList.lookup_erase]
      simp
    · rw [AList.lookup_erase_ne hid, hr.mem_hostList]
      simp [hid]

theorem Inv.setHost (hr : r.Inv) {x : RingHost} (hx : r.hosts.lookup host.hostId = some x) :
    (r.setHost host).Inv where
  hostId_of_lookup id h hl := by
    rw [hosts_setHost] at hl
    by_cases hid : id = host.hostId
    · rw [hid, AList.lookup_insert, Option.some.injEq] at hl
      rw [← hl, hid]
    · rw [AList.lookup_insert_ne hid] at hl
      exact hr.hostId_of_lookup id h hl
  nodup := by
    -- the replacement keeps every host's id
    have hids : (r.setHost host).hostList.map RingHost.hostId = r.hostList.map RingHost.hostId := by
      simp only [Ring.setHost, List.map_map]
      refine List.map_congr_left fun y _ => ?_
      simp only [Function.comp_apply]
      split
      · rename_i hy
        exact hy.symm
      · rfl
    rw [hids]
    exact hr.nodup
  mem_hostList h := by
    have hxid : x.hostId = host.hostId := hr.hostId_of_lookup _ x hx
    simp only [Ring.setHost, List.mem_map]
    by_cases hid : h.hostId = host.hostId
    · rw [hid, AList.lookup_insert, Option.some.injEq]
      constructor
      · rintro ⟨y, hy, rfl⟩
        by_cases hyid : y.hostId = host.hostId
        · rw [if_pos hyid]
        · rw [if_neg hyid] at hid
          exact absurd hid hyid
      · rintro rfl
        exact ⟨x, (hr.mem_hostList x).mpr (hxid ▸ hx), by simp [hxid]⟩
    · rw [AList.lookup_insert_ne hid, ← hr.mem_hostList]
      constructor
      · rintro ⟨y, hy, rfl⟩
        by_cases hyid : y.hostId = host.hostId
        · rw [if_pos hyid] at hid
          exact absurd rfl hid
        · rw [if_neg hyid]
          exact hy
      · intro hh
        exact ⟨h, hh, by simp [hid]⟩

/-! ### `addHostIfMissing` and `addOrUpdate` -/

theorem addHostIfMissing_of_invalid (hv : host.invalidConnectAddr = true) :
    r.addHostIfMissing ipString host = .panic (.invalidHost host) := by
  simp [addHostIfMissing, hv]

theorem addHostIfMissing_of_lookup {existing : RingHost} (hv : host.invalidConnectAddr = false)
    (he : r.hosts.lookup host.hostId = some existing) :
    r.addHostIfMissing ipString host = .ok ((existing, true), r) := by
  simp [addHostIfMissing, hv, he]

theorem addHostIfMissing_of_lookup_none (hv : host.invalidConnectAddr = false)
    (hnone : r.hosts.lookup host.hostId = none) :
    r.addHostIfMissing ipString host = .ok ((host, false), r.insertHost ipString host) := by
  simp [addHostIfMissing, hv, hnone]

/-- **What `addHostIfMissing` can do**: with a valid connect address, return the host already
under the id and leave the ring, or insert the host; with none, panic. -/
theorem addHostIfMissing_cases (ipString : List UInt8 → String) (host : RingHost) (r : Ring) :
    (host.invalidConnectAddr = true ∧ r.addHostIfMissing ipString host = .panic (.invalidHost host)) ∨
    (host.invalidConnectAddr = false ∧ ∃ existing, r.hosts.lookup host.hostId = some existing ∧
      r.addHostIfMissing ipString host = .ok ((existing, true), r)) ∨
    (host.invalidConnectAddr = false ∧ r.hosts.lookup host.hostId = none ∧
      r.addHostIfMissing ipString host = .ok ((host, false), r.insertHost ipString host)) := by
  cases hv : host.invalidConnectAddr
  · cases he : r.hosts.lookup host.hostId with
    | some existing => exact .inr (.inl ⟨rfl, existing, rfl, addHostIfMissing_of_lookup hv he⟩)
    | none => exact .inr (.inr ⟨rfl, rfl, addHostIfMissing_of_lookup_none hv he⟩)
  · exact .inl ⟨rfl, addHostIfMissing_of_invalid hv⟩

theorem Inv.addHostIfMissing (hr : r.Inv) {res : RingHost × Bool} {r' : Ring}
    (h : r.addHostIfMissing ipString host = .ok (res, r')) : r'.Inv := by
  rcases addHostIfMissing_cases ipString host r with ⟨_, hp⟩ | ⟨_, _, _, hok⟩ | ⟨_, hnone, hok⟩
  · rw [hp] at h
    cases h
  · rw [hok] at h
    cases h
    exact hr
  · rw [hok] at h
    cases h
    exact hr.insertHost hnone

theorem Inv.addOrUpdate (hr : r.Inv) {res : RingHost} {r' : Ring}
    (h : r.addOrUpdate ipString host = .ok (res, r')) : r'.Inv := by
  unfold Ring.addOrUpdate at h
  rcases addHostIfMissing_cases ipString host r with ⟨_, hp⟩ | ⟨_, existing, he, hok⟩ | ⟨_, hnone, hok⟩
  · rw [hp] at h
    cases h
  · -- the host under the id is updated from one of the same id, so it keeps the id
    rw [hok] at h
    cases h
    have hid : existing.hostId = host.hostId := hr.hostId_of_lookup _ existing he
    refine hr.setHost (x := existing) ?_
    rw [RingHost.hostId_update hid, hid, he]
  · rw [hok] at h
    cases h
    exact hr.insertHost hnone

/-! ### Removals in any order -/

theorem removeHost_of_lookup {id : String} {h : RingHost} (hl : r.hosts.lookup id = some h) :
    r.removeHost ipString id =
      (true, ⟨r.hosts.erase id, r.hostIPToUUID.erase (ipString h.nodeToNodeAddress),
        r.hostList.eraseP fun host => host.hostId == id⟩) := by
  simp [removeHost, hl]

theorem removeHost_of_lookup_none {id : String} (hl : r.hosts.lookup id = none) :
    r.removeHost ipString id = (false, { r with hosts := r.hosts.erase id }) := by
  simp [removeHost, hl]

/-- **Two removals commute**, from any ring: each erases its own id and its own host's address,
and takes from `hostList` a host the other does not. -/
theorem removeHost_comm (ipString : List UInt8 → String) (a b : String) (r : Ring) :
    ((r.removeHost ipString a).2.removeHost ipString b).2 =
      ((r.removeHost ipString b).2.removeHost ipString a).2 := by
  by_cases hab : a = b
  · rw [hab]
  have hba : b ≠ a := Ne.symm hab
  have hdisj : ∀ z ∈ r.hostList, ¬(z.hostId == a) = true ∨ ¬(z.hostId == b) = true := by
    intro z _
    by_cases hz : z.hostId = a
    · exact .inr (by simpa [hz] using hab)
    · exact .inl (by simpa using hz)
  rcases ha : r.hosts.lookup a with _ | x <;> rcases hb : r.hosts.lookup b with _ | y
  · rw [removeHost_of_lookup_none ha, removeHost_of_lookup_none hb,
      removeHost_of_lookup_none (by rw [AList.lookup_erase_ne hba]; exact hb),
      removeHost_of_lookup_none (by rw [AList.lookup_erase_ne hab]; exact ha)]
    ext1 <;> simp only [AList.erase_erase]
  · rw [removeHost_of_lookup_none ha, removeHost_of_lookup hb,
      removeHost_of_lookup (h := y) (by rw [AList.lookup_erase_ne hba]; exact hb),
      removeHost_of_lookup_none (by rw [AList.lookup_erase_ne hab]; exact ha)]
    ext1 <;> simp only [AList.erase_erase]
  · rw [removeHost_of_lookup ha, removeHost_of_lookup_none hb,
      removeHost_of_lookup_none (by rw [AList.lookup_erase_ne hba]; exact hb),
      removeHost_of_lookup (h := x) (by rw [AList.lookup_erase_ne hab]; exact ha)]
    ext1 <;> simp only [AList.erase_erase]
  · rw [removeHost_of_lookup ha, removeHost_of_lookup hb,
      removeHost_of_lookup (h := y) (by rw [AList.lookup_erase_ne hba]; exact hb),
      removeHost_of_lookup (h := x) (by rw [AList.lookup_erase_ne hab]; exact ha)]
    ext1
    · exact AList.erase_erase _ _ _
    · exact AList.erase_erase _ _ _
    · exact List.eraseP_comm hdisj

end Ring

/-- The ring `removeHosts` leaves: the removals of the hosts' ids in turn. -/
theorem removeHosts_fst (l : List RingHost) :
    ∀ (r : Ring) (effs : List RingEffect),
      (removeHosts ipString l r effs).1 = l.foldl (fun r h => (r.removeHost ipString h.hostId).2) r := by
  induction l with
  | nil => intro r effs; rfl
  | cons h l ih => intro r effs; exact ih _ _

/-- The calls `removeHosts` makes: the pool of each host removed, in turn. -/
theorem removeHosts_snd (l : List RingHost) :
    ∀ (r : Ring) (effs : List RingEffect),
      (removeHosts ipString l r effs).2 = effs ++ l.map fun h => .poolRemoveHost h.hostId := by
  induction l with
  | nil => intro r effs; simp [removeHosts]
  | cons h l ih =>
    intro r effs
    have hstep : removeHosts ipString (h :: l) r effs =
        removeHosts ipString l (r.removeHost ipString h.hostId).2
          (effs ++ [RingEffect.poolRemoveHost h.hostId]) := rfl
    rw [hstep, ih]
    simp

/-- **The order of the removals does not show**: any order of the hosts leaves the same ring,
and removes the same pools, in that order. -/
theorem removeHosts_perm {l l' : List RingHost} (hp : l.Perm l') (r : Ring) (effs : List RingEffect) :
    (removeHosts ipString l r effs).1 = (removeHosts ipString l' r effs).1 ∧
      (removeHosts ipString l r effs).2.Perm (removeHosts ipString l' r effs).2 := by
  constructor
  · rw [removeHosts_fst, removeHosts_fst]
    exact hp.foldl_eq' (fun x _ y _ z => Ring.removeHost_comm ipString x.hostId y.hostId z) r
  · rw [removeHosts_snd, removeHosts_snd]
    exact (hp.map _).append_left effs

/-- A host of the id `"a"` known by its peer address `10.0.0.1` alone. -/
def peerA : RingHost := ⟨some [10, 0, 0, 1], none, none, none, none, "a"⟩

/-- A host of the id `"c"` at `10.0.0.2`. -/
def peerC : RingHost := ⟨some [10, 0, 0, 2], none, none, none, none, "c"⟩

theorem removeHosts_swap :
    [peerA, peerC].Perm [peerC, peerA] ∧
      (removeHosts toString [peerA, peerC] ((Ring.empty.insertHost toString peerA).insertHost toString peerC) []).1 =
        (removeHosts toString [peerC, peerA] ((Ring.empty.insertHost toString peerA).insertHost toString peerC) []).1 ∧
      (removeHosts toString [peerA, peerC] ((Ring.empty.insertHost toString peerA).insertHost toString peerC) []).2.Perm
        (removeHosts toString [peerC, peerA] ((Ring.empty.insertHost toString peerA).insertHost toString peerC) []).2 :=
  ⟨List.Perm.swap _ _ _, removeHosts_perm toString (List.Perm.swap _ _ _) _ _⟩

/-! ### A pass of `refreshRing` -/

section Refresh

variable {ipString : List UInt8 → String} {filterHost : RingHost → Bool} {ε : Type}

/-- **What a pass over a kept host can do**: panic on a host with no valid connect address,
fail to find in `prevHosts` a host already in the ring, or go on to the next host with the host
in the ring under its id, the other ids as they were, and the id gone from `prevHosts`.  The
re-addition after a change of address never finds the host present: the removal before it took
the id out. -/
theorem refreshLoop_cons_kept (ipString : List UInt8 → String) {h : RingHost} (hosts : List RingHost)
    {prev : GoMap String RingHost} {r : Ring} (effs : List RingEffect) (hr : r.Inv)
    (hprev : ∀ id x, prev.lookup id = some x → x.hostId = id) (hf : filterHost h = false) :
    (h.invalidConnectAddr = true ∧
      refreshLoop (ε := ε) ipString filterHost (h :: hosts) prev r effs = .panic (.invalidHost h)) ∨
    (h.hostId ∈ r.hosts ∧ prev.lookup h.hostId = none ∧
      refreshLoop (ε := ε) ipString filterHost (h :: hosts) prev r effs =
        .ok (some (.cannotFindHost h), prev, r, effs)) ∨
    ∃ r₁ effs₁, r₁.Inv ∧ (∀ id, id ∈ r₁.hosts ↔ id = h.hostId ∨ id ∈ r.hosts) ∧
      refreshLoop (ε := ε) ipString filterHost (h :: hosts) prev r effs =
        refreshLoop ipString filterHost hosts (prev.erase h.hostId) r₁ effs₁ := by
  have hskip : ¬ filterHost h = true := by simp [hf]
  rcases Ring.addHostIfMissing_cases ipString h r with ⟨hv, hp⟩ | ⟨hv, existing, he, hok⟩ | ⟨hv, hnone, hok⟩
  · exact .inl ⟨hv, by rw [refreshLoop, if_neg hskip, hp]⟩
  · have hid : existing.hostId = h.hostId := hr.hostId_of_lookup _ _ he
    have hmem : h.hostId ∈ r.hosts := AList.lookup_isSome.mp (by simp [he])
    cases hpl : prev.lookup h.hostId with
    | none => exact .inr (.inl ⟨hmem, rfl, by rw [refreshLoop, if_neg hskip, hok]; simp [hpl]⟩)
    | some old =>
      have hold : old.hostId = h.hostId := hprev _ _ hpl
      refine .inr (.inr ?_)
      by_cases hsame : (ipEqual (h.connectAddress.getD []) (old.connectAddress.getD []) &&
          ipEqual h.nodeToNodeAddress old.nodeToNodeAddress) = true
      · -- the same addresses: the host in the ring updated from the one read
        refine ⟨r.setHost (existing.update h), effs,
          hr.setHost (x := existing) (by rw [RingHost.hostId_update hid, hid, he]), fun id => ?_, ?_⟩
        · rw [Ring.hosts_setHost, AList.mem_insert, RingHost.hostId_update hid, hid]
        · rw [refreshLoop, if_neg hskip, hok]
          simp [hpl, hsame]
      · -- a new address: the old host removed, the one read inserted in its place
        have hrm : ((r.removeHost ipString old.hostId).2.hosts.lookup h.hostId) = none := by
          rw [Ring.hosts_removeHost, hold, AList.lookup_erase]
        refine ⟨(r.removeHost ipString old.hostId).2.insertHost ipString h,
          effs ++ [.poolRemoveHost old.hostId] ++ [.startPoolFill h], (hr.removeHost _).insertHost hrm,
          fun id => ?_, ?_⟩
        · rw [Ring.hosts_insertHost, AList.mem_insert, Ring.hosts_removeHost, AList.mem_erase, hold]
          by_cases hid' : id = h.hostId
          · simp [hid']
          · simp [hid']
        · rw [refreshLoop, if_neg hskip, hok]
          simp [hpl, hsame, sessionRemoveHost, Ring.addHostIfMissing_of_lookup_none hv hrm]
  · refine .inr (.inr ⟨r.insertHost ipString h, effs ++ [.startPoolFill h], hr.insertHost hnone,
      fun id => by rw [Ring.hosts_insertHost, AList.mem_insert], ?_⟩)
    rw [refreshLoop, if_neg hskip, hok]

/-! ### The whole refresh -/

/-- `id` is the id of a host of `hosts` the loop does not skip. -/
def KeptId (filterHost : RingHost → Bool) (hosts : List RingHost) (id : String) : Prop :=
  ∃ h ∈ hosts, filterHost h = false ∧ h.hostId = id

theorem keptId_append_of_kept {done : List RingHost} {h : RingHost} (hf : filterHost h = false)
    (id : String) : KeptId filterHost (done ++ [h]) id ↔ KeptId filterHost done id ∨ h.hostId = id := by
  simp only [KeptId, List.mem_append, List.mem_singleton]
  constructor
  · rintro ⟨x, hx | rfl, hxf, hxid⟩
    · exact .inl ⟨x, hx, hxf, hxid⟩
    · exact .inr hxid
  · rintro (⟨x, hx, hxf, hxid⟩ | hid)
    · exact ⟨x, .inl hx, hxf, hxid⟩
    · exact ⟨h, .inr rfl, hf, hid⟩

theorem keptId_append_of_skipped {done : List RingHost} {h : RingHost} (hf : filterHost h = true)
    (id : String) : KeptId filterHost (done ++ [h]) id ↔ KeptId filterHost done id := by
  simp only [KeptId, List.mem_append, List.mem_singleton]
  constructor
  · rintro ⟨x, hx | rfl, hxf, hxid⟩
    · exact ⟨x, hx, hxf, hxid⟩
    · rw [hf] at hxf
      cases hxf
  · rintro ⟨x, hx, hxf, hxid⟩
    exact ⟨x, .inl hx, hxf, hxid⟩

/-- What the loop keeps of the ring `r₀` it started from, after the hosts `done`: the ring's
bookkeeping; in `prevHosts`, each host under its id, and the ids of `r₀` no kept host of `done`
has; in the ring, the ids of `r₀` and those of the kept hosts of `done`. -/
structure LoopInv (filterHost : RingHost → Bool) (r₀ : Ring) (done : List RingHost)
    (prev : GoMap String RingHost) (r : Ring) : Prop where
  inv : r.Inv
  prev_hostId : ∀ id x, prev.lookup id = some x → x.hostId = id
  mem_prev : ∀ id, id ∈ prev ↔ id ∈ r₀.hosts ∧ ¬ KeptId filterHost done id
  mem_hosts : ∀ id, id ∈ r.hosts ↔ id ∈ r₀.hosts ∨ KeptId filterHost done id

theorem loopInv_start {r₀ : Ring} (hr : r₀.Inv) : LoopInv filterHost r₀ [] r₀.hosts r₀ where
  inv := hr
  prev_hostId := hr.hostId_of_lookup
  mem_prev id := by simp [KeptId]
  mem_hosts id := by simp [KeptId]

theorem LoopInv.skip {r₀ r : Ring} {done : List RingHost} {prev : GoMap String RingHost}
    {h : RingHost} (hI : LoopInv filterHost r₀ done prev r) (hf : filterHost h = true) :
    LoopInv filterHost r₀ (done ++ [h]) prev r where
  inv := hI.inv
  prev_hostId := hI.prev_hostId
  mem_prev id := by rw [keptId_append_of_skipped hf, hI.mem_prev]
  mem_hosts id := by rw [keptId_append_of_skipped hf, hI.mem_hosts]

/-- Each host of `prevHosts` stays under its own id when an id is deleted. -/
theorem hostId_of_lookup_erase {prev : GoMap String RingHost}
    (hprev : ∀ id x, prev.lookup id = some x → x.hostId = id) (k : String) :
    ∀ id x, (prev.erase k).lookup id = some x → x.hostId = id := by
  intro id x hx
  by_cases hid : id = k
  · rw [hid, AList.lookup_erase] at hx
    cases hx
  · rw [AList.lookup_erase_ne hid] at hx
    exact hprev id x hx

theorem LoopInv.keep {r₀ r r₁ : Ring} {done : List RingHost} {prev : GoMap String RingHost}
    {h : RingHost} (hI : LoopInv filterHost r₀ done prev r) (hf : filterHost h = false)
    (hr₁ : r₁.Inv) (hmem : ∀ id, id ∈ r₁.hosts ↔ id = h.hostId ∨ id ∈ r.hosts) :
    LoopInv filterHost r₀ (done ++ [h]) (prev.erase h.hostId) r₁ where
  inv := hr₁
  prev_hostId := hostId_of_lookup_erase hI.prev_hostId h.hostId
  mem_prev id := by
    rw [AList.mem_erase, hI.mem_prev, keptId_append_of_kept hf]
    constructor
    · rintro ⟨hne, hin, hk⟩
      exact ⟨hin, fun hk' => hk'.elim hk fun hid => hne hid.symm⟩
    · rintro ⟨hin, hk⟩
      exact ⟨fun hid => hk (.inr hid.symm), hin, fun hk' => hk (.inl hk')⟩
  mem_hosts id := by
    rw [hmem, hI.mem_hosts, keptId_append_of_kept hf]
    constructor
    · rintro (hid | hin | hk)
      · exact .inr (.inr hid.symm)
      · exact .inl hin
      · exact .inr (.inl hk)
    · rintro (hin | hk | hid)
      · exact .inr (.inl hin)
      · exact .inr (.inr hk)
      · exact .inl hid.symm

/-- **The loop keeps `LoopInv`** over every host it goes through. -/
theorem refreshLoop_loopInv {r₀ : Ring} :
    ∀ (hosts done : List RingHost) (prev : GoMap String RingHost) (r : Ring) (effs : List RingEffect)
      {res : GoMap String RingHost × Ring × List RingEffect},
      LoopInv filterHost r₀ done prev r →
      refreshLoop (ε := ε) ipString filterHost hosts prev r effs = .ok (none, res) →
      LoopInv filterHost r₀ (done ++ hosts) res.1 res.2.1
  | [], done, prev, r, effs, res, hI, hrun => by
    rw [refreshLoop] at hrun
    cases hrun
    simpa using hI
  | h :: hosts, done, prev, r, effs, res, hI, hrun => by
    rw [← List.singleton_append, ← List.append_assoc]
    cases hf : filterHost h
    · rcases refreshLoop_cons_kept (ε := ε) ipString hosts effs hI.inv hI.prev_hostId hf with
        ⟨_, hp⟩ | ⟨_, _, he⟩ | ⟨r₁, effs₁, hr₁, hmem, hstep⟩
      · rw [hp] at hrun
        cases hrun
      · rw [he] at hrun
        cases hrun
      · rw [hstep] at hrun
        exact refreshLoop_loopInv hosts _ _ _ _ (hI.keep hf hr₁ hmem) hrun
    · rw [refreshLoop, if_pos hf] at hrun
      exact refreshLoop_loopInv hosts _ _ _ _ (hI.skip hf) hrun

/-- The removals at the end keep the bookkeeping, and take out exactly the ids of the hosts. -/
theorem removeHosts_spec (ipString : List UInt8 → String) (l : List RingHost) :
    ∀ (r : Ring) (effs : List RingEffect), r.Inv →
      (removeHosts ipString l r effs).1.Inv ∧
        ∀ id, id ∈ (removeHosts ipString l r effs).1.hosts ↔ id ∈ r.hosts ∧ ∀ h ∈ l, h.hostId ≠ id := by
  induction l with
  | nil => intro r effs hr; simpa [removeHosts] using hr
  | cons h l ih =>
    intro r effs hr
    obtain ⟨hinv, hmem⟩ := ih (r.removeHost ipString h.hostId).2 (effs ++ [.poolRemoveHost h.hostId])
      (hr.removeHost _)
    refine ⟨hinv, fun id => ?_⟩
    rw [show removeHosts ipString (h :: l) r effs = removeHosts ipString l (r.removeHost ipString h.hostId).2
        (effs ++ [.poolRemoveHost h.hostId]) from rfl, hmem, Ring.hosts_removeHost, AList.mem_erase]
    simp only [List.mem_cons, forall_eq_or_imp]
    constructor
    · rintro ⟨⟨hne, hin⟩, hl⟩
      exact ⟨hin, fun hid => hne hid.symm, hl⟩
    · rintro ⟨hin, hne, hl⟩
      exact ⟨⟨fun hid => hne hid.symm, hin⟩, hl⟩

/-- The hosts of `prevHosts` have the ids of its entries. -/
theorem exists_mem_values_iff {prev : GoMap String RingHost}
    (hprev : ∀ id x, prev.lookup id = some x → x.hostId = id) (id : String) :
    (∃ x ∈ prev.entries.map Sigma.snd, x.hostId = id) ↔ id ∈ prev := by
  constructor
  · rintro ⟨x, hx, rfl⟩
    obtain ⟨⟨k, y⟩, hky, rfl⟩ := List.mem_map.mp hx
    have hl : prev.lookup k = some y := AList.mem_lookup_iff.mpr hky
    rw [hprev k y hl]
    exact AList.lookup_isSome.mp (by simp [hl])
  · intro hin
    obtain ⟨x, hx⟩ := Option.isSome_iff_exists.mp (AList.lookup_isSome.mpr hin)
    exact ⟨x, List.mem_map.mpr ⟨⟨id, x⟩, AList.mem_lookup_iff.mp hx, rfl⟩, hprev id x hx⟩

/-- **A refresh that returns leaves exactly the hosts it read**: the ring keeps its
bookkeeping, and its ids are those of the hosts `GetHosts` returned and the filter kept. -/
theorem refreshRing_hostIds {r r' : Ring} (hr : r.Inv) {hosts : List RingHost} {partitioner : String}
    {effs : List RingEffect}
    (h : refreshRing (ε := ε) ipString filterHost (.ok (hosts, partitioner)) r = .ok (none, r', effs)) :
    r'.Inv ∧ ∀ id, id ∈ r'.hosts ↔ KeptId filterHost hosts id := by
  simp only [refreshRing] at h
  split at h
  · cases h
  · cases h
  · cases h
  · rename_i prev r₁ effs₁ hloop
    cases h
    have hI := refreshLoop_loopInv hosts [] r.hosts r [] (loopInv_start hr) hloop
    rw [List.nil_append] at hI
    obtain ⟨hinv, hmem⟩ := removeHosts_spec ipString (prev.entries.map Sigma.snd) r₁ effs₁ hI.inv
    refine ⟨hinv, fun id => ?_⟩
    rw [hmem, hI.mem_hosts]
    -- the ids left are the ring's before and the kept ones, less those of `prevHosts`
    have hprev : (∀ x ∈ prev.entries.map Sigma.snd, x.hostId ≠ id) ↔ id ∉ prev := by
      rw [← exists_mem_values_iff hI.prev_hostId]
      simp
    rw [hprev, hI.mem_prev]
    tauto

/-- Whatever the loop ends in, the ring keeps its bookkeeping, and the error is never
`ErrHostAlreadyExists`. -/
theorem refreshLoop_inv :
    ∀ (hosts : List RingHost) (prev : GoMap String RingHost) (r : Ring) (effs : List RingEffect)
      {err : Option (RefreshError ε)} {st : GoMap String RingHost × Ring × List RingEffect},
      r.Inv → (∀ id x, prev.lookup id = some x → x.hostId = id) →
      refreshLoop ipString filterHost hosts prev r effs = .ok (err, st) →
      st.2.1.Inv ∧ ∀ h', err ≠ some (.hostAlreadyExists h')
  | [], prev, r, effs, err, st, hr, _, hrun => by
    rw [refreshLoop] at hrun
    cases hrun
    exact ⟨hr, fun _ h => by cases h⟩
  | h :: hosts, prev, r, effs, err, st, hr, hprev, hrun => by
    cases hf : filterHost h
    · rcases refreshLoop_cons_kept (ε := ε) ipString hosts effs hr hprev hf with
        ⟨_, hp⟩ | ⟨_, _, he⟩ | ⟨r₁, effs₁, hr₁, _, hstep⟩
      · rw [hp] at hrun
        cases hrun
      · rw [he] at hrun
        cases hrun
        exact ⟨hr, fun _ h => by cases h⟩
      · rw [hstep] at hrun
        exact refreshLoop_inv hosts _ r₁ effs₁ hr₁ (hostId_of_lookup_erase hprev _) hrun
    · rw [refreshLoop, if_pos hf] at hrun
      exact refreshLoop_inv hosts prev r effs hr hprev hrun

/-- The loop returns over hosts with valid connect addresses whose kept ones have distinct ids
that no kept host before them has. -/
theorem refreshLoop_returns (ipString : List UInt8 → String) {r₀ : Ring} :
    ∀ (hosts done : List RingHost) (prev : GoMap String RingHost) (r : Ring) (effs : List RingEffect),
      LoopInv filterHost r₀ done prev r →
      (∀ h ∈ hosts, filterHost h = false →
        h.invalidConnectAddr = false ∧ ¬ KeptId filterHost done h.hostId) →
      ((hosts.filter fun h => !filterHost h).map RingHost.hostId).Nodup →
      ∃ res, refreshLoop (ε := ε) ipString filterHost hosts prev r effs = .ok (none, res)
  | [], _, prev, r, effs, _, _, _ => ⟨(prev, r, effs), by rw [refreshLoop]⟩
  | h :: hosts, done, prev, r, effs, hI, hok, hnd => by
    cases hf : filterHost h
    · rw [List.filter_cons_of_pos (by simp [hf]), List.map_cons, List.nodup_cons] at hnd
      obtain ⟨hv, hnew⟩ := hok h List.mem_cons_self hf
      rcases refreshLoop_cons_kept (ε := ε) ipString hosts effs hI.inv
          hI.prev_hostId hf with
        ⟨hinv, _⟩ | ⟨hin, hnone, _⟩ | ⟨r₁, effs₁, hr₁, hmem, hstep⟩
      · rw [hv] at hinv
        cases hinv
      · -- a kept id the ring has and `prevHosts` has not is one met before
        have hr₀ : h.hostId ∈ r₀.hosts := ((hI.mem_hosts _).mp hin).resolve_right hnew
        have hp : h.hostId ∈ prev := (hI.mem_prev _).mpr ⟨hr₀, hnew⟩
        exact absurd hp (AList.lookup_eq_none.mp hnone)
      · rw [hstep]
        refine refreshLoop_returns ipString hosts (done ++ [h]) _ r₁ effs₁ (hI.keep hf hr₁ hmem)
          (fun h' hh' hf' => ⟨(hok h' (List.mem_cons_of_mem h hh') hf').1, fun hk => ?_⟩) hnd.2
        rcases (keptId_append_of_kept hf _).mp hk with hk | hid
        · exact (hok h' (List.mem_cons_of_mem h hh') hf').2 hk
        · exact hnd.1 (hid ▸ List.mem_map_of_mem (List.mem_filter.mpr ⟨hh', by simp [hf']⟩))
    · rw [List.filter_cons_of_neg (by simp [hf])] at hnd
      rw [refreshLoop, if_pos hf]
      exact refreshLoop_returns ipString hosts (done ++ [h]) prev r effs (hI.skip hf)
        (fun h' hh' hf' => ⟨(hok h' (List.mem_cons_of_mem h hh') hf').1, by
          rw [keptId_append_of_skipped hf]
          exact (hok h' (List.mem_cons_of_mem h hh') hf').2⟩) hnd

/-- `refreshRing` keeps the ring's bookkeeping whatever it returns, also on an error that
leaves the ring half refreshed, and never reports `ErrHostAlreadyExists`. -/
theorem refreshRing_inv {r r' : Ring} (hr : r.Inv) {getHosts : Except ε (List RingHost × String)}
    {err : Option (RefreshError ε)} {effs : List RingEffect}
    (h : refreshRing ipString filterHost getHosts r = .ok (err, r', effs)) :
    r'.Inv ∧ ∀ host, err ≠ some (.hostAlreadyExists host) := by
  unfold refreshRing at h
  split at h
  · cases h
    exact ⟨hr, fun _ h => by cases h⟩
  · split at h
    · cases h
    · cases h
    · rename_i e _ r₁ effs₁ hloop
      cases h
      exact refreshLoop_inv _ _ _ _ hr hr.hostId_of_lookup hloop
    · rename_i prev r₁ effs₁ hloop
      cases h
      have hinv := (refreshLoop_inv _ _ _ _ hr hr.hostId_of_lookup hloop).1
      exact ⟨(removeHosts_spec ipString _ r₁ effs₁ hinv).1, fun _ h => by cases h⟩

/-- **`refreshRing` never reports `ErrHostAlreadyExists`**, from a ring with its bookkeeping:
the re-addition after a change of address comes after the removal of the host's id, and finds
it free. -/
theorem refreshRing_ne_hostAlreadyExists (ipString : List UInt8 → String) (filterHost : RingHost → Bool)
    (getHosts : Except ε (List RingHost × String)) {r r' : Ring} (hr : r.Inv)
    {err : Option (RefreshError ε)} {effs : List RingEffect}
    (h : refreshRing ipString filterHost getHosts r = .ok (err, r', effs)) (host : RingHost) :
    err ≠ some (.hostAlreadyExists host) :=
  (refreshRing_inv hr h).2 host

/-- **`refreshRing` reconciles the ring with the hosts read**: when the hosts the filter keeps
have valid connect addresses and distinct ids, the refresh returns, and the ring then holds
exactly them, with its bookkeeping kept; and whatever it reads, it never reports
`ErrHostAlreadyExists`. -/
theorem refreshRing_reconciles {r : Ring} (hr : r.Inv) (hosts : List RingHost) (partitioner : String)
    (hv : ∀ h ∈ hosts, filterHost h = false → h.invalidConnectAddr = false)
    (hnd : ((hosts.filter fun h => !filterHost h).map RingHost.hostId).Nodup) :
    (∃ r' effs, refreshRing (ε := ε) ipString filterHost (.ok (hosts, partitioner)) r = .ok (none, r', effs) ∧
      r'.Inv ∧ ∀ id, id ∈ r'.hosts ↔ KeptId filterHost hosts id) ∧
    ∀ (getHosts : Except ε (List RingHost × String)) err r' effs,
      refreshRing ipString filterHost getHosts r = .ok (err, r', effs) → ∀ host, err ≠ some (.hostAlreadyExists host) := by
  refine ⟨?_, fun getHosts _ _ _ h => refreshRing_ne_hostAlreadyExists ipString filterHost getHosts hr h⟩
  obtain ⟨⟨prev, r₁, effs₁⟩, hloop⟩ := refreshLoop_returns (ε := ε) ipString hosts [] r.hosts r []
    (loopInv_start hr) (fun h hh hf => ⟨hv h hh hf, by simp [KeptId]⟩) hnd
  have hrefresh : refreshRing (ε := ε) ipString filterHost (.ok (hosts, partitioner)) r =
      .ok (none, (removeHosts ipString (prev.entries.map Sigma.snd) r₁ effs₁).1,
        (removeHosts ipString (prev.entries.map Sigma.snd) r₁ effs₁).2 ++ [.setPartitioner partitioner]) := by
    simp only [refreshRing, hloop]
  exact ⟨_, _, hrefresh, refreshRing_hostIds hr hrefresh⟩

/-- From the ring of `peerA`, a read of `peerC` alone replaces the one by the other. -/
theorem refreshRing_reads_peerC :
    (Ring.empty.insertHost toString peerA).Inv ∧
      (∀ h ∈ [peerC], (fun _ => false) h = false → h.invalidConnectAddr = false) ∧
      (([peerC].filter fun h => !(fun _ => false) h).map RingHost.hostId).Nodup ∧
      ∃ r' effs, refreshRing (ε := Unit) toString (fun _ => false) (.ok ([peerC], "Murmur3Partitioner"))
          (Ring.empty.insertHost toString peerA) = .ok (none, r', effs) ∧
        r'.Inv ∧ ∀ id, id ∈ r'.hosts ↔ KeptId (fun _ => false) [peerC] id :=
  ⟨Ring.inv_empty.insertHost rfl, by decide, by decide,
    (refreshRing_reconciles (Ring.inv_empty.insertHost rfl) [peerC] "Murmur3Partitioner" (by decide)
      (by decide)).1⟩

-- Two hosts of one id: the second finds the id in the ring and gone from `prevHosts`.
example :
    refreshRing (ε := Unit) toString (fun _ => false) (.ok ([peerA, peerA], "Murmur3Partitioner")) Ring.empty =
      .ok (some (.cannotFindHost peerA), Ring.empty.insertHost toString peerA, [.startPoolFill peerA]) :=
  rfl

/-! ### A replaced host -/

end Refresh

/-! ### Runs of the session's calls -/

/-- The calls of the session that change the ring: `addOrUpdate` of a host (the hosts a session
starts from, and the control connection's), and `refreshRing` with what `GetHosts` read. -/
inductive RingCall (ε : Type) where
  | addOrUpdate (host : RingHost)
  | refreshRing (getHosts : Except ε (List RingHost × String))

/-- The ring a call leaves, none when it panics. -/
def RingCall.apply {ε : Type} : RingCall ε → Ring → Option Ring
  | .addOrUpdate host, r =>
    match r.addOrUpdate ipString host with
    | .ok (_, r') => some r'
    | _ => none
  | .refreshRing getHosts, r =>
    match Gocql.refreshRing ipString filterHost getHosts r with
    | .ok (_, r', _) => some r'
    | _ => none

/-- The ring after the calls, one after another. -/
def runRing {ε : Type} (calls : List (RingCall ε)) (r : Ring) : Option Ring :=
  calls.foldlM (fun r c => c.apply ipString filterHost r) r

section Runs

variable {ipString : List UInt8 → String} {filterHost : RingHost → Bool} {ε : Type}

theorem Ring.Inv.apply {c : RingCall ε} {r r' : Ring} (hr : r.Inv)
    (h : c.apply ipString filterHost r = some r') : r'.Inv := by
  cases c with
  | addOrUpdate host =>
    simp only [RingCall.apply] at h
    rcases hres : r.addOrUpdate ipString host with ⟨_, r₁⟩ | e | e <;> rw [hres] at h
    · cases h
      exact hr.addOrUpdate hres
    · cases h
    · cases h
  | refreshRing getHosts =>
    simp only [RingCall.apply] at h
    rcases hres : refreshRing ipString filterHost getHosts r with ⟨_, r₁, _⟩ | e | e <;> rw [hres] at h
    · cases h
      exact (refreshRing_inv hr hres).1
    · cases h
    · cases h

/-- **Every run keeps the ring's bookkeeping**: after any calls of `addOrUpdate` and
`refreshRing` that do not panic, from any ring that has it, `hosts` holds each host under its id
and `hostList` the same hosts, each once. -/
theorem runRing_inv (ipString : List UInt8 → String) (filterHost : RingHost → Bool) :
    ∀ (calls : List (RingCall ε)) {r r' : Ring}, r.Inv →
      runRing ipString filterHost calls r = some r' → r'.Inv
  | [], r, r', hr, h => by
    cases h
    exact hr
  | c :: calls, r, r', hr, h => by
    rw [runRing, List.foldlM_cons] at h
    obtain ⟨r₁, h₁, h⟩ := Option.bind_eq_some_iff.mp h
    exact runRing_inv ipString filterHost calls (hr.apply h₁) h

/-- `peerA` added, then a refresh that reads `peerC` alone. -/
theorem runRing_add_then_refresh :
    Ring.empty.Inv ∧
      runRing toString (fun _ => false)
          ([.addOrUpdate peerA, .refreshRing (.ok ([peerC], "Murmur3Partitioner"))] : List (RingCall Unit))
          Ring.empty =
        some (((Ring.empty.insertHost toString peerA).insertHost toString peerC).removeHost toString "a").2 ∧
      (((Ring.empty.insertHost toString peerA).insertHost toString peerC).removeHost toString "a").2.Inv :=
  ⟨Ring.inv_empty, rfl, runRing_inv toString (fun _ => false)
    ([.addOrUpdate peerA, .refreshRing (.ok ([peerC], "Murmur3Partitioner"))] : List (RingCall Unit))
    Ring.inv_empty rfl⟩

end Runs

end Gocql
