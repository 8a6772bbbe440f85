import Mathlib.Data.List.AList

/-!
# Cluster — hosts and Go maps

The part of `HostInfo` that replica placement and host selection read: the connect address
that `HostInfo.Equal` compares, the data center and rack, the up/down state that `IsUp` tests,
and the tokens `newTokenRing` parses.  A `*HostInfo` is a pointer in Go, and `==` on it, the `seen` maps of the replication
strategies and the `used` set of `tokenAwareHostPolicy.Pick` compare pointers: two nodes with
the same address, data center, rack and state are still two hosts.  So a host carries its
object's address, `ptr`.  One object has one value, so two hosts of one `ptr` are equal, and
equality of values is the comparison of pointers.  A nil `*HostInfo` is `none`.

The driver's maps from a string (a data center, a keyspace) are Go maps; they are `AList`s
here, read through `GoMap.get`, which returns the value type's zero value for a missing key as
a Go map index does.
-/

namespace Gocql

/-! ### Go maps -/

/-- A Go map: one entry per key, in no particular order. -/
abbrev GoMap (κ : Type) [DecidableEq κ] (ν : Type) := AList (fun _ : κ => ν)

namespace GoMap

variable {κ ν : Type} [DecidableEq κ] [Inhabited ν]

/-- `m[k]`: the entry of `k`, or the zero value. -/
def get (m : GoMap κ ν) (k : κ) : ν := (m.lookup k).getD default

@[simp]
theorem get_insert_self (m : GoMap κ ν) (k : κ) (v : ν) : get (m.insert k v) k = v := by
  simp [get, AList.lookup_insert]

@[simp]
theorem get_insert_ne (m : GoMap κ ν) {k k' : κ} (v : ν) (h : k' ≠ k) :
    get (m.insert k v) k' = m.get k' := by
  simp [get, AList.lookup_insert_ne h]

@[simp]
theorem get_empty (k : κ) : get (∅ : GoMap κ ν) k = default := rfl

end GoMap

/-! ### Hosts -/

/-- `nodeState`: `NodeUp` or `NodeDown`. -/
inductive NodeState where
  | up
  | down
  deriving DecidableEq, Repr

/-- The first twelve bytes of an IPv4 address in IPv6 form. -/
def v4InV6Prefix : List UInt8 := [0, 0, 0, 0, 0, 0, 0, 0, 0, 0, 0xff, 0xff]

/-- `net.IP.Equal`: the same bytes, or an IPv4 address against its IPv4-in-IPv6 form. -/
def ipEqual (ip x : List UInt8) : Bool :=
  if ip.length = x.length then ip == x
  else if ip.length = 4 ∧ x.length = 16 then x.take 12 == v4InV6Prefix && ip == x.drop 12
  else if ip.length = 16 ∧ x.length = 4 then ip.take 12 == v4InV6Prefix && ip.drop 12 == x
  else false

/-- `*HostInfo`: the fields that the modelled functions read, and the address of the object.
`tokens` is what `Tokens()` returns, the host's tokens as strings. -/
structure HostInfo where
  connectAddress : List UInt8
  dataCenter : String
  rack : String
  state : NodeState
  tokens : List (List UInt8)
  ptr : Nat
  deriving DecidableEq, Repr

namespace HostInfo

/-- `HostInfo.Equal`: the same host, or the same connect address. -/
def equal (h host : HostInfo) : Bool :=
  h == host || ipEqual h.connectAddress host.connectAddress

/-- `HostInfo.IsUp`, which a nil host answers with `false`. -/
def isUp : Option HostInfo → Bool
  | some h => h.state == .up
  | none => false

end HostInfo

end Gocql
