import Gocql.Cluster.Pick
import Gocql.Support.WordBits

/-!
# Cluster — the round-robin closure and the rotating counters

`roundRobbin(shift, hosts...)` (`policies.go`) returns a `NextHost` closure over two variables,
`currentLayer` and `currentlyObserved`: each call steps `currentlyObserved` through the current
layer, reads the host at `(shift+currentlyObserved)%currentLayerSize` and yields it if it is up;
past the end of a layer it moves to the next, and past the last it yields nil.
`roundRobinHostPolicy`, `dcAwareRR` and `rackAwareRR` start it at
`int(atomic.AddUint64(&lastUsedHostIdx, 1))`; `ring.rrHost` and `hostConnPool.Pick` rotate over
a list with a `uint32` counter.  `int` is 64 bits wide here.

* `RoundRobbin.next`: one call of the closure; `scanLayer` is its inner loop.
* `RoundRobbin.rest`: the hosts the closure yields from a state on.  While `shift ≥ 0` and
  `shift + len(layer)` stays below `2^63` (`RoundRobbin.Inv`), one call yields the first of them
  (`next_rest`), so `k` calls yield exactly them, then nil (`calls_eq`); from the closure
  `roundRobbin` makes they are the order `roundRobbin` of `Cluster.Pick` (`calls_start`,
  `pickRoundRobin_calls`).
* A `lastUsedHostIdx` past `MaxInt64` converts to a negative `shift`; Go's `%` keeps the sign,
  and the first read of a layer whose size does not divide `shift+1` is out of range
  (`next_start_crash`, `pickRoundRobin_crash`).
* `rrHost` and `hostConnPool.Pick` convert a `uint32`, which an `int` holds without wrap: their
  reads are always in range, and the pool reads every connection once, from `pos` round
  (`rrHost_eq`, `HostConnPool.pick_eq`); `roundRobin_counters` states the counters' three reads.
-/

namespace Gocql

open Go

/-- The variables the closure of `roundRobbin` captures. -/
structure RoundRobbin where
  shift : Int64
  hosts : List (List HostInfo)
  currentLayer : Nat
  currentlyObserved : Nat
  deriving DecidableEq, Repr

namespace RoundRobbin

/-- `roundRobbin(shift, hosts...)`, before the first call. -/
def start (shift : Int64) (hosts : List (List HostInfo)) : RoundRobbin := ⟨shift, hosts, 0, 0⟩

/-- `(shift+currentlyObserved)%currentLayerSize`, on `int`. -/
def rotation (shift : Int64) (currentlyObserved currentLayerSize : Nat) : Int :=
  ((shift + Int64.ofNat currentlyObserved) % Int64.ofNat currentLayerSize).toInt

/-- The inner loop over the values `currentlyObserved` takes: read the host at each and stop at
the first that is up. -/
def scanPositions (shift : Int64) (layer : List HostInfo) :
    List Nat → Outcome Empty (Option (HostInfo × Nat))
  | [] => .ok none
  | currentlyObserved :: later => do
    let h ← index layer (rotation shift currentlyObserved layer.length)
    if HostInfo.isUp (some h) then pure (some (h, currentlyObserved))
    else scanPositions shift layer later

/-- The inner loop on `layer` with `currentlyObserved` of its hosts seen: `currentlyObserved`
steps up to `currentLayerSize`, and past it the loop breaks. -/
def scanLayer (shift : Int64) (layer : List HostInfo) (currentlyObserved : Nat) :
    Outcome Empty (Option (HostInfo × Nat)) :=
  scanPositions shift layer (List.range' (currentlyObserved + 1) (layer.length - currentlyObserved))

/-- The outer loop over the layers from `currentLayer` on: the host it yields with the new
`currentLayer` and `currentlyObserved`; a layer left behind resets `currentlyObserved`. -/
def nextLayers (shift : Int64) :
    List (List HostInfo) → Nat → Nat → Outcome Empty (Option HostInfo × Nat × Nat)
  | [], currentLayer, currentlyObserved => .ok (none, currentLayer, currentlyObserved)
  | layer :: later, currentLayer, currentlyObserved => do
    match ← scanLayer shift layer currentlyObserved with
    | some (host, o) => pure (some host, currentLayer, o)
    | none => nextLayers shift later (currentLayer + 1) 0

/-- One call of the closure.  The source stops at `currentLayer == len(hosts)`; here the outer
loop runs out of layers there. -/
def next (s : RoundRobbin) : Outcome Empty (Option HostInfo × RoundRobbin) := do
  let (host, currentLayer, currentlyObserved) ←
    nextLayers s.shift (s.hosts.drop s.currentLayer) s.currentLayer s.currentlyObserved
  pure (host, { s with currentLayer, currentlyObserved })

/-- The first `k` calls of the closure. -/
def calls : Nat → RoundRobbin → Outcome Empty (List (Option HostInfo))
  | 0, _ => .ok []
  | k + 1, s => do
    let (h, s') ← s.next
    let hs ← calls k s'
    pure (h :: hs)

/-! ### What the closure yields -/

/-- The up hosts of `layer` the inner loop yields after its first `o` positions. -/
def layerRest (shift : Nat) (layer : List HostInfo) (o : Nat) : List HostInfo :=
  ((List.range' o (layer.length - o)).filterMap fun i =>
    layer[(shift + i + 1) % layer.length]?).filter fun h => HostInfo.isUp (some h)

/-- The hosts the outer loop yields from the layers left, `o` positions of the first seen. -/
def layersRest (shift : Nat) : List (List HostInfo) → Nat → List HostInfo
  | [], _ => []
  | layer :: later, o => layerRest shift layer o ++ roundRobbin shift later

/-- The hosts the closure yields from `s` on. -/
def rest (s : RoundRobbin) : List HostInfo :=
  layersRest s.shift.toInt.toNat (s.hosts.drop s.currentLayer) s.currentlyObserved

/-- What keeps the closure's reads in range: a non-negative `shift` that no layer's length
carries past `MaxInt64`, and a position inside the current layer. -/
structure Inv (s : RoundRobbin) : Prop where
  shift_nonneg : 0 ≤ s.shift.toInt
  no_wrap : ∀ layer ∈ s.hosts, s.shift.toInt + layer.length < 2 ^ 63
  observed_le : ∀ layer ∈ (s.hosts.drop s.currentLayer).head?, s.currentlyObserved ≤ layer.length

theorem layerRest_length (shift : Nat) (layer : List HostInfo) :
    layerRest shift layer layer.length = [] := by
  simp [layerRest]

/-- One position of the inner loop: the host there comes first if it is up. -/
theorem layerRest_succ (shift : Nat) (layer : List HostInfo) {o : Nat} (ho : o < layer.length) :
    layerRest shift layer o =
      let h := layer.get ⟨(shift + o + 1) % layer.length, Nat.mod_lt _ (by omega)⟩
      if HostInfo.isUp (some h) then h :: layerRest shift layer (o + 1)
      else layerRest shift layer (o + 1) := by
  have hr : List.range' o (layer.length - o) = o :: List.range' (o + 1) (layer.length - (o + 1)) := by
    rw [show layer.length - o = (layer.length - (o + 1)) + 1 by omega, List.range'_succ]
  have hlt : (shift + o + 1) % layer.length < layer.length := Nat.mod_lt _ (by omega)
  simp only [layerRest, hr, List.filterMap_cons, List.getElem?_eq_getElem hlt, List.filter_cons,
    List.get_eq_getElem]

/-- The layers of `roundRobbin` are `layersRest` from the first position of the first. -/
theorem roundRobbin_eq_layersRest (shift : Nat) :
    ∀ hosts : List (List HostInfo), roundRobbin shift hosts = layersRest shift hosts 0
  | [] => rfl
  | layer :: later => by
    simp [roundRobbin, layersRest, layerRest, List.range_eq_range']

/-- The closure as `roundRobbin` makes it yields the order `roundRobbin`. -/
theorem rest_start (shift : Int64) (hosts : List (List HostInfo)) :
    (start shift hosts).rest = roundRobbin shift.toInt.toNat hosts := by
  rw [rest, roundRobbin_eq_layersRest]
  rfl

/-! ### One call -/

/-- Within the invariant `(shift+currentlyObserved)%currentLayerSize` is the position the
abstract order reads. -/
theorem rotation_eq {shift : Int64} {n o : Nat} (h₀ : 0 ≤ shift.toInt)
    (hw : shift.toInt + n < 2 ^ 63) (ho : o < n) :
    rotation shift (o + 1) n = ((shift.toInt.toNat + o + 1) % n : Nat) := by
  have hn : (Int64.ofNat n).toInt = n := int64_toInt_ofNat (by omega)
  have ho' : (Int64.ofNat (o + 1)).toInt = (o + 1 : Nat) := int64_toInt_ofNat (by omega)
  have hadd : (shift + Int64.ofNat (o + 1)).toInt = shift.toInt + (o + 1 : Nat) := by
    rw [int64_toInt_add (by omega) (by omega), ho']
  rw [rotation, Int64.toInt_mod, hadd, hn, Int.tmod_eq_emod_of_nonneg (by omega), Int.natCast_emod]
  congr 1
  push_cast
  rw [Int.toNat_of_nonneg h₀]
  omega

/-- **The inner loop** either runs past the end of the layer, when nothing of it is left, or
stops at the first up host left, at a position the layer's rest goes on from. -/
theorem scanLayer_spec {shift : Int64} {layer : List HostInfo} (h₀ : 0 ≤ shift.toInt)
    (hw : shift.toInt + layer.length < 2 ^ 63) :
    ∀ (n o : Nat), layer.length - o = n → o ≤ layer.length →
      (scanLayer shift layer o = .ok none ∧ layerRest shift.toInt.toNat layer o = []) ∨
      ∃ host o', scanLayer shift layer o = .ok (some (host, o')) ∧ o' ≤ layer.length ∧
        layerRest shift.toInt.toNat layer o = host :: layerRest shift.toInt.toNat layer o'
  | 0, o, hn, ho => by
    -- past the end: `currentlyObserved > currentLayerSize`
    have he : o = layer.length := by omega
    subst he
    left
    exact ⟨by simp only [scanLayer, Nat.sub_self, List.range'_zero, scanPositions],
      layerRest_length _ _⟩
  | n + 1, o, hn, _ => by
    have ho : o < layer.length := by omega
    have hlt : (shift.toInt.toNat + o + 1) % layer.length < layer.length := Nat.mod_lt _ (by omega)
    have hscan : scanLayer shift layer o =
        index layer ((shift.toInt.toNat + o + 1) % layer.length : Nat) >>= fun h =>
          if HostInfo.isUp (some h) then pure (some (h, o + 1)) else scanLayer shift layer (o + 1) := by
      simp only [scanLayer]
      rw [hn, show layer.length - (o + 1) = n by omega, List.range'_succ, scanPositions,
        rotation_eq h₀ hw ho]
    rw [hscan, index_of_lt hlt, Outcome.ok_bind, layerRest_succ _ _ ho]
    by_cases hup : HostInfo.isUp (some (layer.get ⟨_, hlt⟩)) = true
    · -- the host at this position is up: the call yields it
      right
      exact ⟨_, o + 1, by simp only [hup, if_true]; rfl, ho, by simp only [hup, if_true]⟩
    · -- it is down: on to the next position
      simp only [hup, Bool.false_eq_true, if_false]
      exact scanLayer_spec h₀ hw n (o + 1) (by omega) ho

/-- **The outer loop** yields the first host left in the layers, moving `k` layers on, or nil
when none is left. -/
theorem nextLayers_spec {shift : Int64} (h₀ : 0 ≤ shift.toInt) :
    ∀ (layers : List (List HostInfo)) (cl co : Nat),
      (∀ layer ∈ layers, shift.toInt + layer.length < 2 ^ 63) →
      (∀ layer ∈ layers.head?, co ≤ layer.length) →
      ∃ r k co', nextLayers shift layers cl co = .ok (r, cl + k, co') ∧
        (∀ layer ∈ (layers.drop k).head?, co' ≤ layer.length) ∧
        layersRest shift.toInt.toNat layers co =
          r.toList ++ layersRest shift.toInt.toNat (layers.drop k) co' ∧
        (r = none → layersRest shift.toInt.toNat layers co = [])
  | [], cl, co, _, _ => ⟨none, 0, co, rfl, by simp, rfl, fun _ => rfl⟩
  | layer :: later, cl, co, hw, hco => by
    rcases scanLayer_spec h₀ (hw layer (by simp)) _ co rfl (hco layer rfl) with
      ⟨hscan, hempty⟩ | ⟨host, o', hscan, ho', hcons⟩
    · -- nothing left of this layer: on to the next, from its first position
      obtain ⟨r, k, co', hnext, hco', hrest, hnone⟩ :=
        nextLayers_spec h₀ later (cl + 1) 0 (fun l hl => hw l (by simp [hl]))
          (fun _ _ => Nat.zero_le _)
      have hs : layersRest shift.toInt.toNat (layer :: later) co =
          layersRest shift.toInt.toNat later 0 := by
        rw [layersRest, hempty, List.nil_append, roundRobbin_eq_layersRest]
      refine ⟨r, k + 1, co', ?_, hco', hs.trans hrest, fun h => hs.trans (hnone h)⟩
      simp only [nextLayers, hscan, Outcome.ok_bind]
      rw [hnext, Nat.add_right_comm, Nat.add_assoc]
    · -- an up host of this layer
      refine ⟨some host, 0, o', ?_, fun l hl => ?_, ?_, fun h => by cases h⟩
      · simp only [nextLayers, hscan, Outcome.ok_bind]
        rfl
      · simp only [List.drop_zero, List.head?_cons, Option.mem_def, Option.some.injEq] at hl
        exact hl ▸ ho'
      · simp only [layersRest, List.drop_zero, hcons, Option.toList_some, List.cons_append,
          List.nil_append]

/-- **One call of the closure** yields the first of the hosts still to come, or nil when there
are none left. -/
theorem next_rest {s : RoundRobbin} (hinv : s.Inv) :
    ∃ r s', s.next = .ok (r, s') ∧ s'.Inv ∧ s.rest = r.toList ++ s'.rest ∧
      (r = none → s.rest = []) := by
  obtain ⟨r, k, co', hnext, hco', hrest, hnone⟩ :=
    nextLayers_spec hinv.shift_nonneg (s.hosts.drop s.currentLayer) s.currentLayer
      s.currentlyObserved (fun l hl => hinv.no_wrap l (List.mem_of_mem_drop hl)) hinv.observed_le
  refine ⟨r, { s with currentLayer := s.currentLayer + k, currentlyObserved := co' }, ?_,
    ⟨hinv.shift_nonneg, hinv.no_wrap, ?_⟩, ?_, hnone⟩
  · simp only [next, hnext, Outcome.ok_bind]
    rfl
  · simpa [List.drop_drop] using hco'
  · simpa [rest, List.drop_drop] using hrest

/-- **Every run of the closure**: `k` calls return the hosts still to come from `s`, in order,
then nil. -/
theorem calls_eq : ∀ (k : Nat) (s : RoundRobbin), s.Inv →
    s.calls k = .ok ((List.range k).map fun m => s.rest[m]?)
  | 0, _, _ => rfl
  | k + 1, s, hinv => by
    obtain ⟨r, s', hnext, hinv', hrest, hnone⟩ := next_rest hinv
    -- the first call returns the first host, and the others what is left after it
    have hhead : s.rest[0]? = r := by
      cases r with
      | some h => simp [hrest]
      | none => simp [hnone rfl]
    have htail : ∀ m, s.rest[m + 1]? = s'.rest[m]? := by
      intro m
      cases r with
      | some h => simp [hrest]
      | none =>
        have hempty : s'.rest = [] := by simpa [hnone rfl] using hrest.symm
        simp [hnone rfl, hempty]
    simp only [calls, hnext, Outcome.ok_bind, calls_eq k s' hinv', List.range_succ_eq_map,
      List.map_cons, List.map_map, hhead, Outcome.pure_eq]
    congr 2
    exact List.map_congr_left fun m _ => (htail m).symm

/-- **The closure `roundRobbin` makes**, at a non-negative `shift` no layer carries past
`MaxInt64`, yields the up hosts of each layer in turn, from the one after `shift` round, then
nil. -/
theorem calls_start {shift : Int64} {hosts : List (List HostInfo)} (h₀ : 0 ≤ shift.toInt)
    (hw : ∀ layer ∈ hosts, shift.toInt + layer.length < 2 ^ 63) (k : Nat) :
    (start shift hosts).calls k =
      .ok ((List.range k).map fun m => (roundRobbin shift.toInt.toNat hosts)[m]?) := by
  rw [calls_eq k _ ⟨h₀, hw, fun _ _ => Nat.zero_le _⟩, rest_start]

/-! ### A negative `shift` -/

/-- Where `shift + 1` is negative, the first read of the first layer is at the remainder Go's
`%` leaves, which keeps that sign. -/
theorem next_start_crash {shift : Int64} {layer : List HostInfo} (later : List (List HostInfo))
    (hneg : shift.toInt + 1 < 0) (hn : 0 < layer.length) (hn' : layer.length < 2 ^ 63)
    (hd : ¬ (layer.length : Int) ∣ shift.toInt + 1) :
    (start shift (layer :: later)).next =
      .crash (.indexOutOfRange ((shift.toInt + 1).tmod layer.length) layer.length) := by
  have hlen : (Int64.ofNat layer.length).toInt = layer.length := int64_toInt_ofNat hn'
  have hone : (Int64.ofNat (0 + 1)).toInt = 1 := int64_toInt_ofNat (by omega)
  have hi : rotation shift (0 + 1) layer.length = (shift.toInt + 1).tmod layer.length := by
    have hlo := shift.le_toInt
    rw [rotation, Int64.toInt_mod, int64_toInt_add (by omega) (by omega), hone, hlen]
  have hidx : (index layer ((shift.toInt + 1).tmod layer.length) : Outcome Empty HostInfo) =
      .crash (.indexOutOfRange ((shift.toInt + 1).tmod layer.length) layer.length) := by
    have hlt := tmod_neg_of_not_dvd hneg hd
    rw [index, dif_neg (fun h => absurd h.1 (by omega))]
  have hscan : scanLayer shift layer 0 =
      .crash (.indexOutOfRange ((shift.toInt + 1).tmod layer.length) layer.length) := by
    rw [scanLayer, show layer.length - 0 = (layer.length - 1) + 1 by omega, List.range'_succ,
      scanPositions, hi, hidx, Outcome.crash_bind]
  simp only [next, start, List.drop_zero, nextLayers, hscan, Outcome.crash_bind]

end RoundRobbin

/-! ### The policies' counters -/

/-- The `Pick` of `roundRobinHostPolicy`, `dcAwareRR` and `rackAwareRR` on its layers: step the
counter with `atomic.AddUint64(&lastUsedHostIdx, 1)` and start the closure at
`int(nextStartOffset)`, the `uint64`'s bits read as an `int64`. -/
def pickRoundRobin (lastUsedHostIdx : UInt64) (layers : List (List HostInfo)) :
    RoundRobbin × UInt64 :=
  let nextStartOffset := lastUsedHostIdx + 1
  (RoundRobbin.start nextStartOffset.toInt64 layers, nextStartOffset)

/-- `roundRobinHostPolicy.Pick`. -/
def roundRobinHostPolicyPick (lastUsedHostIdx : UInt64) (hosts : List HostInfo) :
    RoundRobbin × UInt64 :=
  pickRoundRobin lastUsedHostIdx [hosts]

/-- `dcAwareRR.Pick`. -/
def dcAwareRRPick (lastUsedHostIdx : UInt64) (localHosts remoteHosts : List HostInfo) :
    RoundRobbin × UInt64 :=
  pickRoundRobin lastUsedHostIdx [localHosts, remoteHosts]

/-- `rackAwareRR.Pick`, on its three tiers. -/
def rackAwareRRPick (lastUsedHostIdx : UInt64) (hosts₀ hosts₁ hosts₂ : List HostInfo) :
    RoundRobbin × UInt64 :=
  pickRoundRobin lastUsedHostIdx [hosts₀, hosts₁, hosts₂]

/-- Below `MaxInt64` the counter converts to itself: the closure yields the order
`roundRobbin (lastUsedHostIdx + 1)` the fallback policies of `Cluster.Pick` are given. -/
theorem pickRoundRobin_calls {c : UInt64} {layers : List (List HostInfo)}
    (hc : c.toNat + 1 < 2 ^ 63) (hw : ∀ layer ∈ layers, c.toNat + 1 + layer.length < 2 ^ 63)
    (k : Nat) :
    (pickRoundRobin c layers).1.calls k =
      .ok ((List.range k).map fun m => (roundRobbin (c.toNat + 1) layers)[m]?) := by
  have hs : (c + 1).toInt64.toInt = c.toNat + 1 := by
    have h1 : (c + 1).toNat = c.toNat + 1 := by
      rw [UInt64.toNat_add, UInt64.toNat_one, Nat.mod_eq_of_lt (by omega)]
    rw [uint64_toInt_toInt64, h1]
    exact bmod_two_pow_succ (w := 63) (by omega) (by push_cast; omega)
  have hcalls := @RoundRobbin.calls_start (c + 1).toInt64 layers
    (by omega) (fun l hl => by have := hw l hl; omega) k
  rw [hs] at hcalls
  exact hcalls

/-- Past `MaxInt64` the counter converts to a negative `shift`, and the first read of a layer
whose size does not divide `shift+1` is at a negative index. -/
theorem pickRoundRobin_crash (c : UInt64) (layer : List HostInfo) (later : List (List HostInfo))
    (hc : 2 ^ 63 ≤ (c + 1).toNat) (hc' : (c + 1).toNat + 1 < 2 ^ 64)
    (hn : 0 < layer.length) (hn' : layer.length < 2 ^ 63)
    (hd : ¬ (layer.length : Int) ∣ (c + 1).toNat + 1 - 2 ^ 64) :
    (pickRoundRobin c (layer :: later)).1.next =
        .crash (.indexOutOfRange (((c + 1).toNat + 1 - 2 ^ 64 : Int).tmod layer.length)
          layer.length) ∧
      ((c + 1).toNat + 1 - 2 ^ 64 : Int).tmod layer.length < 0 := by
  have hlt := (c + 1).toNat_lt
  -- `int(nextStartOffset)` is the counter less `2^64`
  have hs : (c + 1).toInt64.toInt + 1 = (c + 1).toNat + 1 - 2 ^ 64 := by
    have hb : ((c + 1).toNat : Int).bmod (2 ^ 64) = (c + 1).toNat - 2 ^ 64 := by
      rw [Int.bmod_def, Int.emod_eq_of_lt (by omega) (by omega), if_neg (by omega),
        Int.natCast_pow, Int.cast_ofNat_Int]
    rw [uint64_toInt_toInt64, hb]
    omega
  have hneg : (c + 1).toInt64.toInt + 1 < 0 := by omega
  refine ⟨?_, tmod_neg_of_not_dvd (by omega) hd⟩
  have h := RoundRobbin.next_start_crash later hneg hn hn' (by rwa [hs])
  rw [hs] at h
  exact h

/-- After `MaxInt64` picks `roundRobinHostPolicy` over three up hosts reads `hosts[-1]`. -/
theorem roundRobinHostPolicyPick_past_maxInt64 :
    (roundRobinHostPolicyPick 9223372036854775807
        (List.replicate 3 ⟨[127, 0, 0, 1], "dc1", "rack1", .up, [], 1⟩)).1.next =
      .crash (.indexOutOfRange (-1) 3) := by
  have h := (pickRoundRobin_crash 9223372036854775807
    (List.replicate 3 ⟨[127, 0, 0, 1], "dc1", "rack1", .up, [], 1⟩) []
    (by decide) (by decide) (by decide) (by decide) (by decide)).1
  rwa [show (((9223372036854775807 : UInt64) + 1).toNat + 1 - 2 ^ 64 : Int).tmod
    (List.replicate 3 (⟨[127, 0, 0, 1], "dc1", "rack1", .up, [], 1⟩ : HostInfo)).length = -1 by decide]
    at h

/-! ### Counters of 32 bits -/

/-- A `uint32` converted to `int` keeps its value. -/
theorem uint32_toInt64_toInt (p : UInt32) : p.toUInt64.toInt64.toInt = p.toNat := by
  have hp := p.toNat_lt
  rw [uint64_toInt_toInt64, UInt32.toNat_toUInt64]
  exact bmod_two_pow_succ (w := 63) (by omega) (by omega)

/-- `int(atomic.AddUint32(&pos, 1) - 1)`: the counter's old value, as an `int`. -/
theorem toInt_oldPos (p : UInt32) : (p + 1 - 1).toUInt64.toInt64.toInt = p.toNat := by
  rw [UInt32.add_sub_cancel, uint32_toInt64_toInt]

/-- `pos%n` and `(pos+i)%n` on `int`, for the old value of a `uint32` counter. -/
theorem toInt_pos_add_mod {p : UInt32} {i n : Nat} (hn : 0 < n) (hw : 2 ^ 32 + i + n ≤ 2 ^ 63) :
    (((p + 1 - 1).toUInt64.toInt64 + Int64.ofNat i) % Int64.ofNat n).toInt =
      ((p.toNat + i) % n : Nat) := by
  have hp := p.toNat_lt
  have hi : (Int64.ofNat i).toInt = i := int64_toInt_ofNat (by omega)
  have hn' : (Int64.ofNat n).toInt = n := int64_toInt_ofNat (by omega)
  rw [Int64.toInt_mod, int64_toInt_add (by rw [toInt_oldPos]; omega) (by rw [toInt_oldPos]; omega),
    toInt_oldPos, hi, hn', Int.tmod_eq_emod_of_nonneg (by omega), Int.natCast_emod]
  rfl

/-- `ring.rrHost`: the host at the counter's old value modulo the number of hosts, with the
stepped counter; nil on a ring without hosts. -/
def rrHost (pos : UInt32) (hostList : List HostInfo) : Outcome Empty (Option HostInfo × UInt32) :=
  if hostList.length = 0 then .ok (none, pos)
  else do
    let p : Int64 := (pos + 1 - 1).toUInt64.toInt64
    let h ← index hostList (p % Int64.ofNat hostList.length).toInt
    pure (some h, pos + 1)

/-- **`rrHost` reads in range** for every value of the counter: the `uint32` fits in an `int`,
so `pos%len(hostList)` is the counter modulo the length. -/
theorem rrHost_eq (pos : UInt32) {hostList : List HostInfo} (hn : 0 < hostList.length)
    (hw : 2 ^ 32 + hostList.length ≤ 2 ^ 63) :
    rrHost pos hostList =
      .ok (some (hostList.get ⟨pos.toNat % hostList.length, Nat.mod_lt _ hn⟩), pos + 1) := by
  have hi := toInt_pos_add_mod (p := pos) (i := 0) hn (by omega)
  have h0 : Int64.ofNat 0 = 0 := rfl
  rw [h0, Int64.add_zero, Nat.add_zero] at hi
  rw [rrHost, if_neg (by omega)]
  simp only [hi, index_of_lt (Nat.mod_lt _ hn), Outcome.ok_bind, Outcome.pure_eq]

/-- What `hostConnPool.Pick` reads of its pool: `closed`, `size`, `pos` and `conns`. -/
structure HostConnPool (κ : Type) where
  closed : Bool
  size : Int
  pos : UInt32
  conns : List κ

/-- The body of the loop of `hostConnPool.Pick`: keep `conn` if it has more streams free than
the best so far. -/
def leastBusyStep {κ : Type} (availableStreams : κ → Int) (best : Option κ × Int) (conn : κ) :
    Option κ × Int :=
  if availableStreams conn > best.2 then (some conn, availableStreams conn) else best

/-- `hostConnPool.Pick`, with `AvailableStreams` of each connection: the connection with the
most streams free, the first such from `pos` round, and the pool with its counter stepped.  The
`go pool.fill()` it starts on a pool short of connections is not modelled. -/
def HostConnPool.pick {κ : Type} (availableStreams : κ → Int) (pool : HostConnPool κ) :
    Outcome Empty (Option κ × HostConnPool κ) :=
  if pool.closed then .ok (none, pool)
  else if (pool.conns.length : Int) < pool.size ∧ pool.conns.length = 0 then .ok (none, pool)
  else do
    let size := pool.conns.length
    let p : Int64 := (pool.pos + 1 - 1).toUInt64.toInt64
    let (leastBusyConn, _) ← (List.range size).foldlM (fun best i => do
        let conn ← index pool.conns ((p + Int64.ofNat i) % Int64.ofNat size).toInt
        pure (leastBusyStep availableStreams best conn)) (none, 0)
    pure (leastBusyConn, { pool with pos := pool.pos + 1 })

/-- The positions `(pos+i)%size` for `i < size` read the connections rotated to `pos`. -/
theorem map_range_mod_eq_rotate {κ : Type} (conns : List κ) (p : Nat) (hn : 0 < conns.length) :
    (List.range conns.length).map (fun i =>
        conns.get ⟨(p + i) % conns.length, Nat.mod_lt _ hn⟩) = conns.rotate (p % conns.length) := by
  apply List.ext_getElem (by simp)
  intro i h₁ h₂
  simp only [List.getElem_map, List.getElem_range, List.get_eq_getElem, List.getElem_rotate]
  congr 1
  rw [Nat.add_mod_mod, Nat.add_comm]

/-- **`hostConnPool.Pick` reads in range** for every value of the counter, and its loop visits
every connection once, from `pos` round: it picks by `leastBusyStep` over the connections
rotated to `pos`. -/
theorem HostConnPool.pick_eq {κ : Type} (availableStreams : κ → Int) {pool : HostConnPool κ}
    (hc : pool.closed = false) (hn : 0 < pool.conns.length)
    (hw : 2 ^ 32 + 2 * pool.conns.length ≤ 2 ^ 63) :
    pool.pick availableStreams =
      .ok (((pool.conns.rotate (pool.pos.toNat % pool.conns.length)).foldl
          (leastBusyStep availableStreams) (none, 0)).1, { pool with pos := pool.pos + 1 }) := by
  -- each iteration reads `conns[(pos+i)%size]`, in range
  have hloop := Outcome.foldlM_ok (ε := Empty) (List.range pool.conns.length) (none, 0)
    (g := fun best i => leastBusyStep availableStreams best
      (pool.conns.get ⟨(pool.pos.toNat + i) % pool.conns.length, Nat.mod_lt _ hn⟩))
    (f := fun best i => do
      let conn ← index pool.conns
        (((pool.pos + 1 - 1).toUInt64.toInt64 + Int64.ofNat i) % Int64.ofNat pool.conns.length).toInt
      pure (leastBusyStep availableStreams best conn))
    (fun best i hi => by
      have hi' : i < pool.conns.length := List.mem_range.mp hi
      rw [toInt_pos_add_mod (p := pool.pos) (i := i) hn (by omega), index_of_lt (Nat.mod_lt _ hn),
        Outcome.ok_bind, Outcome.pure_eq])
  have hfold : (List.range pool.conns.length).foldl (fun best i => leastBusyStep availableStreams
      best (pool.conns.get ⟨(pool.pos.toNat + i) % pool.conns.length, Nat.mod_lt _ hn⟩)) (none, 0) =
      (pool.conns.rotate (pool.pos.toNat % pool.conns.length)).foldl
        (leastBusyStep availableStreams) (none, 0) := by
    rw [← map_range_mod_eq_rotate pool.conns pool.pos.toNat hn, List.foldl_map]
  rw [HostConnPool.pick, if_neg (by simp [hc]), if_neg (by omega)]
  simp only [hloop, Outcome.ok_bind, hfold]
  rfl

/-- **The counters of the round-robin reads.**  Below `MaxInt64`, `atomic.AddUint64` starts the
closure at `lastUsedHostIdx + 1`, which then yields the order `roundRobbin` of `Cluster.Pick`;
and the `uint32` counters of `rrHost` and `hostConnPool.Pick` read in range for every value,
the pool visiting every connection once, from `pos` round. -/
theorem roundRobin_counters :
    (∀ (c : UInt64) (layers : List (List HostInfo)), c.toNat + 1 < 2 ^ 63 →
      (∀ layer ∈ layers, c.toNat + 1 + layer.length < 2 ^ 63) → ∀ k,
        (pickRoundRobin c layers).1.calls k =
          .ok ((List.range k).map fun m => (roundRobbin (c.toNat + 1) layers)[m]?)) ∧
    (∀ (pos : UInt32) (hostList : List HostInfo) (hn : 0 < hostList.length),
      2 ^ 32 + hostList.length ≤ 2 ^ 63 →
        rrHost pos hostList = .ok (some (hostList.get ⟨pos.toNat % hostList.length, Nat.mod_lt _ hn⟩), pos + 1)) ∧
    ∀ {κ : Type} (availableStreams : κ → Int) (pool : HostConnPool κ), pool.closed = false →
      0 < pool.conns.length → 2 ^ 32 + 2 * pool.conns.length ≤ 2 ^ 63 →
        pool.pick availableStreams =
          .ok (((pool.conns.rotate (pool.pos.toNat % pool.conns.length)).foldl
              (leastBusyStep availableStreams) (none, 0)).1, { pool with pos := pool.pos + 1 }) :=
  ⟨fun _ _ hc hw k => pickRoundRobin_calls hc hw k, fun pos _ hn hw => rrHost_eq pos hn hw,
    fun availableStreams _ hc hn hw => HostConnPool.pick_eq availableStreams hc hn hw⟩

/-- Three connections with 5, 7 and 7 streams free, at the largest counter. -/
theorem pick_at_max_counter :
    (⟨false, 3, 4294967295, [5, 7, 7]⟩ : HostConnPool Nat).closed = false ∧
      0 < (⟨false, 3, 4294967295, [5, 7, 7]⟩ : HostConnPool Nat).conns.length ∧
      2 ^ 32 + 2 * (⟨false, 3, 4294967295, [5, 7, 7]⟩ : HostConnPool Nat).conns.length ≤ 2 ^ 63 ∧
      (⟨false, 3, 4294967295, [5, 7, 7]⟩ : HostConnPool Nat).pick (fun c : Nat => (c : Int)) =
        .ok ((([5, 7, 7].rotate ((4294967295 : UInt32).toNat % 3)).foldl
            (leastBusyStep fun c : Nat => (c : Int)) (none, 0)).1,
          { (⟨false, 3, 4294967295, [5, 7, 7]⟩ : HostConnPool Nat) with pos := 4294967295 + 1 }) :=
  ⟨rfl, by decide, by decide, roundRobin_counters.2.2 (fun c : Nat => (c : Int)) _ rfl (by decide) (by decide)⟩

end Gocql
