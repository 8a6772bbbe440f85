import Mathlib.Data.Int.Order.Basic
import Mathlib.Data.List.Dedup
import Mathlib.Data.List.Rotate
import Mathlib.Order.RelClasses
import Gocql.Cluster.Pick
import Gocql.Marshal.Integers

/-!
# Cluster — `SimpleStrategy` and the token lookups

`simpleStrategy.replicaMap` (`topology.go`) gives every token of the ring the first `rf`
distinct hosts met walking the ring from it, wrapping round, and sorts the entries by token.
`tokenRing.GetHostForToken` and `tokenRingReplicas.replicasFor` find the range of a token by
`sort.Search` on the sorted ring.  Go's `sort` asks of `Less` a strict weak order: here an
asymmetric `<` with `a < c → a < b ∨ b < c` (`IsOrderConnected`), which the token orders of the
three partitioners are.

* `simpleWalk`: the inner loop; `firstDistinct`: the distinct hosts of a walk in the order they
  are met.  `simpleWalk_eq`: the loop's early exit is the first `rf` of them.
* `simpleStrategy_replicas`: one entry per token, sorted by token, each with the first
  `min(rf, distinct hosts)` distinct hosts from its token on, its owner first, none twice.
* `lookup_eq_find`: on a ring sorted by a strict weak order `sort.Search` finds what a linear
  scan finds; `token_lookups_scan`: so do `GetHostForToken` and `replicasFor` on the maps of
  both strategies, which are sorted (`replicaMap_pairwise`, `NetworkTopology.replicaMap_pairwise`).
-/

namespace Gocql

open Go

variable {τ : Type}

/-! ### Walks of distinct hosts -/

section FirstDistinct

variable {α : Type} [DecidableEq α]

/-- The distinct elements of a walk after those of `acc`, in the order they are first met. -/
def firstDistinct : List α → List α → List α
  | acc, [] => acc
  | acc, a :: l => firstDistinct (if a ∈ acc then acc else acc ++ [a]) l

theorem prefix_firstDistinct : ∀ (acc l : List α), acc <+: firstDistinct acc l
  | _, [] => List.prefix_refl _
  | acc, a :: l => by
    rw [firstDistinct]
    split
    · exact prefix_firstDistinct acc l
    · exact (List.prefix_append acc [a]).trans (prefix_firstDistinct _ l)

theorem mem_firstDistinct : ∀ (acc l : List α) (x : α), x ∈ firstDistinct acc l ↔ x ∈ acc ∨ x ∈ l
  | _, [], x => by simp [firstDistinct]
  | acc, a :: l, x => by
    rw [firstDistinct, mem_firstDistinct]
    -- `a` joins `acc` unless it is there already
    split
    · case isTrue ha =>
      rw [List.mem_cons]
      by_cases hx : x = a
      · subst hx
        simp [ha]
      · simp [hx]
    · rw [List.mem_append, List.mem_singleton, List.mem_cons, or_assoc]

theorem nodup_firstDistinct : ∀ (acc l : List α), acc.Nodup → (firstDistinct acc l).Nodup
  | _, [], h => h
  | acc, a :: l, h => by
    rw [firstDistinct]
    split
    · exact nodup_firstDistinct acc l h
    · case isFalse ha =>
      refine nodup_firstDistinct _ l ?_
      rw [List.nodup_append]
      refine ⟨h, List.nodup_singleton a, fun x hx y hy hxy => ?_⟩
      rw [List.mem_singleton] at hy
      rw [hxy, hy] at hx
      exact ha hx

/-- A walk's distinct elements are as many as its elements without repeats. -/
theorem length_firstDistinct (l : List α) : (firstDistinct [] l).length = l.dedup.length := by
  have hperm : (firstDistinct [] l).Perm l.dedup :=
    (List.perm_ext_iff_of_nodup (nodup_firstDistinct [] l List.nodup_nil) (List.nodup_dedup l)).mpr
      fun x => by rw [mem_firstDistinct, List.mem_dedup]; simp
  exact hperm.length_eq

end FirstDistinct

/-! ### `simpleStrategy` -/

/-- `simpleStrategy`: its replication factor, which `getReplicationFactorFromOpts` makes
non-negative. -/
structure SimpleStrategy where
  rf : Nat

/-- The inner loop of `simpleStrategy.replicaMap` over the hosts of the ring from the current
token on: while fewer than `rf` replicas are found, a host not `seen` is added.  `seen` holds
exactly the hosts of `replicas`, so membership in `replicas` stands for it; a host is compared by
its value, which holds the pointer `seen` is keyed by. -/
def simpleWalk (rf : Nat) : List HostInfo → List HostInfo → List HostInfo
  | [], replicas => replicas
  | h :: hs, replicas =>
    if replicas.length < rf then simpleWalk rf hs (if h ∈ replicas then replicas else replicas ++ [h])
    else replicas

section Sorting

variable [LT τ] [DecidableLT τ]

/-- `sort.Sort(ring)` by `tokenRingReplicas.Less`: the entries sorted by token. -/
def sortRing (ring : List (HostTokens τ)) : List (HostTokens τ) :=
  ring.mergeSort fun a b => !decide (b.token < a.token)

/-- `simpleStrategy.replicaMap`: the walk of the `i`th token visits `tokens[(i+j)%len(tokens)]`
for `j < len(tokens)`, the ring rotated to `i` (`List.getElem_rotate`). -/
def SimpleStrategy.replicaMap (s : SimpleStrategy) (tokenRing : TokenRing τ) : List (HostTokens τ) :=
  sortRing (tokenRing.tokens.mapIdx fun i th =>
    ⟨th.token, simpleWalk s.rf ((tokenRing.tokens.rotate i).map HostToken.host) []⟩)

end Sorting

/-- **The early exit of the walk** keeps the first `rf` distinct hosts. -/
theorem simpleWalk_eq (rf : Nat) :
    ∀ (hs acc : List HostInfo), acc.length ≤ rf → simpleWalk rf hs acc = (firstDistinct acc hs).take rf
  | [], acc, h => by rw [simpleWalk, firstDistinct, List.take_of_length_le h]
  | h :: hs, acc, hle => by
    rw [simpleWalk, firstDistinct]
    split
    · case isTrue hlt =>
      apply simpleWalk_eq rf hs
      split
      · exact hle
      · rw [List.length_append, List.length_singleton]; omega
    · case isFalse hlt =>
      -- `rf` replicas found: what is found later comes after them
      obtain ⟨rest, hrest⟩ := prefix_firstDistinct (if h ∈ acc then acc else acc ++ [h]) hs
      have hacc : acc <+: firstDistinct (if h ∈ acc then acc else acc ++ [h]) hs := by
        refine List.IsPrefix.trans ?_ ⟨rest, hrest⟩
        split
        · exact List.prefix_refl _
        · exact List.prefix_append acc [h]
      obtain ⟨rest', hrest'⟩ := hacc
      rw [← hrest', List.take_append_of_le_length (by omega), List.take_of_length_le (by omega)]

/-- The replicas of one token: the first `rf` distinct hosts from it on. -/
def simpleReplicas (rf : Nat) (tokens : List (HostToken τ)) (i : Nat) : List HostInfo :=
  (firstDistinct [] ((tokens.rotate i).map HostToken.host)).take rf

/-- **What the replicas of a token are**: none twice, `min(rf, distinct hosts)` of them, the
token's owner first. -/
theorem simpleReplicas_spec (rf : Nat) (tokens : List (HostToken τ)) {i : Nat}
    (hi : i < tokens.length) :
    (simpleReplicas rf tokens i).Nodup ∧
      (simpleReplicas rf tokens i).length = min rf (tokens.map HostToken.host).dedup.length ∧
      (0 < rf → (simpleReplicas rf tokens i).head? = some tokens[i].host) := by
  have hnd := nodup_firstDistinct [] ((tokens.rotate i).map HostToken.host) List.nodup_nil
  -- the walk from `i` meets the ring's hosts, each as often as the ring holds it
  have hperm : ((tokens.rotate i).map HostToken.host).Perm (tokens.map HostToken.host) :=
    (List.rotate_perm tokens i).map _
  refine ⟨(List.take_sublist _ _).nodup hnd, ?_, fun hrf => ?_⟩
  · rw [simpleReplicas, List.length_take, length_firstDistinct, (hperm.dedup).length_eq, Nat.min_comm]
  · obtain ⟨l, hl⟩ : ∃ l, (tokens.rotate i).map HostToken.host = tokens[i].host :: l := by
      have hhead : (tokens.rotate i).head? = some tokens[i] := by
        rw [List.head?_rotate hi, List.getElem?_eq_getElem hi]
      cases hr : tokens.rotate i with
      | nil => rw [hr] at hhead; cases hhead
      | cons th l =>
        rw [hr, List.head?_cons, Option.some.injEq] at hhead
        exact ⟨l.map HostToken.host, by rw [List.map_cons, hhead]⟩
    obtain ⟨rest, hrest⟩ := prefix_firstDistinct [tokens[i].host] l
    have hfd : firstDistinct [] ((tokens.rotate i).map HostToken.host) = tokens[i].host :: rest := by
      rw [hl, firstDistinct, if_neg List.not_mem_nil, List.nil_append, ← hrest, List.singleton_append]
    rw [simpleReplicas, hfd, show rf = (rf - 1) + 1 by omega, List.take_succ_cons, List.head?_cons]

section Order

variable [LT τ] [DecidableLT τ] [Std.Asymm (fun a b : τ => a < b)] [IsOrderConnected τ (· < ·)]

/-- **`sort.Sort` by a key under a strict weak order**: no entry comes before one whose key is
below its own. -/
theorem pairwise_mergeSort_key {α : Type} (key : α → τ) (l : List α) :
    (l.mergeSort fun a b => !decide (key b < key a)).Pairwise fun a b => ¬ key b < key a := by
  have h := @List.pairwise_mergeSort _ (fun a b : α => !decide (key b < key a))
    (fun a b c hab hbc => by
      simp only [Bool.not_eq_true', decide_eq_false_iff_not] at hab hbc ⊢
      exact fun hca => (IsOrderConnected.conn _ _ _ hca).elim hbc hab)
    (fun a b => by
      simp only [Bool.or_eq_true, Bool.not_eq_true', decide_eq_false_iff_not]
      by_cases hab : key b < key a
      · exact .inr (asymm hab)
      · exact .inl hab)
    l
  simpa only [Bool.not_eq_true', decide_eq_false_iff_not] using h

/-- The order `sort.Sort` leaves the entries in. -/
theorem replicaMap_pairwise (s : SimpleStrategy) (tokenRing : TokenRing τ) :
    (s.replicaMap tokenRing).Pairwise fun a b => ¬ b.token < a.token := by
  rw [SimpleStrategy.replicaMap, sortRing]
  exact pairwise_mergeSort_key HostTokens.token _

end Order

/-- **`simpleStrategy.replicaMap`**: its entries are those of the ring's tokens, one each, each
with the replicas `simpleReplicas` of its token. -/
theorem replicaMap_perm [LT τ] [DecidableLT τ] (s : SimpleStrategy) (tokenRing : TokenRing τ) :
    (s.replicaMap tokenRing).Perm (tokenRing.tokens.mapIdx fun i th =>
      ⟨th.token, simpleReplicas s.rf tokenRing.tokens i⟩) := by
  have hwalk : ∀ i, simpleWalk s.rf ((tokenRing.tokens.rotate i).map HostToken.host) [] =
      simpleReplicas s.rf tokenRing.tokens i := fun i =>
    simpleWalk_eq s.rf _ [] (Nat.zero_le _)
  simp only [SimpleStrategy.replicaMap, sortRing, hwalk]
  exact List.mergeSort_perm _ _

/-- **`simpleStrategy.replicaMap`** has one entry per token of the ring, sorted by token, each
with the first `min(rf, distinct hosts)` distinct hosts met from its token on, its owner first and
none twice. -/
theorem simpleStrategy_replicas [LT τ] [DecidableLT τ] [Std.Asymm (fun a b : τ => a < b)]
    [IsOrderConnected τ (· < ·)] (s : SimpleStrategy) (tokenRing : TokenRing τ) :
    (s.replicaMap tokenRing).Perm (tokenRing.tokens.mapIdx fun i th =>
        ⟨th.token, simpleReplicas s.rf tokenRing.tokens i⟩) ∧
      (s.replicaMap tokenRing).Pairwise (fun a b => ¬ b.token < a.token) ∧
      ∀ i (hi : i < tokenRing.tokens.length),
        (simpleReplicas s.rf tokenRing.tokens i).Nodup ∧
        (simpleReplicas s.rf tokenRing.tokens i).length =
          min s.rf (tokenRing.tokens.map HostToken.host).dedup.length ∧
        (0 < s.rf → (simpleReplicas s.rf tokenRing.tokens i).head? = some tokenRing.tokens[i].host) :=
  ⟨replicaMap_perm s tokenRing, replicaMap_pairwise s tokenRing,
    fun _ hi => simpleReplicas_spec s.rf tokenRing.tokens hi⟩

/-- A ring where `hostA` owns two tokens: the replicas of its second token, two of them, are
`hostA` and then `hostB`. -/
theorem simpleReplicas_vnodes :
    simpleReplicas 2 ([⟨0, hostA⟩, ⟨1, hostB⟩, ⟨2, hostA⟩] : List (HostToken Int)) 2 =
        [hostA, hostB] ∧
      (simpleReplicas 2 ([⟨0, hostA⟩, ⟨1, hostB⟩, ⟨2, hostA⟩] : List (HostToken Int)) 2).length =
        min 2 (([⟨0, hostA⟩, ⟨1, hostB⟩, ⟨2, hostA⟩] : List (HostToken Int)).map
          HostToken.host).dedup.length :=
  ⟨by decide, ((simpleStrategy_replicas ⟨2⟩ ⟨[⟨0, hostA⟩, ⟨1, hostB⟩, ⟨2, hostA⟩], [hostA, hostB]⟩).2.2
    2 (by decide)).2.1⟩

/-! ### `newTokenRing` -/

/-- A partitioner, as `newTokenRing` uses it: `ParseString`, from a token's string to a token. -/
structure Partitioner (τ : Type) where
  parseString : List UInt8 → τ

section NewTokenRing

variable [LT τ] [DecidableLT τ]

/-- `sort.Sort(tokenRing)` by `tokenRing.Less`: the tokens sorted. -/
def sortTokens (tokens : List (HostToken τ)) : List (HostToken τ) :=
  tokens.mergeSort fun a b => !decide (b.token < a.token)

/-- The ring `newTokenRing` builds with its partitioner: every token of every host, parsed and
with its host, sorted. -/
def tokenRingOf (p : Partitioner τ) (hosts : List HostInfo) : TokenRing τ :=
  ⟨sortTokens (hosts.flatMap fun host => host.tokens.map fun strToken => ⟨p.parseString strToken, host⟩),
    hosts⟩

/-- **The ring is sorted** by the partitioner's order. -/
theorem tokenRingOf_sorted [Std.Asymm (fun a b : τ => a < b)] [IsOrderConnected τ (· < ·)]
    (p : Partitioner τ) (hosts : List HostInfo) :
    (tokenRingOf p hosts).tokens.Pairwise fun a b => ¬ b.token < a.token :=
  pairwise_mergeSort_key HostToken.token _

end NewTokenRing

/-! ### Token lookups -/

section Lookup

variable [LT τ] [DecidableLT τ] [IsOrderConnected τ (· < ·)]

/-- **`sort.Search` on a ring sorted by a strict weak order** finds the first entry not below
`t`, as a linear scan does. -/
theorem lookup_eq_find {α : Type} (key : α → τ) (l : List α)
    (hl : l.Pairwise fun a b => ¬ key b < key a) (t : τ) (first : α) :
    l.getD (search l.length fun i => (l[i]?).all fun a => !decide (key a < t)) first =
      (l.find? fun a => !decide (key a < t)).getD first := by
  have hmono : ∀ a b (hab : a ≤ b) (hb : b < l.length),
      (!decide (key l[a] < t)) = true → (!decide (key l[b] < t)) = true := by
    intro a b hab hb ha
    simp only [Bool.not_eq_true', decide_eq_false_iff_not] at ha ⊢
    rcases Nat.lt_or_eq_of_le hab with hlt | rfl
    · -- entries further on are not below the earlier one
      have hord : ¬ key l[b] < key l[a] := List.pairwise_iff_getElem.mp hl a b (by omega) hb hlt
      exact fun hbt => (IsOrderConnected.conn _ _ _ hbt).elim hord ha
    · exact ha
  rw [search_eq_findIdx l _ hmono, List.find?_eq_getElem?_findIdx, List.getD_eq_getElem?_getD]

/-- The first entry not below `t`, or the first entry. -/
theorem getD_search_eq {α : Type} (key : α → τ) (l : List α)
    (hl : l.Pairwise fun a b => ¬ key b < key a) (t : τ) {first : α} {rest : List α}
    (hfirst : l = first :: rest) :
    some (l.getD (search l.length fun i => (l[i]?).all fun a => !decide (key a < t)) first) =
      (l.find? fun a => !decide (key a < t)).or l.head? := by
  rw [lookup_eq_find key l hl t first, hfirst, List.head?_cons]
  cases (List.find? _ _) <;> rfl

/-- `GetHostForToken` on a sorted ring: the first token not below `t`, else the first. -/
theorem getHostForToken_eq_find (t : TokenRing τ) (hsorted : t.tokens.Pairwise fun a b => ¬ b.token < a.token)
    (token : τ) :
    t.getHostForToken token = (t.tokens.find? fun th => !decide (th.token < token)).or t.tokens.head? := by
  unfold TokenRing.getHostForToken
  split
  · case h_1 h => rw [h]; rfl
  · case h_2 first rest h => exact getD_search_eq HostToken.token _ hsorted token h

/-- `replicasFor` on a sorted map: the first range not below `t`, else the first. -/
theorem replicasFor_eq_find (h : List (HostTokens τ)) (hsorted : h.Pairwise fun a b => ¬ b.token < a.token)
    (t : τ) :
    replicasFor h t = (h.find? fun ht => !decide (ht.token < t)).or h.head? := by
  unfold replicasFor
  split
  · rfl
  · case h_2 first rest => exact getD_search_eq HostTokens.token _ hsorted t rfl

end Lookup

/-! ### `networkTopology`'s map keeps the ring's order -/

theorem replicaLoop_sublist (n : NetworkTopology) (dcRacks : GoMap String (List String))
    (totalRF : Nat) (tokens : List (HostToken τ)) :
    ∀ (rest : List (HostToken τ)) (i : Nat) (s : WalkState) (ring ring' : List (HostTokens τ)),
      replicaLoop n dcRacks totalRF tokens i rest s ring = .ok ring' →
      ∃ added, ring' = ring ++ added ∧ (added.map HostTokens.token).Sublist (rest.map HostToken.token)
  | [], _, _, ring, ring', h => by
    simp only [replicaLoop, Except.ok.injEq] at h
    exact ⟨[], by rw [h, List.append_nil], List.Sublist.slnil⟩
  | th :: rest, i, s, ring, ring', h => by
    rw [replicaLoop] at h
    split at h
    · -- a token of a data center without replicas adds no entry
      obtain ⟨added, hring, hsub⟩ := replicaLoop_sublist n dcRacks totalRF tokens rest _ _ _ _ h
      exact ⟨added, hring, hsub.cons _⟩
    · split at h
      · cases h
      · split at h
        · cases h
        · split at h
          · -- the token's entry, then those of the tokens after it
            obtain ⟨added, hring, hsub⟩ := replicaLoop_sublist n dcRacks totalRF tokens rest _ _ _ _ h
            refine ⟨_ :: added, by rw [hring, List.append_assoc, List.singleton_append], ?_⟩
            rw [List.map_cons, List.map_cons]
            exact hsub.cons_cons _
          · cases h

theorem NetworkTopology.replicaMap_pairwise [LT τ] [DecidableLT τ] {n : NetworkTopology}
    {tokenRing : TokenRing τ} {ring : List (HostTokens τ)}
    (hsorted : tokenRing.tokens.Pairwise fun a b => ¬ b.token < a.token)
    (h : n.replicaMap tokenRing = .ok ring) :
    ring.Pairwise fun a b => ¬ b.token < a.token := by
  dsimp only [NetworkTopology.replicaMap] at h
  split at h
  · cases h
  · case h_2 ring₀ hloop =>
    split at h
    · cases h
    · cases h
      obtain ⟨added, hring, hsub⟩ := replicaLoop_sublist n _ _ _ _ _ _ _ _ hloop
      rw [List.nil_append] at hring
      subst hring
      have hmap : (ring.map HostTokens.token).Pairwise fun a b => ¬ b < a :=
        ((List.pairwise_map (R := fun a b : τ => ¬ b < a)).mpr hsorted).sublist hsub
      exact List.pairwise_map.mp hmap

/-- **The token lookups agree with a linear scan**: `GetHostForToken` on a ring sorted by token,
among them every ring `newTokenRing` builds, and `replicasFor` on the map of either strategy,
return the first entry whose token is not below `t`, or the first entry when `t` is above them
all. -/
theorem token_lookups_scan [LT τ] [DecidableLT τ] [Std.Asymm (fun a b : τ => a < b)]
    [IsOrderConnected τ (· < ·)] :
    (∀ t : TokenRing τ, t.tokens.Pairwise (fun a b => ¬ b.token < a.token) → ∀ token : τ,
      t.getHostForToken token =
        (t.tokens.find? fun th => !decide (th.token < token)).or t.tokens.head?) ∧
    (∀ (s : SimpleStrategy) (t : TokenRing τ) (token : τ),
      replicasFor (s.replicaMap t) token =
        ((s.replicaMap t).find? fun ht => !decide (ht.token < token)).or (s.replicaMap t).head?) ∧
    (∀ (n : NetworkTopology) (t : TokenRing τ) (ring : List (HostTokens τ)),
      t.tokens.Pairwise (fun a b => ¬ b.token < a.token) → n.replicaMap t = .ok ring →
      ∀ token : τ, replicasFor ring token =
        (ring.find? fun ht => !decide (ht.token < token)).or ring.head?) ∧
    (∀ (p : Partitioner τ) (hosts : List HostInfo) (token : τ),
      (tokenRingOf p hosts).getHostForToken token =
        ((tokenRingOf p hosts).tokens.find? fun th => !decide (th.token < token)).or
          (tokenRingOf p hosts).tokens.head?) :=
  ⟨fun t ht token => getHostForToken_eq_find t ht token,
    fun s t token => replicasFor_eq_find _ (replicaMap_pairwise s t) token,
    fun _ _ _ ht hmap token => replicasFor_eq_find _ (NetworkTopology.replicaMap_pairwise ht hmap) token,
    fun p hosts token => getHostForToken_eq_find _ (tokenRingOf_sorted p hosts) token⟩

/-- On the ring `0, 5` a token `3` falls in the range that ends at `5`, and `7` wraps round to
`0`. -/
theorem getHostForToken_two_tokens :
    (⟨[⟨0, hostA⟩, ⟨5, hostB⟩], [hostA, hostB]⟩ : TokenRing Int).getHostForToken 3 =
        some ⟨5, hostB⟩ ∧
      (⟨[⟨0, hostA⟩, ⟨5, hostB⟩], [hostA, hostB]⟩ : TokenRing Int).getHostForToken 7 =
        ((([⟨0, hostA⟩, ⟨5, hostB⟩] : List (HostToken Int)).find? fun th =>
          !decide (th.token < 7)).or (some ⟨0, hostA⟩)) :=
  ⟨by decide, token_lookups_scan.1 _ (by decide) 7⟩

/-! ### The partitioners' orders -/

/-- `murmur3Token.Less`: the order of `int64`. -/
instance instIsStrictTotalOrderInt64 : IsStrictTotalOrder Int64 (· < ·) where
  trichotomous a b := by
    simp only [Int64.lt_iff_toInt_lt, ← Int64.toInt_inj]
    omega
  irrefl a := by simp
  trans a b c := by
    simp only [Int64.lt_iff_toInt_lt]
    omega

/-- `orderedToken.Less`, `bytes.Compare(a, b) < 0`: the lexicographic order of byte strings, a
proper prefix first. -/
instance instIsStrictTotalOrderBytes : IsStrictTotalOrder (List UInt8) (· < ·) where
  trichotomous _ _ hab hba := List.le_antisymm (List.not_lt.mp hba) (List.not_lt.mp hab)
  irrefl a := List.lt_irrefl a
  trans _ _ _ := List.lt_trans

/-! ### The three partitioners -/

end Gocql
