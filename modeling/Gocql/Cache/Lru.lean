import Gocql.Support.Recency

/-!
# Cache — `lru.Cache`

`lru.Cache` (`internal/lru`) keeps its entries in a doubly linked list `ll`, most recently used
at the front, and a map `cache` from each key to the element of the list that holds it.  `Add`
and `Get` move the element of their key to the front; `Add` of a new key pushes a new element
and, past `MaxEntries`, removes the element at the back; `removeElement` unlinks an element,
deletes its key from the map and calls `OnEvicted`.  The prepared-statement cache and the
routing-key cache of a session are such caches.

An element is its address and its entry; the map holds addresses, and a new element takes a
fresh address.  The calls of `OnEvicted` are returned as the entries evicted, in order.

* `LruCache.Inv`: the map points at the list, each key and each address once, and the list
  holds at most `MaxEntries` elements when that is not zero.
* `add_refines`, `get_refines`, `remove_refines`, `removeOldest_refines`: from a state in the
  invariant, each call keeps it, returns what the specification `Recency.Lru` returns, and leaves
  the entries of the list equal to the specification's.
* `lru_refines`: every run of calls from `New(maxEntries)` returns what the specification returns,
  and ends in the invariant with the specification's entries.
-/

namespace Gocql

open Recency

/-- `entry`. -/
structure LruEntry (K V : Type) where
  key : K
  value : V

/-- `lru.Cache`: `MaxEntries`, the elements of `ll` from the front, each an address and an
entry, the map `cache` from a key to an address, and the next fresh address. -/
structure LruCache (K V : Type) where
  maxEntries : Nat
  ll : List (Nat × LruEntry K V)
  cache : K → Option Nat
  fresh : Nat

namespace LruCache

variable {K V : Type} [DecidableEq K]

/-- `New(maxEntries)`. -/
def new (maxEntries : Nat) : LruCache K V := ⟨maxEntries, [], fun _ => none, 0⟩

/-- The element at address `e`. -/
def element (ll : List (Nat × LruEntry K V)) (e : Nat) : Option (Nat × LruEntry K V) :=
  ll.find? (·.1 == e)

/-- `ll.Remove(e)`. -/
def unlink (ll : List (Nat × LruEntry K V)) (e : Nat) : List (Nat × LruEntry K V) :=
  ll.filter (·.1 != e)

/-- `ll.MoveToFront(e)`. -/
def moveToFront (ll : List (Nat × LruEntry K V)) (e : Nat) : List (Nat × LruEntry K V) :=
  match element ll e with
  | some x => x :: unlink ll e
  | none => ll

/-- `ee.Value.(*entry).value = value` on the element at `e`. -/
def setValue (ll : List (Nat × LruEntry K V)) (e : Nat) (value : V) : List (Nat × LruEntry K V) :=
  ll.map fun x => if x.1 = e then (x.1, ⟨x.2.key, value⟩) else x

/-- `removeElement(e)`: unlink it, delete its key, and `OnEvicted(key, value)`. -/
def removeElement (c : LruCache K V) (x : Nat × LruEntry K V) : LruCache K V × List (K × V) :=
  ({ c with ll := unlink c.ll x.1, cache := Function.update c.cache x.2.key none },
    [(x.2.key, x.2.value)])

/-- `RemoveOldest()`. -/
def removeOldest (c : LruCache K V) : LruCache K V × List (K × V) :=
  match c.ll.getLast? with
  | some x => c.removeElement x
  | none => (c, [])

/-- `Add(key, value)`. -/
def add (c : LruCache K V) (key : K) (value : V) : LruCache K V × List (K × V) :=
  match c.cache key with
  | some e => ({ c with ll := setValue (moveToFront c.ll e) e value }, [])
  | none =>
    let c' : LruCache K V := { c with
      ll := (c.fresh, ⟨key, value⟩) :: c.ll,
      cache := Function.update c.cache key (some c.fresh),
      fresh := c.fresh + 1 }
    if c'.maxEntries ≠ 0 ∧ c'.maxEntries < c'.ll.length then c'.removeOldest else (c', [])

/-- `Get(key)`: the value of the element, moved to the front. -/
def get (c : LruCache K V) (key : K) : Option V × LruCache K V :=
  match c.cache key with
  | some e => ((element c.ll e).map (·.2.value), { c with ll := moveToFront c.ll e })
  | none => (none, c)

/-- `Remove(key)`.  The map points at an element of the list (`Inv`), so the branch that finds
none is never taken. -/
def remove (c : LruCache K V) (key : K) : Bool × LruCache K V × List (K × V) :=
  match c.cache key with
  | some e =>
    match element c.ll e with
    | some x => (true, c.removeElement x)
    | none => (true, c, [])
  | none => (false, c, [])

/-- `Len()`. -/
def len (c : LruCache K V) : Nat := c.ll.length

/-- The entries of the list, from the front. -/
def entries (ll : List (Nat × LruEntry K V)) : List (K × V) := ll.map fun x => (x.2.key, x.2.value)

/-- The address and the key of each element: what the map has to agree with. -/
def view (ll : List (Nat × LruEntry K V)) : List (Nat × K) := ll.map fun x => (x.1, x.2.key)

/-! ### The invariant -/

/-- The list and the map agree: each address and each key once, the map sends a key to the
address of its element, and the fresh address is past every address used. -/
structure Linked (c : LruCache K V) : Prop where
  addrs : ((view c.ll).map Prod.fst).Nodup
  keys : ((view c.ll).map Prod.snd).Nodup
  points : ∀ k e, c.cache k = some e ↔ (e, k) ∈ view c.ll
  fresh : ∀ p ∈ view c.ll, p.1 < c.fresh

/-- **The invariant of `lru.Cache`**: the list and the map agree, and the list holds at most
`MaxEntries` elements when that is not zero. -/
structure Inv (c : LruCache K V) : Prop where
  linked : c.Linked
  bounded : c.maxEntries ≠ 0 → c.ll.length ≤ c.maxEntries

omit [DecidableEq K] in
theorem keys_entries (ll : List (Nat × LruEntry K V)) :
    Recency.keys (entries ll) = (view ll).map Prod.snd := by
  simp [Recency.keys, entries, view]

omit [DecidableEq K] in
theorem mem_view {ll : List (Nat × LruEntry K V)} {e : Nat} {k : K} :
    (e, k) ∈ view ll ↔ ∃ x ∈ ll, x.1 = e ∧ x.2.key = k := by
  simp [view]

omit [DecidableEq K] in
theorem addrs_view (ll : List (Nat × LruEntry K V)) : (view ll).map Prod.fst = ll.map Prod.fst := by
  rw [view, List.map_map]
  rfl

omit [DecidableEq K] in
theorem keys_view (ll : List (Nat × LruEntry K V)) : (view ll).map Prod.snd = ll.map (·.2.key) := by
  rw [view, List.map_map]
  rfl

omit [DecidableEq K] in
/-- Two elements with the same address, or the same key, are one. -/
theorem Linked.eq_of_addr {c : LruCache K V} (h : c.Linked) {x y : Nat × LruEntry K V}
    (hx : x ∈ c.ll) (hy : y ∈ c.ll) (he : x.1 = y.1) : x = y :=
  List.inj_on_of_nodup_map (by rw [← addrs_view]; exact h.addrs) hx hy he

omit [DecidableEq K] in
theorem Linked.eq_of_key {c : LruCache K V} (h : c.Linked) {x y : Nat × LruEntry K V}
    (hx : x ∈ c.ll) (hy : y ∈ c.ll) (hk : x.2.key = y.2.key) : x = y :=
  List.inj_on_of_nodup_map (by rw [← keys_view]; exact h.keys) hx hy hk

omit [DecidableEq K] in
/-- The element a key's address names. -/
theorem Linked.element_of_cache {c : LruCache K V} (h : c.Linked) {k : K} {e : Nat}
    (hk : c.cache k = some e) :
    ∃ v, element c.ll e = some (e, ⟨k, v⟩) ∧ (e, ⟨k, v⟩) ∈ c.ll := by
  obtain ⟨x, hx, rfl, rfl⟩ := mem_view.mp ((h.points k e).mp hk)
  have hfind : (element c.ll x.1).isSome := by
    rw [element, List.find?_isSome]
    exact ⟨x, hx, by simp⟩
  obtain ⟨y, hy⟩ := Option.isSome_iff_exists.mp hfind
  have hyx : y = x := h.eq_of_addr (List.mem_of_find?_eq_some hy) hx (by simpa using List.find?_some hy)
  subst hyx
  exact ⟨y.2.value, hy, hx⟩

omit [DecidableEq K] in
/-- A key has no address exactly when no entry has it. -/
theorem Linked.cache_eq_none {c : LruCache K V} (h : c.Linked) (k : K) :
    c.cache k = none ↔ k ∉ Recency.keys (entries c.ll) := by
  rw [keys_entries]
  constructor
  · intro hk hmem
    obtain ⟨p, hp, rfl⟩ := List.mem_map.mp hmem
    have := (h.points p.2 p.1).mpr hp
    rw [hk] at this
    cases this
  · intro hk
    cases he : c.cache k with
    | none => rfl
    | some e => exact absurd (List.mem_map_of_mem (f := Prod.snd) ((h.points k e).mp he)) hk

/-! ### The list operations, on the entries -/

/-- Unlinking an element takes its key out of the entries. -/
theorem Linked.entries_unlink {c : LruCache K V} (h : c.Linked) {x : Nat × LruEntry K V} (hx : x ∈ c.ll) :
    entries (unlink c.ll x.1) = without (entries c.ll) x.2.key := by
  rw [unlink, without, entries, entries, List.filter_map]
  congr 1
  apply List.filter_congr
  intro y hy
  -- the element at the address is the element of the key
  have hiff : (y.1 == x.1) = (y.2.key == x.2.key) := by
    rw [Bool.eq_iff_iff, beq_iff_eq, beq_iff_eq]
    exact ⟨fun he => by rw [h.eq_of_addr hy hx he], fun hk => by rw [h.eq_of_key hy hx hk]⟩
  simp only [Function.comp, bne, hiff]

omit [DecidableEq K] in
theorem view_unlink (ll : List (Nat × LruEntry K V)) (e : Nat) :
    view (unlink ll e) = (view ll).filter (·.1 != e) := by
  rw [unlink, view, view, List.filter_map]
  rfl

/-- Moving the element of `k` to the front makes `k` the most recent. -/
theorem Linked.entries_moveToFront {c : LruCache K V} (h : c.Linked) {e : Nat} {k : K} {v : V}
    (hel : element c.ll e = some (e, ⟨k, v⟩)) (hmem : (e, ⟨k, v⟩) ∈ c.ll) :
    entries (moveToFront c.ll e) = promote (entries c.ll) k v := by
  rw [moveToFront, hel, entries, List.map_cons, ← entries, h.entries_unlink hmem]
  rfl

/-- The value set on the front element, the others past it unchanged. -/
theorem Linked.entries_setValue {c : LruCache K V} (h : c.Linked) {e : Nat} {k : K} {v : V}
    (hel : element c.ll e = some (e, ⟨k, v⟩)) (hmem : (e, ⟨k, v⟩) ∈ c.ll) (value : V) :
    entries (setValue (moveToFront c.ll e) e value) = promote (entries c.ll) k value := by
  rw [moveToFront, hel, setValue, List.map_cons, if_pos rfl]
  -- no element of the rest has address `e`
  have hrest : (unlink c.ll e).map (fun x => if x.1 = e then (x.1, ⟨x.2.key, value⟩) else x) =
      unlink c.ll e := by
    rw [List.map_congr_left (g := id), List.map_id]
    intro y hy
    have hne : y.1 ≠ e := by simpa [unlink] using (List.mem_filter.mp hy).2
    simp [hne]
  rw [hrest, entries, List.map_cons, ← entries, h.entries_unlink (x := (e, ⟨k, v⟩)) hmem]
  rfl

omit [DecidableEq K] in
/-- Moving to the front permutes the elements. -/
theorem Linked.moveToFront_perm {c : LruCache K V} (h : c.Linked) {e : Nat} {x : Nat × LruEntry K V}
    (hel : element c.ll e = some x) : List.Perm (moveToFront c.ll e) c.ll := by
  have hx : x ∈ c.ll := List.mem_of_find?_eq_some hel
  have hxe : x.1 = e := by simpa using List.find?_some hel
  have hnd : c.ll.Nodup := List.Nodup.of_map Prod.fst (by rw [← addrs_view]; exact h.addrs)
  rw [moveToFront, hel]
  -- both lists hold each element once, and the same elements: `x`, and those at other addresses
  have hnot : x ∉ unlink c.ll e := fun hmem => by simp [unlink, hxe] at hmem
  refine (List.perm_ext_iff_of_nodup (List.nodup_cons.mpr ⟨hnot, hnd.sublist List.filter_sublist⟩)
    hnd).mpr fun y => ?_
  rw [List.mem_cons, unlink, List.mem_filter]
  constructor
  · rintro (rfl | ⟨hy, -⟩)
    · exact hx
    · exact hy
  · intro hy
    by_cases hye : y.1 = e
    · exact .inl (h.eq_of_addr hy hx (hye.trans hxe.symm))
    · exact .inr ⟨hy, by simpa using hye⟩

omit [DecidableEq K] in
theorem view_setValue (ll : List (Nat × LruEntry K V)) (e : Nat) (value : V) :
    view (setValue ll e value) = view ll := by
  rw [view, setValue, List.map_map, view]
  apply List.map_congr_left
  intro x _
  by_cases hx : x.1 = e <;> simp [hx]

omit [DecidableEq K] in
/-- A list whose addresses and keys are a permutation of those of a linked one is linked to
the same map. -/
theorem Linked.of_perm {c : LruCache K V} (h : c.Linked) {ll : List (Nat × LruEntry K V)}
    (hp : List.Perm (view ll) (view c.ll)) : ({ c with ll } : LruCache K V).Linked where
  addrs := (hp.map Prod.fst).nodup_iff.mpr h.addrs
  keys := (hp.map Prod.snd).nodup_iff.mpr h.keys
  points k e := by rw [h.points, hp.mem_iff]
  fresh p hmem := h.fresh p (hp.mem_iff.mp hmem)

/-- Removing an element of the list keeps the list and the map linked. -/
theorem Linked.of_removeElement {c : LruCache K V} (h : c.Linked) {x : Nat × LruEntry K V} (hx : x ∈ c.ll) :
    (c.removeElement x).1.Linked where
  addrs := by
    rw [LruCache.removeElement, view_unlink]
    exact h.addrs.sublist ((List.filter_sublist).map _)
  keys := by
    rw [LruCache.removeElement, view_unlink]
    exact h.keys.sublist ((List.filter_sublist).map _)
  points k e := by
    rw [LruCache.removeElement, view_unlink, List.mem_filter]
    dsimp only
    by_cases hk : k = x.2.key
    · subst hk
      rw [Function.update_self]
      -- the only element with that key is `x`, which is unlinked
      constructor
      · intro hc
        cases hc
      · rintro ⟨hmem, hne⟩
        obtain ⟨y, hy, rfl, hyk⟩ := mem_view.mp hmem
        rw [h.eq_of_key hy hx hyk] at hne
        simp at hne
    · rw [Function.update_of_ne hk, h.points]
      refine ⟨fun hmem => ⟨hmem, ?_⟩, fun hm => hm.1⟩
      obtain ⟨y, hy, rfl, rfl⟩ := mem_view.mp hmem
      have hyx : y.1 ≠ x.1 := fun he => hk (by rw [h.eq_of_addr hy hx he])
      simpa using hyx
  fresh p hmem := by
    rw [LruCache.removeElement, view_unlink] at hmem
    exact h.fresh p (List.mem_filter.mp hmem).1

/-- A new element at a fresh address, for a key with none, keeps them linked. -/
theorem Linked.push {c : LruCache K V} (h : c.Linked) {key : K} (hkey : c.cache key = none) (value : V) :
    ({ c with
      ll := (c.fresh, ⟨key, value⟩) :: c.ll,
      cache := Function.update c.cache key (some c.fresh),
      fresh := c.fresh + 1 } : LruCache K V).Linked where
  addrs := by
    rw [view, List.map_cons, ← view, List.map_cons, List.nodup_cons]
    refine ⟨fun hmem => ?_, h.addrs⟩
    obtain ⟨p, hp, hpe⟩ := List.mem_map.mp hmem
    have := h.fresh p hp
    omega
  keys := by
    rw [view, List.map_cons, ← view, List.map_cons, List.nodup_cons]
    refine ⟨?_, h.keys⟩
    have hnot := (h.cache_eq_none key).mp hkey
    rwa [keys_entries] at hnot
  points k e := by
    dsimp only
    rw [view, List.map_cons, ← view, List.mem_cons]
    by_cases hk : k = key
    · subst hk
      rw [Function.update_self, Option.some.injEq, Prod.mk.injEq]
      -- the key had no element before
      have hold : (e, k) ∉ view c.ll := fun hmem => by
        have := (h.points k e).mpr hmem
        rw [hkey] at this
        cases this
      constructor
      · intro he; exact .inl ⟨he.symm, rfl⟩
      · rintro (⟨he, -⟩ | hmem)
        · exact he.symm
        · exact absurd hmem hold
    · rw [Function.update_of_ne hk, h.points, Prod.mk.injEq]
      constructor
      · exact .inr
      · rintro (⟨-, hke⟩ | hmem)
        · exact absurd hke hk
        · exact hmem
  fresh p hmem := by
    rw [view, List.map_cons, ← view, List.mem_cons] at hmem
    rcases hmem with rfl | hmem
    · exact Nat.lt_succ_self _
    · exact Nat.lt_succ_of_lt (h.fresh p hmem)

/-! ### Each call refines the specification -/

/-- The cache stands for a state of the specification: the same bound, the same entries. -/
def Refines (c : LruCache K V) (a : Lru K V) : Prop :=
  c.maxEntries = a.maxEntries ∧ entries c.ll = a.entries

omit [DecidableEq K] in
theorem length_entries (ll : List (Nat × LruEntry K V)) : (entries ll).length = ll.length :=
  List.length_map _

omit [DecidableEq K] in
theorem Linked.nodup_entries {c : LruCache K V} (h : c.Linked) : (Recency.keys (entries c.ll)).Nodup := by
  rw [keys_entries]
  exact h.keys

omit [DecidableEq K] in
theorem mem_entries {ll : List (Nat × LruEntry K V)} {e : Nat} {k : K} {v : V}
    (hmem : (e, ⟨k, v⟩) ∈ ll) : (k, v) ∈ entries ll :=
  List.mem_map_of_mem (f := fun x => (x.2.key, x.2.value)) hmem

/-- A key with no address has no value in the specification. -/
theorem lookup_eq_none {c : LruCache K V} (hi : c.Inv) {a : Lru K V} (hr : Refines c a) {k : K}
    (hk : c.cache k = none) : a.entries.lookup k = none := by
  have hnot := (hi.linked.cache_eq_none k).mp hk
  rw [hr.2] at hnot
  rw [List.lookup_eq_none_iff]
  intro p hp
  have hne : p.1 ≠ k := fun hpk => hnot (hpk ▸ List.mem_map_of_mem hp)
  rw [bne_iff_ne]
  exact Ne.symm hne

/-- A key with an address has the value of its element in the specification. -/
theorem lookup_of_cache {c : LruCache K V} (hi : c.Inv) {a : Lru K V} (hr : Refines c a) {k : K}
    {e : Nat} {v : V} (hmem : (e, ⟨k, v⟩) ∈ c.ll) : a.entries.lookup k = some v := by
  rw [← hr.2]
  exact lookup_of_mem hi.linked.nodup_entries (mem_entries hmem)

theorem get_refines {c : LruCache K V} (hi : c.Inv) {a : Lru K V} (hr : Refines c a) (k : K) :
    (c.get k).1 = (a.get k).1 ∧ (c.get k).2.Inv ∧ Refines (c.get k).2 (a.get k).2 := by
  cases hk : c.cache k with
  | none =>
    rw [a.get_of_lookup_none (lookup_eq_none hi hr hk)]
    unfold get
    rw [hk]
    exact ⟨rfl, hi, hr⟩
  | some e =>
    obtain ⟨v, hel, hmem⟩ := hi.linked.element_of_cache hk
    rw [a.get_of_lookup (lookup_of_cache hi hr hmem)]
    unfold get
    rw [hk]
    dsimp only
    rw [hel, Option.map_some]
    have hperm := hi.linked.moveToFront_perm hel
    refine ⟨rfl, ⟨hi.linked.of_perm (hperm.map _), fun h => hperm.length_eq ▸ hi.bounded h⟩, hr.1, ?_⟩
    rw [hi.linked.entries_moveToFront hel hmem, hr.2]
    rfl

theorem add_refines {c : LruCache K V} (hi : c.Inv) {a : Lru K V} (hr : Refines c a) (k : K) (value : V) :
    (c.add k value).2 = (a.add k value).2 ∧ (c.add k value).1.Inv ∧
      Refines (c.add k value).1 (a.add k value).1 := by
  cases hk : c.cache k with
  | some e =>
    -- a key there: its element moves to the front with the new value
    obtain ⟨v, hel, hmem⟩ := hi.linked.element_of_cache hk
    have hkeys : k ∈ Recency.keys a.entries := by
      rw [← hr.2]
      exact List.mem_map_of_mem (mem_entries hmem)
    rw [a.add_of_mem hkeys]
    unfold add
    rw [hk]
    dsimp only
    have hperm := hi.linked.moveToFront_perm hel
    have hview : List.Perm (view (setValue (moveToFront c.ll e) e value)) (view c.ll) := by
      rw [view_setValue]
      exact hperm.map _
    refine ⟨rfl, ⟨hi.linked.of_perm hview, fun h => ?_⟩, hr.1, ?_⟩
    · rw [setValue, List.length_map, hperm.length_eq]
      exact hi.bounded h
    · rw [hi.linked.entries_setValue hel hmem, hr.2]
      rfl
  | none =>
    -- a new key: a new element in front, then the oldest evicted past the bound
    have hkeys : k ∉ Recency.keys a.entries := by
      rw [← hr.2, ← hi.linked.cache_eq_none]
      exact hk
    obtain ⟨hent, hev, hmax⟩ := a.add_of_not_mem hkeys value
    have hpush := hi.linked.push hk value
    have hlen : c.ll.length = a.entries.length := by rw [← length_entries, hr.2]
    unfold add
    rw [hk]
    dsimp only
    split
    · case isTrue hfull =>
      have hfull' : a.maxEntries ≠ 0 ∧ a.maxEntries < a.entries.length + 1 := by
        rw [← hr.1, ← hlen]
        simpa using hfull
      rw [if_pos hfull'] at hent hev
      obtain ⟨x, hx⟩ : ∃ x, ((c.fresh, (⟨k, value⟩ : LruEntry K V)) :: c.ll).getLast? = some x :=
        ⟨_, List.getLast?_eq_some_getLast (List.cons_ne_nil _ _)⟩
      have hxmem := List.mem_of_getLast? hx
      have hlast : (entries ((c.fresh, ⟨k, value⟩) :: c.ll)).getLast? = some (x.2.key, x.2.value) := by
        rw [entries, List.getLast?_map, hx]
        rfl
      have hcons : entries ((c.fresh, (⟨k, value⟩ : LruEntry K V)) :: c.ll) = (k, value) :: a.entries := by
        rw [entries, List.map_cons, ← entries, hr.2]
      unfold removeOldest
      rw [hx]
      have hunlink := hpush.entries_unlink hxmem
      have hnd := hpush.nodup_entries
      refine ⟨?_, ⟨hpush.of_removeElement hxmem, fun h => ?_⟩, ?_, ?_⟩
      · rw [hev, ← hcons, hlast]
        rfl
      · -- one in, one out: the list is as long as before
        show (unlink _ x.1).length ≤ c.maxEntries
        rw [← length_entries, hunlink, without_getLast hnd hlast, hcons, List.length_dropLast,
          List.length_cons, ← hlen]
        exact Nat.le_trans (Nat.le_of_eq (Nat.add_sub_cancel _ _)) (hi.bounded h)
      · rw [hmax]; exact hr.1
      · show entries (unlink _ x.1) = _
        rw [hunlink, without_getLast hnd hlast, hcons, hent]
    · case isFalse hfull =>
      have hfull' : ¬ (a.maxEntries ≠ 0 ∧ a.maxEntries < a.entries.length + 1) := by
        rw [← hr.1, ← hlen]
        simpa using hfull
      rw [if_neg hfull'] at hent hev
      refine ⟨hev.symm, ⟨hpush, fun h => ?_⟩, ?_, ?_⟩
      · show c.ll.length + 1 ≤ c.maxEntries
        rw [hr.1, hlen]
        rw [hr.1] at h
        omega
      · rw [hmax]; exact hr.1
      · show entries ((c.fresh, ⟨k, value⟩) :: c.ll) = _
        rw [hent, entries, List.map_cons, ← entries, hr.2]

theorem remove_refines {c : LruCache K V} (hi : c.Inv) {a : Lru K V} (hr : Refines c a) (k : K) :
    (c.remove k).1 = (a.remove k).1 ∧ (c.remove k).2.2 = (a.remove k).2.2 ∧ (c.remove k).2.1.Inv ∧
      Refines (c.remove k).2.1 (a.remove k).2.1 := by
  cases hk : c.cache k with
  | none =>
    rw [a.remove_of_lookup_none (lookup_eq_none hi hr hk)]
    unfold remove
    rw [hk]
    exact ⟨rfl, rfl, hi, hr⟩
  | some e =>
    obtain ⟨v, hel, hmem⟩ := hi.linked.element_of_cache hk
    obtain ⟨hfound, hent, hmax, hev⟩ := a.remove_of_lookup (lookup_of_cache hi hr hmem)
    unfold remove
    rw [hk]
    dsimp only
    rw [hel]
    refine ⟨hfound.symm, hev.symm, ⟨hi.linked.of_removeElement hmem, fun h => ?_⟩, ?_, ?_⟩
    · exact Nat.le_trans (List.length_filter_le _ _) (hi.bounded h)
    · rw [hmax]; exact hr.1
    · show entries (unlink c.ll e) = _
      rw [hent, hi.linked.entries_unlink hmem, hr.2]

theorem removeOldest_refines {c : LruCache K V} (hi : c.Inv) {a : Lru K V} (hr : Refines c a) :
    c.removeOldest.2 = a.removeOldest.2 ∧ c.removeOldest.1.Inv ∧
      Refines c.removeOldest.1 a.removeOldest.1 := by
  cases hx : c.ll.getLast? with
  | none =>
    have hnil : c.ll = [] := List.getLast?_eq_none_iff.mp hx
    have hanil : a.entries = [] := by rw [← hr.2, hnil]; rfl
    have hc : c.removeOldest = (c, []) := by unfold removeOldest; rw [hx]
    rw [hc]
    refine ⟨?_, hi, hr.1, ?_⟩
    · show [] = a.entries.getLast?.toList
      rw [hanil]
      rfl
    · show entries c.ll = a.entries.dropLast
      rw [hr.2, hanil]
      rfl
  | some x =>
    have hxmem := List.mem_of_getLast? hx
    have hlast : (entries c.ll).getLast? = some (x.2.key, x.2.value) := by
      rw [entries, List.getLast?_map, hx]
      rfl
    have hc : c.removeOldest = c.removeElement x := by unfold removeOldest; rw [hx]
    rw [hc]
    refine ⟨?_, ⟨hi.linked.of_removeElement hxmem, fun h => ?_⟩, hr.1, ?_⟩
    · show [(x.2.key, x.2.value)] = a.entries.getLast?.toList
      rw [← hr.2, hlast]
      rfl
    · exact Nat.le_trans (List.length_filter_le _ _) (hi.bounded h)
    · show entries (unlink c.ll x.1) = a.entries.dropLast
      rw [hi.linked.entries_unlink hxmem, without_getLast hi.linked.nodup_entries hlast, hr.2]

/-- The state of the specification a cache in the invariant stands for. -/
def abs (c : LruCache K V) (hi : c.Inv) : Lru K V :=
  ⟨c.maxEntries, entries c.ll, hi.linked.nodup_entries, fun h => by
    rw [length_entries]
    exact hi.bounded h⟩

theorem refines_abs (c : LruCache K V) (hi : c.Inv) : Refines c (c.abs hi) := ⟨rfl, rfl⟩

theorem Inv.get {c : LruCache K V} (hi : c.Inv) (k : K) : (c.get k).2.Inv :=
  (get_refines hi (c.refines_abs hi) k).2.1

theorem Inv.add {c : LruCache K V} (hi : c.Inv) (k : K) (v : V) : (c.add k v).1.Inv :=
  (add_refines hi (c.refines_abs hi) k v).2.1

theorem Inv.remove {c : LruCache K V} (hi : c.Inv) (k : K) : (c.remove k).2.1.Inv :=
  (remove_refines hi (c.refines_abs hi) k).2.2.1

/-- `Get` right after `Add` of a key finds the value added. -/
theorem get_add_self {c : LruCache K V} (hi : c.Inv) (k : K) (v : V) :
    ((c.add k v).1.get k).1 = some v := by
  obtain ⟨-, hinv, href⟩ := add_refines hi (c.refines_abs hi) k v
  rw [(get_refines hinv href k).1, Lru.get_of_lookup _ (Lru.lookup_add_self _ k v)]

/-- `Get` right after `Remove` of a key finds nothing. -/
theorem get_remove_self {c : LruCache K V} (hi : c.Inv) (k : K) : ((c.remove k).2.1.get k).1 = none := by
  obtain ⟨-, -, hinv, href⟩ := remove_refines hi (c.refines_abs hi) k
  rw [(get_refines hinv href k).1, Lru.get_remove_self]

/-! ### What the entries hold -/

/-- Every value the list holds satisfies `P`. -/
def Holds (P : V → Prop) (c : LruCache K V) : Prop := ∀ e ∈ entries c.ll, P e.2

theorem Refines.holds_iff {P : V → Prop} {c : LruCache K V} {a : Lru K V} (hr : Refines c a) :
    c.Holds P ↔ a.Holds P := by
  rw [Holds, Lru.Holds, hr.2]

section Holds

variable {P : V → Prop} {c : LruCache K V}

theorem Holds.add (hi : c.Inv) (h : c.Holds P) (k : K) {v : V} (hv : P v) : (c.add k v).1.Holds P := by
  obtain ⟨-, -, href⟩ := add_refines hi (c.refines_abs hi) k v
  exact href.holds_iff.mpr (((c.refines_abs hi).holds_iff.mp h).add k hv)

theorem Holds.add_remove (hi : c.Inv) (h : c.Holds P) (k : K) (v : V) :
    ((c.add k v).1.remove k).2.1.Holds P := by
  obtain ⟨-, hai, har⟩ := add_refines hi (c.refines_abs hi) k v
  obtain ⟨-, -, -, href⟩ := remove_refines hai har k
  exact href.holds_iff.mpr (((c.refines_abs hi).holds_iff.mp h).add_remove k v)

theorem Holds.get (hi : c.Inv) (h : c.Holds P) (k : K) : (c.get k).2.Holds P := by
  obtain ⟨-, -, href⟩ := get_refines hi (c.refines_abs hi) k
  exact href.holds_iff.mpr (((c.refines_abs hi).holds_iff.mp h).get k)

theorem Holds.got (hi : c.Inv) (h : c.Holds P) {k : K} {v : V} (hg : (c.get k).1 = some v) : P v := by
  rw [(get_refines hi (c.refines_abs hi) k).1] at hg
  exact ((c.refines_abs hi).holds_iff.mp h).got hg

theorem Holds.remove (hi : c.Inv) (h : c.Holds P) (k : K) : (c.remove k).2.1.Holds P := by
  obtain ⟨-, -, -, href⟩ := remove_refines hi (c.refines_abs hi) k
  exact href.holds_iff.mpr (((c.refines_abs hi).holds_iff.mp h).remove k)

end Holds

/-! ### Runs -/

/-- One call, with its reply. -/
def step (c : LruCache K V) : Lru.Op K V → Lru.Reply K V × LruCache K V
  | .add k v => (.evicted (c.add k v).2, (c.add k v).1)
  | .get k => (.got (c.get k).1, (c.get k).2)
  | .remove k => (.removed (c.remove k).1 (c.remove k).2.2, (c.remove k).2.1)
  | .removeOldest => (.evicted c.removeOldest.2, c.removeOldest.1)
  | .len => (.len c.len, c)

/-- Calls one after another, with their replies. -/
def run : LruCache K V → List (Lru.Op K V) → List (Lru.Reply K V) × LruCache K V
  | c, [] => ([], c)
  | c, op :: ops => ((c.step op).1 :: (run (c.step op).2 ops).1, (run (c.step op).2 ops).2)

theorem step_refines {c : LruCache K V} (hi : c.Inv) {a : Lru K V} (hr : Refines c a) (op : Lru.Op K V) :
    (c.step op).1 = (a.step op).1 ∧ (c.step op).2.Inv ∧ Refines (c.step op).2 (a.step op).2 := by
  cases op with
  | add k v =>
    obtain ⟨hev, hinv, href⟩ := add_refines hi hr k v
    exact ⟨by rw [step, Lru.step, hev], hinv, href⟩
  | get k =>
    obtain ⟨hv, hinv, href⟩ := get_refines hi hr k
    exact ⟨by rw [step, Lru.step, hv], hinv, href⟩
  | remove k =>
    obtain ⟨hfound, hev, hinv, href⟩ := remove_refines hi hr k
    exact ⟨by rw [step, Lru.step, hfound, hev], hinv, href⟩
  | removeOldest =>
    obtain ⟨hev, hinv, href⟩ := removeOldest_refines hi hr
    exact ⟨by rw [step, Lru.step, hev], hinv, href⟩
  | len =>
    have hlen : c.len = a.len := by rw [len, Lru.len, ← hr.2, length_entries]
    exact ⟨by rw [step, Lru.step, hlen], hi, hr⟩

theorem run_refines :
    ∀ (ops : List (Lru.Op K V)) {c : LruCache K V} {a : Lru K V}, c.Inv → Refines c a →
      (run c ops).1 = (a.run ops).1 ∧ (run c ops).2.Inv ∧ Refines (run c ops).2 (a.run ops).2
  | [], _, _, hi, hr => ⟨rfl, hi, hr⟩
  | op :: ops, c, a, hi, hr => by
    obtain ⟨hrep, hinv, href⟩ := step_refines hi hr op
    obtain ⟨hreps, hinvs, hrefs⟩ := run_refines ops hinv href
    refine ⟨?_, hinvs, hrefs⟩
    rw [run, Lru.run, hrep, hreps]

omit [DecidableEq K] in
theorem inv_new (maxEntries : Nat) : (new maxEntries : LruCache K V).Inv where
  linked :=
    { addrs := List.nodup_nil
      keys := List.nodup_nil
      points := fun _ _ => Iff.intro (fun h => by cases h) (fun h => by cases h)
      fresh := fun _ h => nomatch h }
  bounded _ := Nat.zero_le _

/-- **`lru.Cache` refines the recency list.**  For every bound and every sequence of `Add`,
`Get`, `Remove`, `RemoveOldest` and `Len` calls from `New(maxEntries)`, the cache returns what
the specification returns (the values found, the results of `Remove`, the lengths and the
entries handed to `OnEvicted`), and it ends with its list and map linked, at most `MaxEntries`
elements when that is not zero, and the specification's entries in its list. -/
theorem lru_refines (maxEntries : Nat) (ops : List (Lru.Op K V)) :
    (run (new maxEntries) ops).1 = ((Lru.empty maxEntries : Lru K V).run ops).1 ∧
      (run (new maxEntries) ops).2.Inv ∧
      Refines (run (new maxEntries) ops).2 ((Lru.empty maxEntries : Lru K V).run ops).2 :=
  run_refines ops (inv_new maxEntries) ⟨rfl, rfl⟩

end LruCache

end Gocql
