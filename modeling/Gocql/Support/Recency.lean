import Mathlib.Data.List.Nodup

/-!
# Support — recency lists

A least-recently-used cache, as its specification sees it: its entries, most recently used
first, each key once, and at most `maxEntries` of them when `maxEntries` is not zero.  A use
(`add` or `get`) moves the entry of its key to the front; `add` of a new key past the bound
evicts the last entry, the least recently used one.

* `Recency.without`, `Recency.promote`: the list without the entry of a key, and with it first;
  their lemmas on the keys (`keys_without`, `nodup_promote`) and lengths (`length_without`).
* `Recency.Lru`: the specification's state, its invariant as two fields, and its operations
  `add`, `get`, `remove` and `removeOldest`, each returning the entries it evicts.
-/

namespace Recency

variable {K V : Type} [DecidableEq K]

/-- The keys of a list of entries, in order. -/
def keys (l : List (K × V)) : List K := l.map Prod.fst

/-- The entries but the one of `k`. -/
def without (l : List (K × V)) (k : K) : List (K × V) := l.filter fun e => e.1 != k

/-- `k` used with value `v`: its entry first, the others after it in their order. -/
def promote (l : List (K × V)) (k : K) (v : V) : List (K × V) := (k, v) :: without l k

omit [DecidableEq K] in
@[simp]
theorem keys_cons (e : K × V) (l : List (K × V)) : keys (e :: l) = e.1 :: keys l := rfl

theorem keys_without (l : List (K × V)) (k : K) : keys (without l k) = (keys l).filter (· != k) := by
  rw [keys, without, keys, List.filter_map]
  rfl

theorem not_mem_keys_without (l : List (K × V)) (k : K) : k ∉ keys (without l k) := by
  rw [keys_without, List.mem_filter]
  simp

theorem nodup_without {l : List (K × V)} (h : (keys l).Nodup) (k : K) : (keys (without l k)).Nodup := by
  rw [keys_without]
  exact h.filter _

theorem without_of_not_mem {l : List (K × V)} {k : K} (h : k ∉ keys l) : without l k = l := by
  rw [without, List.filter_eq_self]
  intro e he
  have hk : e.1 ≠ k := fun hek => h (hek ▸ List.mem_map_of_mem he)
  simpa using hk

theorem nodup_promote {l : List (K × V)} (h : (keys l).Nodup) (k : K) (v : V) :
    (keys (promote l k v)).Nodup := by
  rw [promote, keys_cons, List.nodup_cons]
  exact ⟨not_mem_keys_without l k, nodup_without h k⟩

/-- Taking out a key that is there shortens the list by one. -/
theorem length_without {l : List (K × V)} (h : (keys l).Nodup) {k : K} (hk : k ∈ keys l) :
    (without l k).length + 1 = l.length := by
  have hlen : (keys (without l k)).length + 1 = (keys l).length := by
    rw [keys_without, ← h.erase_eq_filter]
    exact List.length_erase_add_one hk
  simpa [keys] using hlen

theorem length_promote {l : List (K × V)} (h : (keys l).Nodup) {k : K} (hk : k ∈ keys l) (v : V) :
    (promote l k v).length = l.length := by
  rw [promote, List.length_cons, length_without h hk]

omit [DecidableEq K] in
/-- A new key in front keeps the keys distinct. -/
theorem nodup_cons_new {l : List (K × V)} (h : (keys l).Nodup) {k : K} (hk : k ∉ keys l) (v : V) :
    (keys ((k, v) :: l)).Nodup := by
  rw [keys_cons, List.nodup_cons]
  exact ⟨hk, h⟩

omit [DecidableEq K] in
theorem nodup_dropLast {l : List (K × V)} (h : (keys l).Nodup) : (keys l.dropLast).Nodup :=
  ((List.dropLast_sublist l).map Prod.fst).nodup h

theorem mem_of_lookup {l : List (K × V)} {k : K} {v : V} (h : l.lookup k = some v) : (k, v) ∈ l := by
  obtain ⟨l₁, l₂, rfl, -⟩ := List.lookup_eq_some_iff.mp h
  simp

theorem mem_keys_of_lookup {l : List (K × V)} {k : K} {v : V} (h : l.lookup k = some v) :
    k ∈ keys l :=
  List.mem_map_of_mem (mem_of_lookup h)

theorem mem_of_mem_without {l : List (K × V)} {k : K} {e : K × V} (h : e ∈ without l k) : e ∈ l :=
  List.mem_of_mem_filter h

theorem lookup_without_self (l : List (K × V)) (k : K) : (without l k).lookup k = none := by
  rw [List.lookup_eq_none_iff]
  intro e he
  have hmem : e.1 ∈ keys (without l k) := List.mem_map_of_mem he
  have hk : e.1 ≠ k := fun hek => not_mem_keys_without l k (hek ▸ hmem)
  exact bne_iff_ne.mpr (Ne.symm hk)

/-- With distinct keys, the value of a key is the one of its entry. -/
theorem lookup_of_mem : ∀ {l : List (K × V)}, (keys l).Nodup → ∀ {k : K} {v : V}, (k, v) ∈ l →
    l.lookup k = some v
  | e :: l, hnd, k, v, hm => by
    rw [keys_cons, List.nodup_cons] at hnd
    rcases List.mem_cons.mp hm with rfl | hm'
    · simp
    · -- the head is another key
      have hne : (k == e.1) = false :=
        beq_eq_false_iff_ne.mpr fun hke => hnd.1 (hke ▸ List.mem_map_of_mem hm')
      rw [List.lookup_cons, hne, lookup_of_mem hnd.2 hm']

/-- Taking out the key of the last entry drops the last entry. -/
theorem without_getLast {l : List (K × V)} (h : (keys l).Nodup) {e : K × V} (hl : l.getLast? = some e) :
    without l e.1 = l.dropLast := by
  obtain ⟨init, rfl⟩ := List.getLast?_eq_some_iff.mp hl
  have hnd : (keys init ++ [e.1]).Nodup := by simpa [keys] using h
  have hnot : e.1 ∉ keys init := fun hmem => (List.nodup_append.mp hnd).2.2 _ hmem _ (List.mem_singleton_self _) rfl
  rw [without, List.filter_append, ← without, without_of_not_mem hnot, List.dropLast_concat]
  simp

/-! ### The specification of the cache -/

/-- The state of a least-recently-used cache: its bound (zero for none) and its entries, most
recently used first. -/
structure Lru (K V : Type) [DecidableEq K] where
  maxEntries : Nat
  entries : List (K × V)
  nodup : (keys entries).Nodup
  bounded : maxEntries ≠ 0 → entries.length ≤ maxEntries

namespace Lru

/-- No entries. -/
def empty (maxEntries : Nat) : Lru K V := ⟨maxEntries, [], List.nodup_nil, fun _ => Nat.zero_le _⟩

/-- `Len`. -/
def len (c : Lru K V) : Nat := c.entries.length

/-- The entry of `k` moved to the front with value `v`. -/
def use (c : Lru K V) (k : K) (v : V) (hk : k ∈ keys c.entries) : Lru K V :=
  ⟨c.maxEntries, promote c.entries k v, nodup_promote c.nodup k v, by
    rw [length_promote c.nodup hk]
    exact c.bounded⟩

/-- `Add`: a key there is used with the new value; a new key goes in front, and past the bound
the last entry, the least recently used, is evicted. -/
def add (c : Lru K V) (k : K) (v : V) : Lru K V × List (K × V) :=
  if hk : k ∈ keys c.entries then (c.use k v hk, [])
  else if hfull : c.maxEntries ≠ 0 ∧ c.maxEntries < c.entries.length + 1 then
    (⟨c.maxEntries, ((k, v) :: c.entries).dropLast, nodup_dropLast (nodup_cons_new c.nodup hk v),
      fun _ => by
        have := c.bounded
        rw [List.length_dropLast, List.length_cons]
        omega⟩,
      (((k, v) :: c.entries).getLast?).toList)
  else
    (⟨c.maxEntries, (k, v) :: c.entries, nodup_cons_new c.nodup hk v, fun h => by
        rw [List.length_cons]
        omega⟩, [])

/-- `Get`: the value of `k`, whose entry is used. -/
def get (c : Lru K V) (k : K) : Option V × Lru K V :=
  match hv : c.entries.lookup k with
  | some v => (some v, c.use k v (mem_keys_of_lookup hv))
  | none => (none, c)

/-- `Remove`: whether `k` had an entry, the cache without it, and the entry evicted. -/
def remove (c : Lru K V) (k : K) : Bool × Lru K V × List (K × V) :=
  match c.entries.lookup k with
  | some v =>
    (true, ⟨c.maxEntries, without c.entries k, nodup_without c.nodup k, fun h =>
      Nat.le_trans (List.length_filter_le _ _) (c.bounded h)⟩, [(k, v)])
  | none => (false, c, [])

/-- `RemoveOldest`: the last entry evicted. -/
def removeOldest (c : Lru K V) : Lru K V × List (K × V) :=
  (⟨c.maxEntries, c.entries.dropLast, nodup_dropLast c.nodup, fun h => by
      have := c.bounded h
      rw [List.length_dropLast]
      omega⟩, c.entries.getLast?.toList)

theorem add_of_mem (c : Lru K V) {k : K} (hk : k ∈ keys c.entries) (v : V) :
    c.add k v = (c.use k v hk, []) := by
  rw [add, dif_pos hk]

theorem add_of_not_mem (c : Lru K V) {k : K} (hk : k ∉ keys c.entries) (v : V) :
    (c.add k v).1.entries =
        (if c.maxEntries ≠ 0 ∧ c.maxEntries < c.entries.length + 1 then ((k, v) :: c.entries).dropLast
          else (k, v) :: c.entries) ∧
      (c.add k v).2 =
        (if c.maxEntries ≠ 0 ∧ c.maxEntries < c.entries.length + 1 then
          (((k, v) :: c.entries).getLast?).toList else []) ∧
      (c.add k v).1.maxEntries = c.maxEntries := by
  unfold add
  rw [dif_neg hk]
  -- the two `if`s of the statement and the one of `add` split together
  split <;> exact ⟨rfl, rfl, rfl⟩

theorem get_of_lookup (c : Lru K V) {k : K} {v : V} (h : c.entries.lookup k = some v) :
    c.get k = (some v, c.use k v (mem_keys_of_lookup h)) := by
  unfold get
  split
  · case h_1 v' hv' => rw [h, Option.some.injEq] at hv'; subst hv'; rfl
  · case h_2 hv' => rw [h] at hv'; cases hv'

theorem get_of_lookup_none (c : Lru K V) {k : K} (h : c.entries.lookup k = none) :
    c.get k = (none, c) := by
  unfold get
  split
  · case h_1 v' hv' => rw [h] at hv'; cases hv'
  · rfl

theorem remove_of_lookup (c : Lru K V) {k : K} {v : V} (h : c.entries.lookup k = some v) :
    (c.remove k).1 = true ∧ (c.remove k).2.1.entries = without c.entries k ∧
      (c.remove k).2.1.maxEntries = c.maxEntries ∧ (c.remove k).2.2 = [(k, v)] := by
  simp [remove, h]

theorem remove_of_lookup_none (c : Lru K V) {k : K} (h : c.entries.lookup k = none) :
    c.remove k = (false, c, []) := by
  simp [remove, h]

/-- What was just added is there, whatever `Add` evicted. -/
theorem lookup_add_self (c : Lru K V) (k : K) (v : V) : (c.add k v).1.entries.lookup k = some v := by
  unfold add
  split
  · case isTrue hk => simp [use, promote]
  · case isFalse hk =>
    split
    · case isTrue hfull =>
      -- the list was full, so not empty: the last entry is another one
      obtain ⟨e, es, hes⟩ : ∃ e es, c.entries = e :: es := by
        cases h : c.entries with
        | nil =>
          have hb := c.bounded hfull.1
          rw [h, List.length_nil] at hb hfull
          omega
        | cons e es => exact ⟨e, es, rfl⟩
      simp [hes]
    · simp

theorem get_remove_self (c : Lru K V) (k : K) : ((c.remove k).2.1.get k).1 = none := by
  cases h : c.entries.lookup k with
  | none => rw [c.remove_of_lookup_none h, c.get_of_lookup_none h]
  | some v =>
    have hent := (c.remove_of_lookup h).2.1
    rw [get_of_lookup_none _ (hent ▸ lookup_without_self c.entries k)]

/-! ### What the entries hold -/

/-- Every value the cache holds satisfies `P`. -/
def Holds (P : V → Prop) (c : Lru K V) : Prop := ∀ e ∈ c.entries, P e.2

section Holds

variable {P : V → Prop} {c : Lru K V}

theorem Holds.use (h : c.Holds P) {k : K} {v : V} (hk : k ∈ keys c.entries) (hv : P v) :
    (c.use k v hk).Holds P := by
  intro e he
  rcases List.mem_cons.mp he with rfl | he'
  · exact hv
  · exact h e (mem_of_mem_without he')

/-- After `Add`, every entry is the one added or was there before. -/
theorem mem_add {k : K} {v : V} {e : K × V} (he : e ∈ (c.add k v).1.entries) : e = (k, v) ∨ e ∈ c.entries := by
  have hsub : (c.add k v).1.entries ⊆ (k, v) :: c.entries := by
    by_cases hk : k ∈ keys c.entries
    · rw [c.add_of_mem hk]
      intro e he
      rcases List.mem_cons.mp he with rfl | he'
      · exact List.mem_cons_self
      · exact List.mem_cons_of_mem _ (mem_of_mem_without he')
    · rw [(c.add_of_not_mem hk v).1]
      split
      · exact (List.dropLast_sublist _).subset
      · exact List.Subset.refl _
  exact List.mem_cons.mp (hsub he)

/-- `Add` of a value that satisfies `P` keeps it for all: its other entries were there. -/
theorem Holds.add (h : c.Holds P) (k : K) {v : V} (hv : P v) : (c.add k v).1.Holds P := by
  intro e he
  rcases mem_add he with rfl | he'
  · exact hv
  · exact h e he'

/-- `Add` and then `Remove` of one key keeps `P` for all, whatever value went in between. -/
theorem Holds.add_remove (h : c.Holds P) (k : K) (v : V) : ((c.add k v).1.remove k).2.1.Holds P := by
  intro e he
  rw [(remove_of_lookup _ (lookup_add_self c k v)).2.1] at he
  obtain ⟨he, hf⟩ := List.mem_filter.mp he
  have hne : e.1 ≠ k := bne_iff_ne.mp hf
  rcases mem_add he with rfl | he'
  · exact absurd rfl hne
  · exact h e he'

theorem Holds.get (h : c.Holds P) (k : K) : (c.get k).2.Holds P := by
  cases hl : c.entries.lookup k with
  | none => rw [c.get_of_lookup_none hl]; exact h
  | some v =>
    rw [c.get_of_lookup hl]
    exact h.use (mem_keys_of_lookup hl) (h _ (mem_of_lookup hl))

/-- What `Get` finds satisfies `P`. -/
theorem Holds.got (h : c.Holds P) {k : K} {v : V} (hg : (c.get k).1 = some v) : P v := by
  cases hl : c.entries.lookup k with
  | none => rw [c.get_of_lookup_none hl] at hg; cases hg
  | some v' =>
    rw [c.get_of_lookup hl, Option.some.injEq] at hg
    exact hg ▸ h _ (mem_of_lookup hl)

theorem Holds.remove (h : c.Holds P) (k : K) : (c.remove k).2.1.Holds P := by
  cases hl : c.entries.lookup k with
  | none => rw [c.remove_of_lookup_none hl]; exact h
  | some v =>
    intro e he
    rw [(c.remove_of_lookup hl).2.1] at he
    exact h e (mem_of_mem_without he)

end Holds

/-! ### Calls -/

/-- A call on the cache. -/
inductive Op (K V : Type) where
  | add (key : K) (value : V)
  | get (key : K)
  | remove (key : K)
  | removeOldest
  | len

/-- What a call returns: the entries handed to `OnEvicted`, the value `Get` finds, whether
`Remove` found the key and what it evicted, `Len()`. -/
inductive Reply (K V : Type) where
  | evicted (es : List (K × V))
  | got (v : Option V)
  | removed (found : Bool) (es : List (K × V))
  | len (n : Nat)

/-- One call. -/
def step (c : Lru K V) : Op K V → Reply K V × Lru K V
  | .add k v => (.evicted (c.add k v).2, (c.add k v).1)
  | .get k => (.got (c.get k).1, (c.get k).2)
  | .remove k => (.removed (c.remove k).1 (c.remove k).2.2, (c.remove k).2.1)
  | .removeOldest => (.evicted c.removeOldest.2, c.removeOldest.1)
  | .len => (.len c.len, c)

/-- Calls one after another, with their replies. -/
def run : Lru K V → List (Op K V) → List (Reply K V) × Lru K V
  | c, [] => ([], c)
  | c, op :: ops => ((c.step op).1 :: (run (c.step op).2 ops).1, (run (c.step op).2 ops).2)

end Lru

end Recency
