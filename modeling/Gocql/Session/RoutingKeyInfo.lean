import Gocql.Cache.Lru
import Gocql.Session.RoutingKey
import Gocql.Frame.Parse
import Gocql.Metadata.Compile

/-!
# Session — the routing-key-info cache

`Session.routingKeyInfo(ctx, stmt)` (`session.go`) finds the partition-key columns of a statement
among its bind markers.  It looks the statement up in `routingKeyInfoCache`, an `lru.Cache` of
`*inflightCachedEntry`: a hit waits for the entry and returns its error or its value; a miss
publishes a fresh entry, prepares the statement on some connection, and fills the entry's `err`
or `value`.  On a prepare error, a keyspace-metadata error and a missing table it then calls
`routingKeyInfoCache.Remove(stmt)` ("don't cache this error"); when `getConn()` finds no
connection it sets `inflight.err` and returns without one.

The calls are taken one after another, so an entry is complete when a later call finds it
(`wg.Wait()` returns at once), and publishing the entry before filling it is publishing the
filled entry.  The connection, `prepareStatement` and `KeyspaceMetadata` are the environment of
a call.

* `computeRoutingKeyInfo`: what the creator of an entry computes, and whether it removes it;
  `computeRoutingKeyInfo_kept`, `computeRoutingKeyInfo_dropped`: it keeps the entry exactly for a
  success or the lack of a connection.
* `routingKeyInfo_retains`, `runRoutingKeyInfo_retains`: over every run of calls, the cache holds
  only successes and the no-connection error, so a hit never returns one of the errors the
  source removes (`routingKeyInfo_after_run`).
* `routingKeyInfo_recomputes`, `routingKeyInfo_served`: after a removed error the next call
  computes again; after a kept outcome it is served from the cache, whatever the environment.
* `routingKeyInfo_caches_no_connection`: a call that finds no connection leaves its error in
  the cache, and every later call for the statement returns it, also once a connection is there.
-/

namespace Gocql

open Go

/-- The errors of `Session.routingKeyInfo`. -/
inductive RoutingInfoError (ε : Type) where
  /-- `gocql: unable to fetch prepared info: no connection available` -/
  | noConnection
  /-- the error of `conn.prepareStatement` -/
  | prepare (e : ε)
  /-- the error of `s.KeyspaceMetadata` -/
  | keyspace (e : ε)
  /-- `ErrNoMetadata`: `no metadata available` -/
  | noMetadata
  deriving Repr

/-- `inflightCachedEntry`, once its creator is done. -/
structure InflightCachedEntry (ε : Type) where
  err : Option (RoutingInfoError ε)
  value : Option RoutingKeyInfo

/-- What a call that finds the entry returns: its error, or its value. -/
def InflightCachedEntry.result {ε : Type} (inflight : InflightCachedEntry ε) :
    Except (RoutingInfoError ε) (Option RoutingKeyInfo) :=
  match inflight.err with
  | some err => .error err
  | none => .ok inflight.value

/-- What a call sees of the session: whether `getConn()` finds a connection, what
`conn.prepareStatement(ctx, stmt, nil)` returns of the statement, and `s.KeyspaceMetadata`. -/
structure RoutingEnv (ε : Type) where
  conn : Bool
  prepareStatement : List UInt8 → Except ε PreparedMetadata
  keyspaceMetadata : List UInt8 → Except ε KeyspaceMetadata

/-- `s.routingKeyInfoCache`. -/
abbrev RoutingKeyInfoCache (ε : Type) := LruCache (List UInt8) (InflightCachedEntry ε)

/-- The inner loop over the bound columns: the first one named `name`, its index and type. -/
def findBoundColumn (name : List UInt8) : List ColumnInfo → Option (Nat × TypeInfo)
  | [] => none
  | boundColumn :: rest =>
    if name = boundColumn.name then some (0, boundColumn.typeInfo)
    else (findBoundColumn name rest).map fun (i, t) => (i + 1, t)

/-- The loop over the partition key: each key column's bound column, or `none` at the first
one no bind marker names (`routingKeyInfo.indexes[keyIndex] == -1`).  A nil key column is
dereferenced. -/
def partitionKeyLoop (columns : List ColumnInfo) :
    List (Option ColumnMetadata) → Outcome Empty (Option (List (Int × TypeInfo)))
  | [] => pure (some [])
  | keyColumn :: rest => do
    let keyColumn ← deref keyColumn
    match findBoundColumn keyColumn.name columns with
    | none => pure none
    | some (argIndex, typ) => do
      let r ← partitionKeyLoop columns rest
      pure (r.map ((argIndex, typ) :: ·))

/-- A `routingKeyInfo` of the index and the type of each column. -/
def RoutingKeyInfo.ofPairs (ps : List (Int × TypeInfo)) : RoutingKeyInfo :=
  ⟨ps.map (·.1), ps.map (·.2), by rw [List.length_map, List.length_map]⟩

section Compute

variable {ε : Type}

/-- The creator's part of `routingKeyInfo`: the entry it fills, and whether it calls
`routingKeyInfoCache.Remove(stmt)`. -/
def computeRoutingKeyInfo (env : RoutingEnv ε) (stmt : List UInt8) :
    Outcome Empty (InflightCachedEntry ε × Bool) :=
  if !env.conn then pure (⟨some .noConnection, none⟩, false)
  else
    match env.prepareStatement stmt with
    | .error e => pure (⟨some (.prepare e), none⟩, true)
    | .ok info =>
      if info.result.colCount = 0 then pure (⟨none, none⟩, false)
      else if info.pkeyColumns ≠ [] then do
        -- proto v4: the statement names its partition-key columns
        let pairs ← info.pkeyColumns.mapM fun col => do
          let column ← index info.result.columns col
          pure ((col : Int), column.typeInfo)
        pure (⟨none, some (RoutingKeyInfo.ofPairs pairs)⟩, false)
      else do
        let column ← index info.result.columns 0
        match env.keyspaceMetadata column.keyspace with
        | .error e => pure (⟨some (.keyspace e), none⟩, true)
        | .ok keyspaceMetadata =>
          match keyspaceMetadata.tables.lookup info.table with
          | none => pure (⟨some .noMetadata, none⟩, true)
          | some tableMetadata => do
            let pairs ← partitionKeyLoop info.result.columns tableMetadata.partitionKey
            pure (⟨none, pairs.map RoutingKeyInfo.ofPairs⟩, false)

/-- What stays in the cache: a success, or the lack of a connection. -/
def InflightCachedEntry.Retained (inflight : InflightCachedEntry ε) : Prop :=
  inflight.err = none ∨ inflight.err = some .noConnection

/-- An outcome the creator does not remove is a success or the lack of a connection. -/
theorem computeRoutingKeyInfo_kept {env : RoutingEnv ε} {stmt : List UInt8} {inflight : InflightCachedEntry ε}
    (h : computeRoutingKeyInfo env stmt = .ok (inflight, false)) : inflight.Retained := by
  unfold computeRoutingKeyInfo at h
  split at h
  · case isTrue => cases h; exact .inr rfl
  · case isFalse =>
    split at h
    · case h_1 => cases h
    · case h_2 info _ =>
      split at h
      · case isTrue => cases h; exact .inl rfl
      · case isFalse =>
        split at h
        · case isTrue =>
          obtain ⟨pairs, -, hp⟩ := Outcome.bind_eq_ok h
          cases hp; exact .inl rfl
        · case isFalse =>
          obtain ⟨column, -, hc⟩ := Outcome.bind_eq_ok h
          -- the three ends of the metadata branch: two removed errors and the loop's result
          split at hc
          · case h_1 => cases hc
          · case h_2 =>
            split at hc
            · case h_1 => cases hc
            · case h_2 =>
              obtain ⟨pairs, -, hp⟩ := Outcome.bind_eq_ok hc
              cases hp; exact .inl rfl

/-- An outcome the creator removes is an error, and not the lack of a connection. -/
theorem computeRoutingKeyInfo_dropped {env : RoutingEnv ε} {stmt : List UInt8} {inflight : InflightCachedEntry ε}
    (h : computeRoutingKeyInfo env stmt = .ok (inflight, true)) :
    ∃ err, inflight.err = some err ∧ err ≠ .noConnection := by
  unfold computeRoutingKeyInfo at h
  split at h
  · case isTrue => cases h
  · case isFalse =>
    split at h
    · case h_1 e _ => cases h; exact ⟨.prepare e, rfl, fun h => by cases h⟩
    · case h_2 info _ =>
      split at h
      · case isTrue => cases h
      · case isFalse =>
        split at h
        · case isTrue =>
          obtain ⟨pairs, -, hp⟩ := Outcome.bind_eq_ok h
          cases hp
        · case isFalse =>
          obtain ⟨column, -, hc⟩ := Outcome.bind_eq_ok h
          split at hc
          · case h_1 e _ => cases hc; exact ⟨.keyspace e, rfl, fun h => by cases h⟩
          · case h_2 =>
            split at hc
            · case h_1 => cases hc; exact ⟨.noMetadata, rfl, fun h => by cases h⟩
            · case h_2 =>
              obtain ⟨pairs, -, hp⟩ := Outcome.bind_eq_ok hc
              cases hp

/-- Without a connection nothing is prepared, and the error is kept. -/
theorem computeRoutingKeyInfo_no_connection {env : RoutingEnv ε} (hconn : env.conn = false)
    (stmt : List UInt8) : computeRoutingKeyInfo env stmt = .ok (⟨some .noConnection, none⟩, false) := by
  rw [computeRoutingKeyInfo, if_pos (by rw [hconn]; rfl)]
  rfl

/-! ### `routingKeyInfo` -/

/-- `Session.routingKeyInfo(ctx, stmt)`: a hit returns the entry's outcome; a miss computes
it, adds the entry, and removes it again where the source does. -/
def routingKeyInfo (env : RoutingEnv ε) (cache : RoutingKeyInfoCache ε) (stmt : List UInt8) :
    Outcome Empty (Except (RoutingInfoError ε) (Option RoutingKeyInfo) × RoutingKeyInfoCache ε) :=
  match cache.get stmt with
  | (some inflight, cache) => pure (inflight.result, cache)
  | (none, cache) => do
    let (inflight, remove) ← computeRoutingKeyInfo env stmt
    let cache := (cache.add stmt inflight).1
    pure (inflight.result, if remove then (cache.remove stmt).2.1 else cache)

theorem routingKeyInfo_hit {env : RoutingEnv ε} {cache : RoutingKeyInfoCache ε} {stmt : List UInt8}
    {inflight : InflightCachedEntry ε} (hg : (cache.get stmt).1 = some inflight) :
    routingKeyInfo env cache stmt = .ok (inflight.result, (cache.get stmt).2) := by
  unfold routingKeyInfo
  rcases hget : cache.get stmt with ⟨o, c'⟩
  rw [hget] at hg
  dsimp only at hg
  subst hg
  rfl

theorem routingKeyInfo_miss {env : RoutingEnv ε} {cache : RoutingKeyInfoCache ε} {stmt : List UInt8}
    (hmiss : cache.cache stmt = none) {inflight : InflightCachedEntry ε} {remove : Bool}
    (hc : computeRoutingKeyInfo env stmt = .ok (inflight, remove)) :
    routingKeyInfo env cache stmt =
      .ok (inflight.result,
        if remove then ((cache.add stmt inflight).1.remove stmt).2.1 else (cache.add stmt inflight).1) := by
  have hget : cache.get stmt = (none, cache) := by
    unfold LruCache.get
    rw [hmiss]
  unfold routingKeyInfo
  rw [hget]
  dsimp only
  rw [hc, Outcome.ok_bind]
  rfl

/-- A miss whose outcome is removed returns an error other than the lack of a connection, and
leaves the statement out of the cache. -/
theorem routingKeyInfo_recomputes {env : RoutingEnv ε} {cache : RoutingKeyInfoCache ε} (hi : cache.Inv)
    {stmt : List UInt8} (hmiss : cache.cache stmt = none) {inflight : InflightCachedEntry ε}
    (hc : computeRoutingKeyInfo env stmt = .ok (inflight, true)) :
    (∃ err, inflight.result = .error err ∧ err ≠ .noConnection) ∧
      ∃ cache', routingKeyInfo env cache stmt = .ok (inflight.result, cache') ∧ (cache'.get stmt).1 = none := by
  obtain ⟨err, herr, hne⟩ := computeRoutingKeyInfo_dropped hc
  refine ⟨⟨err, by rw [InflightCachedEntry.result, herr], hne⟩, _, routingKeyInfo_miss hmiss hc, ?_⟩
  obtain ⟨-, hinv, -⟩ := LruCache.add_refines hi (cache.refines_abs hi) stmt inflight
  exact LruCache.get_remove_self hinv stmt

/-- A miss whose outcome is kept serves it to the next call, whatever that call would compute. -/
theorem routingKeyInfo_served {env : RoutingEnv ε} {cache : RoutingKeyInfoCache ε} (hi : cache.Inv)
    {stmt : List UInt8} (hmiss : cache.cache stmt = none) {inflight : InflightCachedEntry ε}
    (hc : computeRoutingKeyInfo env stmt = .ok (inflight, false)) :
    ∃ cache', routingKeyInfo env cache stmt = .ok (inflight.result, cache') ∧
      ∀ env' : RoutingEnv ε, ∃ cache'', routingKeyInfo env' cache' stmt = .ok (inflight.result, cache'') := by
  refine ⟨_, routingKeyInfo_miss hmiss hc, fun env' => ⟨_, routingKeyInfo_hit ?_⟩⟩
  exact LruCache.get_add_self hi stmt inflight

/-- **A missing connection is cached**: from any cache without the statement, a call that finds
no connection returns its error, and every later call for the statement returns that error
again from the cache, whatever connection and schema it would find. -/
theorem routingKeyInfo_caches_no_connection {cache : RoutingKeyInfoCache ε} (hi : cache.Inv)
    {stmt : List UInt8} (hmiss : cache.cache stmt = none) {env : RoutingEnv ε} (hconn : env.conn = false) :
    ∃ cache', routingKeyInfo env cache stmt = .ok (.error .noConnection, cache') ∧
      ∀ env' : RoutingEnv ε, ∃ cache'', routingKeyInfo env' cache' stmt = .ok (.error .noConnection, cache'') :=
  routingKeyInfo_served hi hmiss (computeRoutingKeyInfo_no_connection hconn stmt)

/-- An empty cache of ten entries, and a call with no connection. -/
theorem routingKeyInfo_no_connection_sticks :
    (LruCache.new 10 : RoutingKeyInfoCache String).Inv ∧
      (LruCache.new 10 : RoutingKeyInfoCache String).cache [] = none ∧
      (⟨false, fun _ => .error "", fun _ => .error ""⟩ : RoutingEnv String).conn = false ∧
      ∃ cache', routingKeyInfo ⟨false, fun _ => .error "", fun _ => .error ""⟩ (LruCache.new 10) []
          = .ok (.error .noConnection, cache') ∧
        ∀ env' : RoutingEnv String, ∃ cache'', routingKeyInfo env' cache' [] = .ok (.error .noConnection, cache'') :=
  ⟨LruCache.inv_new 10, rfl, rfl, routingKeyInfo_caches_no_connection (LruCache.inv_new 10) rfl rfl⟩

/-! ### Over runs -/

/-- One call keeps the cache in its invariant and holding only retained entries. -/
theorem routingKeyInfo_retains {env : RoutingEnv ε} {cache : RoutingKeyInfoCache ε} (hi : cache.Inv)
    (hr : cache.Holds InflightCachedEntry.Retained) {stmt : List UInt8}
    {r : Except (RoutingInfoError ε) (Option RoutingKeyInfo)} {cache' : RoutingKeyInfoCache ε}
    (h : routingKeyInfo env cache stmt = .ok (r, cache')) :
    cache'.Inv ∧ cache'.Holds InflightCachedEntry.Retained := by
  obtain ⟨-, hgi, hgr⟩ := LruCache.get_refines hi (cache.refines_abs hi) stmt
  have hgh := LruCache.Holds.get hi hr stmt
  unfold routingKeyInfo at h
  rcases hget : cache.get stmt with ⟨o, c₁⟩
  rw [hget] at hgi hgh h
  dsimp only at hgi hgh
  cases o with
  | some inflight =>
    -- a hit moves the entry to the front
    cases h
    exact ⟨hgi, hgh⟩
  | none =>
    obtain ⟨⟨inflight, remove⟩, hc, hp⟩ := Outcome.bind_eq_ok h
    cases hp
    obtain ⟨-, hai, -⟩ := LruCache.add_refines hgi (c₁.refines_abs hgi) stmt inflight
    cases remove with
    | false =>
      rw [if_neg Bool.false_ne_true]
      exact ⟨hai, hgh.add hgi stmt (computeRoutingKeyInfo_kept hc)⟩
    | true =>
      obtain ⟨-, -, hri, -⟩ := LruCache.remove_refines hai ((c₁.add stmt inflight).1.refines_abs hai) stmt
      rw [if_pos rfl]
      exact ⟨hri, hgh.add_remove hgi stmt inflight⟩

/-- Calls one after another, each with what it sees of the session. -/
def runRoutingKeyInfo :
    RoutingKeyInfoCache ε → List (RoutingEnv ε × List UInt8) →
      Outcome Empty (List (Except (RoutingInfoError ε) (Option RoutingKeyInfo)) × RoutingKeyInfoCache ε)
  | cache, [] => pure ([], cache)
  | cache, (env, stmt) :: calls => do
    let (r, cache) ← routingKeyInfo env cache stmt
    let (rs, cache) ← runRoutingKeyInfo cache calls
    pure (r :: rs, cache)

theorem runRoutingKeyInfo_retains :
    ∀ (calls : List (RoutingEnv ε × List UInt8)) {cache : RoutingKeyInfoCache ε}, cache.Inv →
      cache.Holds InflightCachedEntry.Retained →
      ∀ {rs cache'}, runRoutingKeyInfo cache calls = .ok (rs, cache') →
        cache'.Inv ∧ cache'.Holds InflightCachedEntry.Retained
  | [], _, hi, hr, _, _, h => by cases h; exact ⟨hi, hr⟩
  | (env, stmt) :: calls, cache, hi, hr, rs, cache', h => by
    obtain ⟨⟨r, c₁⟩, h₁, hrest⟩ := Outcome.bind_eq_ok h
    obtain ⟨⟨rs', c₂⟩, h₂, hp⟩ := Outcome.bind_eq_ok hrest
    cases hp
    obtain ⟨hi₁, hr₁⟩ := routingKeyInfo_retains hi hr h₁
    exact runRoutingKeyInfo_retains calls hi₁ hr₁ h₂

/-- **The cache serves only what it keeps**: after any run of calls from an empty cache, a call
that hits returns a success or the lack of a connection, never a prepare, keyspace-metadata or
missing-table error; and a call that misses and computes one of those errors returns it and
leaves the statement out, so the call after it computes again. -/
theorem routingKeyInfo_after_run (maxEntries : Nat) (calls : List (RoutingEnv ε × List UInt8))
    {rs : List (Except (RoutingInfoError ε) (Option RoutingKeyInfo))} {cache : RoutingKeyInfoCache ε}
    (hrun : runRoutingKeyInfo (LruCache.new maxEntries) calls = .ok (rs, cache)) (stmt : List UInt8) :
    (∀ inflight, (cache.get stmt).1 = some inflight → inflight.Retained) ∧
      (cache.cache stmt = none → ∀ env inflight, computeRoutingKeyInfo env stmt = .ok (inflight, true) →
        (∃ err, inflight.result = .error err ∧ err ≠ .noConnection) ∧
          ∃ cache', routingKeyInfo env cache stmt = .ok (inflight.result, cache') ∧ (cache'.get stmt).1 = none) := by
  have hnew : (LruCache.new maxEntries : RoutingKeyInfoCache ε).Holds InflightCachedEntry.Retained :=
    fun _ he => nomatch he
  obtain ⟨hi, hr⟩ := runRoutingKeyInfo_retains calls (LruCache.inv_new maxEntries) hnew hrun
  exact ⟨fun _ hg => hr.got hi hg, fun hmiss _ _ hc => routingKeyInfo_recomputes hi hmiss hc⟩

/-- A call with no connection caches its error, which is a retained one. -/
theorem routingKeyInfo_no_connection_retained :
    ∃ rs cache, runRoutingKeyInfo (LruCache.new 10)
        [((⟨false, fun _ => .error "", fun _ => .error ""⟩ : RoutingEnv String), [])] = .ok (rs, cache) ∧
      (cache.get []).1 = some ⟨some .noConnection, none⟩ ∧
      (⟨some .noConnection, none⟩ : InflightCachedEntry String).Retained :=
  have h : runRoutingKeyInfo (LruCache.new 10)
      [((⟨false, fun _ => .error "", fun _ => .error ""⟩ : RoutingEnv String), [])] = .ok (_, _) := rfl
  ⟨_, _, h, rfl, (routingKeyInfo_after_run 10 _ h []).1 _ (rfl : (LruCache.get _ ([] : List UInt8)).1 = _)⟩

end Compute

end Gocql
