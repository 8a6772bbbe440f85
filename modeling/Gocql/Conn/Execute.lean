import Gocql.Session.Scan

/-!
# Conn — binding the values of a prepared statement

`executeQuery` and `executeBatch` prepare a statement, take its values from the query or from
its binding function, check their number against `actualColCount` of the request metadata,
and marshal value `i` with the type of `request.columns[i]` (`marshalQueryValue`) into the
`queryValues` of the frame.

* `marshalQueryValue`; `marshalValues`, the loop over the values; `bindValues`, the count check
  then the loop, whose two uses `executeQueryValues` and `executeBatchValues` differ in their
  message only; `executeBatchStatements`, the loop over the entries of a batch.

`actualColCount` counts a tuple column as its elements, as `readCol` counts it for the scan of
rows, and the loop indexes the columns with positions up to it.  A statement with a tuple
marker of two elements or more then takes more values than it has markers, and the values past
the markers index past the columns: no list of values is bound (`bindValues_wide_fails`).
Where `actualColCount` is the number of columns, value `i` is bound with column `i`, one to a
marker (`bindValues_eq_mapM`).  `bindValues_by_actualColCount` states the two with the count
`parsePreparedMetadata` makes.
-/

namespace Gocql

open Go

/-! ### Bound values -/

/-- `queryValues`: a value's bytes, its name for a named value, and whether it is unset. -/
structure QueryValues where
  value : GoBytes
  name : List UInt8
  isUnset : Bool
  deriving DecidableEq, Repr

/-- The zero `queryValues` that `make([]queryValues, n)` fills the slice with. -/
def QueryValues.zero : QueryValues := ⟨none, [], false⟩

/-- A value bound to a marker: any value, or a `*namedValue` from `NamedValue(name, value)`. -/
inductive QueryArg (κ ν : Type) where
  | value (v : GoVal κ ν)
  | named (name : List UInt8) (v : GoVal κ ν)
  deriving Repr

/-- The value itself, or the one behind a `*namedValue`. -/
def QueryArg.val {κ ν : Type} : QueryArg κ ν → GoVal κ ν
  | .value v | .named _ v => v

/-- The errors of binding the values. -/
inductive ExecFailure (ε : Type) where
  /-- `gocql: expected %d values send got %d` -/
  | valueCount (want got : Int)
  /-- `gocql: batch statement %d expected %d values send got %d` -/
  | batchValueCount (i : Nat) (want got : Int)
  /-- the error of `Marshal` -/
  | marshal (e : MarshalFailure ε)
  /-- `ErrUnsupported`: a batch on protocol 1 -/
  | unsupported
  /-- `request.columns[i]` out of range -/
  | runtime (r : RuntimeError)
  deriving DecidableEq, Repr

/-- An entry of a batch as `executeBatch` sees it once `prepareStatement` and the binding
function have returned: sent as text (no arguments and no binding), or prepared, with its
request metadata and its values. -/
inductive BatchEntry (κ ν : Type) where
  | text
  | prepared (request : PreparedMetadata) (values : List (QueryArg κ ν))

section Bind

variable {κ ν εm εu : Type} [DecidableEq κ] [DecidableEq ν] (L : LeafCodec κ ν εm εu)

/-- `marshalQueryValue(typ, value, dst)`: a named value gives its name, `UnsetValue` sets
`isUnset`, and any other value is marshalled with `typ`. -/
def marshalQueryValue (typ : TypeInfo) (value : QueryArg κ ν) (dst : QueryValues) :
    Except (MarshalFailure εm) QueryValues :=
  let dst := match value with
    | .named name _ => { dst with name := name }
    | .value _ => dst
  match value.val with
  | .unset => .ok { dst with isUnset := true }
  | v => do
    let val ← marshal L typ v
    pure { dst with value := val }

/-- The loop of both: from `i` on, value `i` marshalled with the type of `request.columns[i]`
into a zero `queryValues`. -/
def marshalValues (columns : List ColumnInfo) :
    List (QueryArg κ ν) → Nat → Except (ExecFailure εm) (List QueryValues)
  | [], _ => .ok []
  | v :: vs, i =>
    match columns[i]? with
    | none => .error (.runtime (.indexOutOfRange i columns.length))
    | some col =>
      match marshalQueryValue L col.typeInfo v .zero with
      | .error e => .error (.marshal e)
      | .ok q => do
        let qs ← marshalValues columns vs (i + 1)
        pure (q :: qs)

/-- The values of a prepared statement checked against `actualColCount`, `countError` the
message of a wrong number, then marshalled. -/
def bindValues (countError : Int → Int → ExecFailure εm) (request : PreparedMetadata)
    (values : List (QueryArg κ ν)) : Except (ExecFailure εm) (List QueryValues) :=
  if (values.length : Int) ≠ request.result.actualColCount then
    .error (countError request.result.actualColCount values.length)
  else marshalValues L request.result.columns values 0

/-- The values of the prepared statement of `executeQuery`. -/
def executeQueryValues (request : PreparedMetadata) (values : List (QueryArg κ ν)) :
    Except (ExecFailure εm) (List QueryValues) :=
  bindValues L .valueCount request values

/-- The values of statement `i` of `executeBatch`; `b.values` is made with `actualColCount`
entries, which the check makes the number of values. -/
def executeBatchValues (i : Nat) (request : PreparedMetadata) (values : List (QueryArg κ ν)) :
    Except (ExecFailure εm) (List QueryValues) :=
  bindValues L (.batchValueCount i) request values

/-- The loop of `executeBatch` over its entries from `i`: the values of each prepared one, none
for a text one. -/
def executeBatchStatements :
    List (BatchEntry κ ν) → Nat → Except (ExecFailure εm) (List (Option (List QueryValues)))
  | [], _ => .ok []
  | .text :: es, i => do
    let bs ← executeBatchStatements es (i + 1)
    pure (none :: bs)
  | .prepared request values :: es, i => do
    let b ← executeBatchValues L i request values
    let bs ← executeBatchStatements es (i + 1)
    pure (some b :: bs)

/-- `executeBatch` up to the frame it sends: `ErrUnsupported` on protocol 1, then the entries. -/
def executeBatch (proto : UInt8) (entries : List (BatchEntry κ ν)) :
    Except (ExecFailure εm) (List (Option (List QueryValues))) :=
  if proto = protoVersion1 then .error .unsupported else executeBatchStatements L entries 0

end Bind

/-! ### What the loops bind -/

section Lemmas

variable {κ ν εm εu : Type} [DecidableEq κ] [DecidableEq ν] (L : LeafCodec κ ν εm εu)

/-- With a column for each value from `i` on, the loop marshals value `k` with column `i + k`. -/
theorem marshalValues_eq_mapM (columns : List ColumnInfo) :
    ∀ (values : List (QueryArg κ ν)) (i : Nat), i + values.length ≤ columns.length →
      marshalValues L columns values i =
        (values.zip (columns.drop i)).mapM fun vc =>
          (marshalQueryValue L vc.2.typeInfo vc.1 .zero).mapError .marshal := by
  intro values
  induction values with
  | nil => intro _ _; rfl
  | cons v vs ih =>
    intro i hlen
    have hi : i < columns.length := by simp at hlen; omega
    rw [List.drop_eq_getElem_cons hi, List.zip_cons_cons, List.mapM_cons, marshalValues,
      List.getElem?_eq_getElem hi]
    cases hq : marshalQueryValue L columns[i].typeInfo v .zero with
    | error e =>
      simp only [hq]
      rfl
    | ok q =>
      -- the rest of the values from the next column
      simp only [hq]
      rw [ih (i + 1) (by simp at hlen; omega)]
      rfl

/-- With fewer columns than values from `i` on, the loop binds none of them: at the latest it
indexes `request.columns` at its length. -/
theorem marshalValues_ne_ok {columns : List ColumnInfo} :
    ∀ (values : List (QueryArg κ ν)) (i : Nat), i ≤ columns.length →
      columns.length < i + values.length → ∀ qs, marshalValues L columns values i ≠ .ok qs := by
  intro values
  induction values with
  | nil => intro i hi hlt; simp at hlt; omega
  | cons v vs ih =>
    intro i hi hlt qs
    rw [marshalValues]
    cases hcol : columns[i]? with
    | none => simp
    | some col =>
      have hi' : i < columns.length := by
        rcases List.getElem?_eq_some_iff.mp hcol with ⟨h, -⟩
        exact h
      cases hq : marshalQueryValue L col.typeInfo v .zero with
      | error e => simp [hq]
      | ok q =>
        -- the rest of the values still outnumber the rest of the columns
        have hrest := ih (i + 1) hi' (by simp at hlt; omega)
        cases hm : marshalValues L columns vs (i + 1) with
        | error e => simp [hq, Functor.map, Except.map]
        | ok qs' => exact absurd hm (hrest qs')

/-- **One value for each column.**  Where `actualColCount` is the number of columns, the values
are bound exactly when there is one for each column, value `k` marshalled with the type of
column `k`. -/
theorem bindValues_eq_mapM (countError : Int → Int → ExecFailure εm) {request : PreparedMetadata}
    (hcount : request.result.actualColCount = request.result.columns.length)
    (values : List (QueryArg κ ν)) :
    bindValues L countError request values =
      if values.length = request.result.columns.length then
        (values.zip request.result.columns).mapM fun vc =>
          (marshalQueryValue L vc.2.typeInfo vc.1 .zero).mapError .marshal
      else .error (countError request.result.columns.length values.length) := by
  unfold bindValues
  rw [hcount]
  by_cases hlen : values.length = request.result.columns.length
  · have hle : 0 + values.length ≤ request.result.columns.length := by omega
    rw [if_neg (by omega), if_pos hlen, marshalValues_eq_mapM L _ values 0 hle, List.drop_zero]
  · rw [if_pos (by omega), if_neg hlen]

/-- **A wide tuple marker binds nothing.**  Where `actualColCount` exceeds the number of columns,
as a tuple marker of two elements or more makes it, no list of values is bound: a list of the
length of the columns fails the count, and a list of `actualColCount` values indexes past the
columns. -/
theorem bindValues_wide_fails (countError : Int → Int → ExecFailure εm) {request : PreparedMetadata}
    (hwide : (request.result.columns.length : Int) < request.result.actualColCount)
    (values : List (QueryArg κ ν)) (qs : List QueryValues) :
    bindValues L countError request values ≠ .ok qs := by
  unfold bindValues
  split
  · simp
  · rename_i hlen
    exact marshalValues_ne_ok L values 0 (Nat.zero_le _) (by omega) qs

/-- The batch loop binds the values of each prepared entry, with its index in the batch. -/
theorem executeBatchStatements_ok :
    ∀ (es : List (BatchEntry κ ν)) (i : Nat) (bs : List (Option (List QueryValues))),
      executeBatchStatements L es i = .ok bs →
      ∀ k (hk : k < es.length) request values, es[k] = .prepared request values →
        ∃ qs, executeBatchValues L (i + k) request values = .ok qs := by
  intro es
  induction es with
  | nil => intro _ _ _ k hk; simp at hk
  | cons e es ih =>
    intro i bs h k hk request values hk'
    cases e with
    | text =>
      obtain ⟨bs', hbs', -⟩ := bind_eq_ok h
      cases k with
      | zero => simp at hk'
      | succ k =>
        obtain ⟨qs, hqs⟩ := ih (i + 1) bs' hbs' k (by simpa using hk) request values hk'
        exact ⟨qs, by rw [← hqs]; congr 1; omega⟩
    | prepared request' values' =>
      obtain ⟨b, hb, h⟩ := bind_eq_ok h
      obtain ⟨bs', hbs', -⟩ := bind_eq_ok h
      cases k with
      | zero =>
        simp only [List.getElem_cons_zero, BatchEntry.prepared.injEq] at hk'
        obtain ⟨rfl, rfl⟩ := hk'
        exact ⟨b, hb⟩
      | succ k =>
        obtain ⟨qs, hqs⟩ := ih (i + 1) bs' hbs' k (by simpa using hk) request values hk'
        exact ⟨qs, by rw [← hqs]; congr 1; omega⟩

/-- A batch with a prepared entry whose marker is a wide tuple is never sent. -/
theorem executeBatch_wide_fails {proto : UInt8} {es : List (BatchEntry κ ν)} {k : Nat}
    (hk : k < es.length) {request : PreparedMetadata} {values : List (QueryArg κ ν)}
    (hentry : es[k] = .prepared request values)
    (hwide : (request.result.columns.length : Int) < request.result.actualColCount)
    (bs : List (Option (List QueryValues))) : executeBatch L proto es ≠ .ok bs := by
  intro h
  unfold executeBatch at h
  split at h
  · cases h
  · obtain ⟨qs, hqs⟩ := executeBatchStatements_ok L es 0 bs h k hk request values hentry
    exact bindValues_wide_fails L _ hwide values qs hqs

/-- **What a prepared statement binds, by `actualColCount`.**  The request metadata read from a
frame counts each column's width in `actualColCount`, in place of the column.  Where that count
is the number of columns, the values are bound exactly when there is one for each column, value
`k` marshalled with the type of column `k`; where it exceeds the number of columns, no list of
values is bound, and no batch with a prepared entry of the statement is sent. -/
theorem bindValues_by_actualColCount (countError : Int → Int → ExecFailure εm) (request : PreparedMetadata) :
    (∀ {proto : UInt8} {buf buf' : List UInt8}, parsePreparedMetadata proto buf = .ok (request, buf') →
      request.result.actualColCount = request.result.colCount +
        ((request.result.columns.map ColumnInfo.width).sum : Nat) - request.result.columns.length) ∧
    (request.result.actualColCount = request.result.columns.length → ∀ values : List (QueryArg κ ν),
      bindValues L countError request values =
        if values.length = request.result.columns.length then
          (values.zip request.result.columns).mapM fun vc =>
            (marshalQueryValue L vc.2.typeInfo vc.1 .zero).mapError .marshal
        else .error (countError request.result.columns.length values.length)) ∧
    ((request.result.columns.length : Int) < request.result.actualColCount →
      (∀ (values : List (QueryArg κ ν)) (qs : List QueryValues), bindValues L countError request values ≠ .ok qs) ∧
      ∀ (proto : UInt8) (es : List (BatchEntry κ ν)) (k : Nat) (hk : k < es.length) (values : List (QueryArg κ ν)),
        es[k] = .prepared request values → ∀ bs, executeBatch L proto es ≠ .ok bs) :=
  ⟨parsePreparedMetadata_actualColCount, fun hcount values => bindValues_eq_mapM L countError hcount values,
    fun hwide => ⟨bindValues_wide_fails L countError hwide,
      fun _ _ _ hk _ hentry bs => executeBatch_wide_fails L hk hentry hwide bs⟩⟩

end Lemmas

/-! ### A tuple marker -/

/-- The column of `INSERT INTO ks.t (x) VALUES (?)` with `x` a `tuple<bigint, bigint>`, as the
column loop of the request metadata reads it under a global table spec: its name, then its
type, a tuple (`0x0031`) of two `bigint`s (`0x0002`). -/
def tupleMarkerColumn : List UInt8 := [0, 1, 120, 0, 0x31, 0, 2, 0, 2, 0, 2]

/-- The request metadata of that statement: one column, whose marker counts two. -/
def tupleMarkerRequest : PreparedMetadata :=
  ⟨⟨1, none, [⟨[107, 115], [116], [120], pairBigInt⟩], 1, 2⟩, [], [107, 115], [116]⟩

/-- The tuple `(1, 2)` as a `[]interface{}`. -/
def pairValue : GoVal IntDest GoValue := .slice .iface (some [.leaf (.int64 1), .leaf (.int64 2)])

set_option maxRecDepth 8000 in
/-- The column loop counts the one tuple marker as two values.  One value for the marker fails
the count, in `executeQuery` and in `executeBatch`; two values pass it, and the second indexes
`request.columns[1]` of one column. -/
theorem tuple_marker_misbinds :
    readCols 4 true [107, 115] [116] 1 1 tupleMarkerColumn =
      .ok ((tupleMarkerRequest.result.columns, 2), []) ∧
    (executeQueryValues bigIntLeaf tupleMarkerRequest [.value pairValue] :
      Except (ExecFailure (LeafError MarshalError)) _) = .error (.valueCount 2 1) ∧
    (executeQueryValues bigIntLeaf tupleMarkerRequest
      [.value pairValue, .value (.leaf (.int64 3))] :
      Except (ExecFailure (LeafError MarshalError)) _) = .error (.runtime (.indexOutOfRange 1 1)) ∧
    (executeBatch bigIntLeaf 4 [.prepared tupleMarkerRequest [.value pairValue]] :
      Except (ExecFailure (LeafError MarshalError)) _) = .error (.batchValueCount 0 2 1) := by
  refine ⟨?_, ?_, ?_, ?_⟩ <;> rfl

/-- The one tuple marker counts two: no two values are bound to the statement. -/
theorem tupleMarker_binds_nothing :
    (tupleMarkerRequest.result.columns.length : Int) < tupleMarkerRequest.result.actualColCount ∧
      ∀ qs, executeQueryValues bigIntLeaf tupleMarkerRequest [.value pairValue, .value (.leaf (.int64 3))] ≠ .ok qs :=
  have hwide : (tupleMarkerRequest.result.columns.length : Int) < tupleMarkerRequest.result.actualColCount := by
    decide
  ⟨hwide, ((bindValues_by_actualColCount bigIntLeaf .valueCount tupleMarkerRequest).2.2 hwide).1 _⟩

end Gocql
