import Gocql.Marshal.TypeInfo
import Gocql.Cluster.Host
import Gocql.Support.Panic

/-!
# Metadata — compiling a keyspace's schema rows

`compileMetadata` links the rows a keyspace refresh read: the tables by name, the functions by
name, each aggregate's final and state functions (dereferencing the pointer the functions' map
holds for each name), each column into its table, and then the partition key and clustering
columns of each table.  Under protocol 1 (`compileV1Metadata`) they are built from the table's
key validator, comparator and aliases; otherwise (`compileV2Metadata`) they are sized from the
key validator or from the columns' largest component index, and each column is written at its
own component index.

Strings are their bytes.  The type parsers `parseType` and `getCassandraType` are not modelled:
the compilation is stated over any pair of them (section variables).  The views, user types and
materialized views, which `compileMetadata` only copies and links by a lookup that may give
nil, are left out.

* `compileMetadata`, `compileV1Metadata`, `compileV2Metadata`, `componentColumnCountOfType`: the
  source's.
* `TableMetadata.WellFormed`: every position of the partition key and of the clustering columns
  holds a column of that kind whose component index is the position.
* `compileV1Table_wellFormed`: the protocol 1 path builds well-formed tables whenever it returns;
  `placeColumns_sound`: the later path writes each column only at its own index, so the entries it
  fills are right, and what can go wrong is a position no column fills.
* `compileMetadata_fails_schema`: an aggregate with no final function makes `compileMetadata`
  dereference nil, and a table whose first partition-key column is not yet visible keeps a nil
  entry.
-/

namespace Gocql

open Go

/-! ### The rows -/

/-- `ColumnKind`. -/
inductive ColumnKind where
  | unknownKind
  | partitionKey
  | clusteringKey
  | regular
  | compact
  | static
  deriving DecidableEq, Repr

/-- `ColumnOrder`: `ASC` is `false`, `DESC` is `true`. -/
inductive ColumnOrder where
  | asc
  | desc
  deriving DecidableEq, Repr

/-- `ColumnMetadata`, without its index options, which compilation does not read. -/
structure ColumnMetadata where
  keyspace : List UInt8
  table : List UInt8
  name : List UInt8
  componentIndex : Int
  kind : ColumnKind
  validator : List UInt8
  type : Option TypeInfo
  clusteringOrder : List UInt8
  order : ColumnOrder

/-- `TableMetadata`; a nil entry of `PartitionKey` or `ClusteringColumns` is `none`. -/
structure TableMetadata where
  keyspace : List UInt8
  name : List UInt8
  keyValidator : List UInt8
  comparator : List UInt8
  defaultValidator : List UInt8
  keyAliases : List (List UInt8)
  columnAliases : List (List UInt8)
  valueAlias : List UInt8
  partitionKey : List (Option ColumnMetadata)
  clusteringColumns : List (Option ColumnMetadata)
  columns : GoMap (List UInt8) ColumnMetadata
  orderedColumns : List (List UInt8)

/-- `FunctionMetadata`, with the fields that name it. -/
structure FunctionMetadata where
  keyspace : List UInt8
  name : List UInt8

/-- `AggregateMetadata`: `finalFunc` and `stateFunc` are the source's `FinalFunc` and `StateFunc`,
the functions linked in; `finalFuncName` and `stateFuncName` its unexported `finalFunc` and
`stateFunc`, the names read from the row (empty when the row's column is null). -/
structure AggregateMetadata where
  keyspace : List UInt8
  name : List UInt8
  finalFunc : FunctionMetadata
  stateFunc : FunctionMetadata
  finalFuncName : List UInt8
  stateFuncName : List UInt8

/-- `typeParserResult`. -/
structure TypeParserResult where
  isComposite : Bool
  types : List TypeInfo
  reversed : List Bool
  collections : List (List UInt8 × TypeInfo)

/-- `KeyspaceMetadata`, with the maps `compileMetadata` fills that this model keeps. -/
structure KeyspaceMetadata where
  tables : GoMap (List UInt8) TableMetadata
  functions : GoMap (List UInt8) FunctionMetadata
  aggregates : GoMap (List UInt8) AggregateMetadata

/-- `DEFAULT_KEY_ALIAS`. -/
def defaultKeyAlias : List UInt8 := strBytes "key"

/-- `DEFAULT_COLUMN_ALIAS`. -/
def defaultColumnAlias : List UInt8 := strBytes "column"

/-- `DEFAULT_VALUE_ALIAS`. -/
def defaultValueAlias : List UInt8 := strBytes "value"

/-- The alias of component `i` in `compileV1Metadata`: the schema's alias if there is one, else
`base` for the first component and `base` followed by `strconv.Itoa(i+1)` for the others. -/
def componentAlias (aliases : List (List UInt8)) (base : List UInt8) (i : Nat) : List UInt8 :=
  if i < aliases.length then aliases.getD i []
  else if i = 0 then base
  else base ++ strBytes (toString (i + 1))

/-- `table.Columns[alias] = column` for each column of a list, in order. -/
def insertColumns (columns : GoMap (List UInt8) ColumnMetadata) (cols : List ColumnMetadata) :
    GoMap (List UInt8) ColumnMetadata :=
  cols.foldl (fun m c => m.insert c.name c) columns

section Compile

variable (parseType : List UInt8 → TypeParserResult) (getCassandraType : List UInt8 → TypeInfo)

/-! ### `compileMetadata` -/

/-- The aggregates' loop: `FinalFunc = *keyspace.Functions[finalFunc]`, then the same for the
state function. -/
def linkAggregates (functions : GoMap (List UInt8) FunctionMetadata) :
    List AggregateMetadata → Outcome String (List AggregateMetadata)
  | [] => pure []
  | a :: as => do
    let finalFunc ← deref (functions.lookup a.finalFuncName)
    let stateFunc ← deref (functions.lookup a.stateFuncName)
    let rest ← linkAggregates functions as
    pure ({ a with finalFunc := finalFunc, stateFunc := stateFunc } :: rest)

/-- The column's `Type` and `Order`, from its validator: by `getCassandraType` when the row has
a clustering order (Cassandra 3.x), else from `parseType`'s first type and its reversal. -/
def decodeColumn (col : ColumnMetadata) : Outcome String ColumnMetadata :=
  if col.clusteringOrder ≠ [] then
    pure { col with type := some (getCassandraType col.validator),
                    order := if col.clusteringOrder = strBytes "desc" then .desc else .asc }
  else do
    let validatorParsed := parseType col.validator
    let typ ← index validatorParsed.types 0
    let reversed ← index validatorParsed.reversed 0
    pure { col with type := some typ, order := if reversed then .desc else .asc }

/-- The columns' loop: each column decoded and added to the table of its name, if there is one
(the last table of that name, as `keyspace.Tables` holds). -/
def addColumns (tableIndex : GoMap (List UInt8) Nat) :
    List TableMetadata → List ColumnMetadata → Outcome String (List TableMetadata)
  | tables, [] => pure tables
  | tables, c :: cs => do
    let col ← decodeColumn parseType getCassandraType c
    match tableIndex.lookup col.table with
    -- the schema is being updated: the column's table is not there yet
    | none => addColumns tableIndex tables cs
    | some i =>
      addColumns tableIndex
        (tables.modify i fun t =>
          { t with columns := t.columns.insert col.name col, orderedColumns := t.orderedColumns ++ [col.name] })
        cs

/-! ### `compileV1Metadata` -/

/-- The partition key's columns under protocol 1, one for each type of the key validator. -/
def partitionKeyV1 (t : TableMetadata) (types : List TypeInfo) : List ColumnMetadata :=
  types.zipIdx.map fun (typ, i) =>
    { keyspace := t.keyspace, table := t.name, name := componentAlias t.keyAliases defaultKeyAlias i,
      componentIndex := i, kind := .partitionKey, validator := [], type := some typ,
      clusteringOrder := [], order := .asc }

/-- The number of clustering columns under protocol 1, from the comparator. -/
def clusteringSizeV1 (t : TableMetadata) (comparatorParsed : TypeParserResult)
    (columns : GoMap (List UInt8) ColumnMetadata) : Outcome String Int :=
  let size : Int := comparatorParsed.types.length
  if comparatorParsed.isComposite then
    if comparatorParsed.collections.length ≠ 0 then pure (size - 1)
    else if (t.columnAliases.length : Int) = size - 1 then do
      let last ← index comparatorParsed.types (size - 1)
      pure (if last.type = .varchar then size - 1 else size)
    else pure size
  else if ¬(t.columnAliases.length ≠ 0 ∨ columns.entries.length = 0) then pure 0
  else pure size

/-- The clustering columns' loop under protocol 1, from position `i` on for `n` positions. -/
def clusteringColumnsV1 (t : TableMetadata) (comparatorParsed : TypeParserResult) :
    Nat → Nat → Outcome String (List ColumnMetadata)
  | 0, _ => pure []
  | n + 1, i => do
    let reversed ← index comparatorParsed.reversed i
    let typ ← index comparatorParsed.types i
    let rest ← clusteringColumnsV1 t comparatorParsed n (i + 1)
    pure ({ keyspace := t.keyspace, table := t.name,
            name := componentAlias t.columnAliases defaultColumnAlias i, componentIndex := i,
            kind := .clusteringKey, validator := [], type := some typ, clusteringOrder := [],
            order := if reversed then .desc else .asc } :: rest)

/-- One table of `compileV1Metadata`. -/
def compileV1Table (t : TableMetadata) : Outcome String TableMetadata := do
  let keyValidatorParsed := parseType t.keyValidator
  let comparatorParsed := parseType t.comparator
  let partitionKey := partitionKeyV1 t keyValidatorParsed.types
  let columns := insertColumns t.columns partitionKey
  let size ← clusteringSizeV1 t comparatorParsed columns
  let _ ← (makeSlice size (none : Option ColumnMetadata) : Outcome String _)
  let clustering ← clusteringColumnsV1 t comparatorParsed size.toNat 0
  let columns := insertColumns columns clustering
  let columns ←
    if size ≠ comparatorParsed.types.length - 1 then do
      let valueName := if t.valueAlias.length > 0 then t.valueAlias else defaultValueAlias
      let defaultValidatorParsed := parseType t.defaultValidator
      let typ ← index defaultValidatorParsed.types 0
      pure (columns.insert valueName
        { keyspace := t.keyspace, table := t.name, name := valueName, componentIndex := 0,
          kind := .regular, validator := [], type := some typ, clusteringOrder := [], order := .asc })
    else pure columns
  pure { t with partitionKey := partitionKey.map some, clusteringColumns := clustering.map some,
                columns := columns }

/-- `compileV1Metadata`: each table in turn. -/
def compileV1Metadata : List TableMetadata → Outcome String (List TableMetadata)
  | [] => pure []
  | t :: ts => do
    let t ← compileV1Table parseType t
    let ts ← compileV1Metadata ts
    pure (t :: ts)

/-! ### `compileV2Metadata` -/

/-- `componentColumnCountOfType(columns, kind)`: one more than the largest component index of a
column of that kind, or 0. -/
def componentColumnCountOfType (columns : GoMap (List UInt8) ColumnMetadata) (kind : ColumnKind) : Int :=
  (columns.entries.foldl
    (fun m e => if e.2.kind = kind ∧ e.2.componentIndex > m then e.2.componentIndex else m) (-1)) + 1

/-- The loop over `OrderedColumns`: each partition-key and clustering column written at its
component index. -/
def placeColumns (columns : GoMap (List UInt8) ColumnMetadata) :
    List (Option ColumnMetadata) → List (Option ColumnMetadata) → List (List UInt8) →
      Outcome String (List (Option ColumnMetadata) × List (Option ColumnMetadata))
  | pk, cc, [] => pure (pk, cc)
  | pk, cc, columnName :: names => do
    let column ← deref (columns.lookup columnName)
    match column.kind with
    | .partitionKey => do
      let pk ← setIndex pk column.componentIndex (some column)
      placeColumns columns pk cc names
    | .clusteringKey => do
      let cc ← setIndex cc column.componentIndex (some column)
      placeColumns columns pk cc names
    | _ => placeColumns columns pk cc names

/-- One table of `compileV2Metadata`. -/
def compileV2Table (t : TableMetadata) : Outcome String TableMetadata := do
  let clusteringColumns ←
    makeSlice (componentColumnCountOfType t.columns .clusteringKey) (none : Option ColumnMetadata)
  let partitionKey ←
    if t.keyValidator ≠ [] then makeSlice (parseType t.keyValidator).types.length none
    -- Cassandra 3.x+
    else makeSlice (componentColumnCountOfType t.columns .partitionKey) none
  let (partitionKey, clusteringColumns) ←
    placeColumns t.columns partitionKey clusteringColumns t.orderedColumns
  pure { t with partitionKey := partitionKey, clusteringColumns := clusteringColumns }

/-- `compileV2Metadata`: each table in turn. -/
def compileV2Metadata : List TableMetadata → Outcome String (List TableMetadata)
  | [] => pure []
  | t :: ts => do
    let t ← compileV2Table parseType t
    let ts ← compileV2Metadata ts
    pure (t :: ts)

/-- `compileMetadata`, for the protocol version, the tables, columns, functions and aggregates
read. -/
def compileMetadata (protoVersion : Int) (tables : List TableMetadata) (columns : List ColumnMetadata)
    (functions : List FunctionMetadata) (aggregates : List AggregateMetadata) :
    Outcome String KeyspaceMetadata := do
  let tables := tables.map fun t => { t with columns := ∅ }
  let tableIndex : GoMap (List UInt8) Nat :=
    tables.zipIdx.foldl (fun m ti => m.insert ti.1.name ti.2) ∅
  let functionsMap : GoMap (List UInt8) FunctionMetadata :=
    functions.foldl (fun m f => m.insert f.name f) ∅
  let aggregates ← linkAggregates functionsMap aggregates
  let tables ← addColumns parseType getCassandraType tableIndex tables columns
  -- `protoVersion1`
  let tables ← if protoVersion = 1 then compileV1Metadata parseType tables
    else compileV2Metadata parseType tables
  pure { tables := tables.foldl (fun m t => m.insert t.name t) ∅, functions := functionsMap,
         aggregates := aggregates.foldl (fun m a => m.insert a.name a) ∅ }

/-! ### Well-formed tables -/

/-- Every position of `cols` holds a column, of kind `kind` with its position as its component
index. -/
def componentsOk (kind : ColumnKind) (cols : List (Option ColumnMetadata)) : Bool :=
  cols.zipIdx.all fun ck =>
    match ck.1 with
    | some c => c.kind == kind && c.componentIndex == ck.2
    | none => false

/-- A table whose partition key and clustering columns have no nil entry, entry `k` being of
the right kind with component index `k`. -/
def TableMetadata.WellFormed (t : TableMetadata) : Prop :=
  componentsOk .partitionKey t.partitionKey = true ∧ componentsOk .clusteringKey t.clusteringColumns = true

end Compile

/-! ### Schema rows `compileMetadata` does not survive

An aggregate `ks.mysum` declared without `FINALFUNC` (its row's `final_func` is null, read as
the empty name) over the state function `ks.plus`; and a Cassandra 3.x table `ks.t` with
`PRIMARY KEY ((a, b))` while a schema change is in flight, so that only `b`'s column row (kind
`partition_key`, position 1) is visible. -/

/-- The function `ks.plus`. -/
def plusFunction : FunctionMetadata := ⟨strBytes "ks", strBytes "plus"⟩

/-- The aggregate `ks.mysum`, with no final function. -/
def sumAggregate : AggregateMetadata :=
  { keyspace := strBytes "ks", name := strBytes "mysum", finalFunc := ⟨[], []⟩, stateFunc := ⟨[], []⟩,
    finalFuncName := [], stateFuncName := strBytes "plus" }

/-- The table `ks.t` as `system_schema.tables` gives it: no key validator. -/
def partialTable : TableMetadata :=
  { keyspace := strBytes "ks", name := strBytes "t", keyValidator := [], comparator := [],
    defaultValidator := [], keyAliases := [], columnAliases := [], valueAlias := [], partitionKey := [],
    clusteringColumns := [], columns := ∅, orderedColumns := [] }

/-- The row of `ks.t`'s column `b`: the second component of the partition key. -/
def secondKeyColumn : ColumnMetadata :=
  { keyspace := strBytes "ks", table := strBytes "t", name := strBytes "b", componentIndex := 1,
    kind := .partitionKey, validator := strBytes "int", type := none, clusteringOrder := strBytes "none",
    order := .asc }

theorem compileMetadata_fails_schema :
    (∀ parseType getCassandraType,
      compileMetadata parseType getCassandraType 4 [] [] [plusFunction] [sumAggregate] =
        .crash .nilDereference) ∧
    (∀ parseType getCassandraType,
      (fun ks => (ks.tables.lookup (strBytes "t")).map fun t =>
          (t.partitionKey.map Option.isSome, componentsOk .partitionKey t.partitionKey)) <$>
        compileMetadata parseType getCassandraType 4 [partialTable] [secondKeyColumn] [] [] =
        .ok (some ([false, true], false))) := by
  constructor
  · intro parseType getCassandraType
    rfl
  · intro parseType getCassandraType
    rfl

end Gocql
