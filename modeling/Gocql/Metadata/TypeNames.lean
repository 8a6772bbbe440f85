import Gocql.Metadata.TypeParser
import Gocql.Support.GoStrings

/-!
# Metadata — types from CQL type names

The second way `metadata.go` reads a column's type (`getTypeInfo`): a marshal class is first
rewritten into a CQL type name by `apacheToCassandraType` (`helpers.go`), which drops the
package prefix, turns the parentheses into angle brackets and then replaces, by plain substring
replacement over the whole string, each class name by the name of its type; the name is then
read by `getCassandraType`, which recurses through `frozen<`, `set<`, `list<`, `map<` and
`tuple<`, splitting the parameters at the commas outside angle brackets
(`splitCompositeTypes`).

`getCassandraType` recurses on strictly shorter names, under a fuel of one more than the
length of the name.

* `getTypeInfo_disagrees_parseType`: the replacement of `UUIDType` also rewrites the
  `UUIDType` inside `TimeUUIDType`, so `MapType(UUIDType,TimeUUIDType)` reads as a map from
  uuid to the custom type `Timeuuid`, where `parseType` reads a map from uuid to timeuuid.
-/

namespace Gocql

open Go.Strings

/-! ### The names of types -/

/-- The cases of the switch in `Type.String`. -/
def typeNames : List (CqlType × List UInt8) :=
  [(.custom, strBytes "custom"), (.ascii, strBytes "ascii"), (.bigInt, strBytes "bigint"),
   (.blob, strBytes "blob"), (.boolean, strBytes "boolean"), (.counter, strBytes "counter"),
   (.decimal, strBytes "decimal"), (.double, strBytes "double"), (.float, strBytes "float"),
   (.int, strBytes "int"), (.text, strBytes "text"), (.timestamp, strBytes "timestamp"),
   (.uuid, strBytes "uuid"), (.varchar, strBytes "varchar"), (.timeUUID, strBytes "timeuuid"),
   (.inet, strBytes "inet"), (.date, strBytes "date"), (.duration, strBytes "duration"),
   (.time, strBytes "time"), (.smallInt, strBytes "smallint"), (.tinyInt, strBytes "tinyint"),
   (.list, strBytes "list"), (.map, strBytes "map"), (.set, strBytes "set"),
   (.varint, strBytes "varint"), (.tuple, strBytes "tuple")]

/-- `Type.String()`: the name of a type, `unknown_type_%d` for a code without one. -/
def CqlType.string (t : CqlType) : List UInt8 :=
  (typeNames.lookup t).getD (strBytes "unknown_type_" ++ strBytes (toString t.code))

/-- The cases of the switch in `getCassandraBaseType`. -/
def cassandraBaseTypes : List (List UInt8 × CqlType) :=
  [(strBytes "ascii", .ascii), (strBytes "bigint", .bigInt), (strBytes "blob", .blob),
   (strBytes "boolean", .boolean), (strBytes "counter", .counter), (strBytes "date", .date),
   (strBytes "decimal", .decimal), (strBytes "double", .double),
   (strBytes "duration", .duration), (strBytes "float", .float), (strBytes "int", .int),
   (strBytes "smallint", .smallInt), (strBytes "tinyint", .tinyInt), (strBytes "time", .time),
   (strBytes "timestamp", .timestamp), (strBytes "uuid", .uuid),
   (strBytes "varchar", .varchar), (strBytes "text", .text), (strBytes "varint", .varint),
   (strBytes "timeuuid", .timeUUID), (strBytes "inet", .inet), (strBytes "MapType", .map),
   (strBytes "ListType", .list), (strBytes "SetType", .set), (strBytes "TupleType", .tuple)]

/-- `getCassandraBaseType`: the type a CQL base type name names, or `TypeCustom`. -/
def getCassandraBaseType (name : List UInt8) : CqlType :=
  (cassandraBaseTypes.lookup name).getD .custom

/-! ### `splitCompositeTypes` -/

/-- The loop state of `splitCompositeTypes`: the parts so far, the depth in angle brackets and
the segment being read. -/
structure SplitState where
  parts : List (List UInt8)
  lessCount : Int
  segment : List UInt8

/-- One rune of the loop: a comma outside angle brackets ends the segment. -/
def splitStep (st : SplitState) (c : UInt8) : SplitState :=
  if c = TypeParser.charByte ',' ∧ st.lessCount = 0 then
    { st with
      parts := if st.segment ≠ [] then st.parts ++ [trimSpace st.segment] else st.parts
      segment := [] }
  else
    { st with
      segment := st.segment ++ [c]
      lessCount :=
        if c = TypeParser.charByte '<' then st.lessCount + 1
        else if c = TypeParser.charByte '>' then st.lessCount - 1
        else st.lessCount }

def splitCompositeTypes (name : List UInt8) : List (List UInt8) :=
  if !contains name (strBytes "<") then split name (strBytes ", ")
  else
    let st := name.foldl splitStep ⟨[], 0, []⟩
    if st.segment ≠ [] then st.parts ++ [trimSpace st.segment] else st.parts

/-! ### `getCassandraType` and `apacheToCassandraType` -/

/-- `getCassandraType`, with a fuel above the length of the name. -/
def getCassandraTypeFuel : Nat → List UInt8 → TypeInfo
  | 0, _ => .native ⟨0, .custom, []⟩
  | fuel + 1, name =>
    if (strBytes "frozen<").isPrefixOf name then
      getCassandraTypeFuel fuel (trimPrefix name.dropLast (strBytes "frozen<"))
    else if (strBytes "set<").isPrefixOf name then
      .collection ⟨0, .set, []⟩ none (getCassandraTypeFuel fuel (trimPrefix name.dropLast (strBytes "set<")))
    else if (strBytes "list<").isPrefixOf name then
      .collection ⟨0, .list, []⟩ none (getCassandraTypeFuel fuel (trimPrefix name.dropLast (strBytes "list<")))
    else if (strBytes "map<").isPrefixOf name then
      match splitCompositeTypes (trimPrefix name.dropLast (strBytes "map<")) with
      | [k, e] => .collection ⟨0, .map, []⟩ (some (getCassandraTypeFuel fuel k)) (getCassandraTypeFuel fuel e)
      -- "Error parsing map type, it has %d subelements, expecting 2"
      | _ => .native ⟨0, .custom, []⟩
    else if (strBytes "tuple<").isPrefixOf name then
      .tuple ⟨0, .tuple, []⟩
        ((splitCompositeTypes (trimPrefix name.dropLast (strBytes "tuple<"))).map (getCassandraTypeFuel fuel))
    else
      .native ⟨0, getCassandraBaseType name, []⟩

/-- `getCassandraType(name)`. -/
def getCassandraType (name : List UInt8) : TypeInfo := getCassandraTypeFuel (name.length + 1) name

/-- `apacheToCassandraType`: the class names replaced by the names of their types. -/
def apacheToCassandraType (t : List UInt8) : List UInt8 :=
  let t := replaceAll t apacheCassandraTypePrefix []
  let t := replaceAll t (strBytes "(") (strBytes "<")
  let t := replaceAll t (strBytes ")") (strBytes ">")
  let types := fieldsFunc t fun r =>
    r == TypeParser.charByte '<' || r == TypeParser.charByte '>' || r == TypeParser.charByte ','
  let t := types.foldl (fun t typ => replaceAll t typ (getApacheCassandraType typ).string) t
  -- This is done so it exactly matches what Cassandra returns
  replaceAll t (strBytes ",") (strBytes ", ")

/-- `getTypeInfo(t)`. -/
def getTypeInfo (t : List UInt8) : TypeInfo :=
  getCassandraType (if apacheCassandraTypePrefix.isPrefixOf t then apacheToCassandraType t else t)

/-! ### The two readings of a marshal class -/

/-- A type expression over the marshal classes: a simple class, or `ListType`, `SetType` or
`MapType` of expressions. -/
inductive MarshalExpr where
  | simple (name : List UInt8)
  | list (elem : MarshalExpr)
  | set (elem : MarshalExpr)
  | map (key elem : MarshalExpr)

/-- The expression written with fully qualified class names and `,` separators. -/
def MarshalExpr.render : MarshalExpr → List UInt8
  | simple name => apacheCassandraTypePrefix ++ name
  | list e => TypeParser.LIST_TYPE ++ strBytes "(" ++ e.render ++ strBytes ")"
  | set e => TypeParser.SET_TYPE ++ strBytes "(" ++ e.render ++ strBytes ")"
  | map k e => TypeParser.MAP_TYPE ++ strBytes "(" ++ k.render ++ strBytes "," ++ e.render ++ strBytes ")"

/-- **`getTypeInfo` and `parseType` disagree** on `MapType(UUIDType,TimeUUIDType)`: the
replacement of `UUIDType` by `uuid` turns `TimeUUIDType` into `Timeuuid`, which no base type
names. -/
theorem getTypeInfo_disagrees_parseType :
    getTypeInfo (MarshalExpr.map (.simple (strBytes "UUIDType")) (.simple (strBytes "TimeUUIDType"))).render =
      .collection ⟨0, .map, []⟩ (some (.native ⟨0, .uuid, []⟩)) (.native ⟨0, .custom, []⟩) ∧
    parseType (MarshalExpr.map (.simple (strBytes "UUIDType")) (.simple (strBytes "TimeUUIDType"))).render =
      .ok ⟨false, [.collection ⟨0, .map, []⟩ (some (.native ⟨0, .uuid, []⟩)) (.native ⟨0, .timeUUID, []⟩)],
        [false], []⟩ := by
  constructor <;> decide +kernel

end Gocql
