import Gocql.Marshal.Integers

/-!
# Marshal — type descriptions

`TypeInfo` describes the CQL type of a column or of a bound value: a native type, a
collection with its key and element types, a tuple with its element types, or a user-defined
type with its named fields.  The frame parser builds it from the wire (`readTypeInfo`), and the
collection, tuple and UDT codecs recurse along it.

Go strings are their bytes here (`List UInt8`), as the frame reads them off the wire; a
string literal of the source is `strBytes` of it.
-/

namespace Gocql

/-- The bytes of a Go string literal (the literals of the modelled code are ASCII). -/
def strBytes (s : String) : List UInt8 := s.toList.map fun c => UInt8.ofNat c.toNat

/-- `NativeType`: the protocol version, the type code, and the class name of a custom type. -/
structure NativeType where
  proto : UInt8
  typ : CqlType
  custom : List UInt8
  deriving DecidableEq, Repr

/-- `TypeInfo`, with its four implementations: `NativeType`, `CollectionType` (its `Key` is
nil for a list or a set), `TupleTypeInfo` and `UDTTypeInfo` (each `UDTField` a name and a
type). -/
inductive TypeInfo where
  | native (n : NativeType)
  | collection (n : NativeType) (key : Option TypeInfo) (elem : TypeInfo)
  | tuple (n : NativeType) (elems : List TypeInfo)
  | udt (n : NativeType) (keyspace name : List UInt8) (elements : List (List UInt8 × TypeInfo))
  deriving Repr

namespace TypeInfo

/-- `Type()`: the type code of the embedded `NativeType`. -/
def type : TypeInfo → CqlType
  | native n | collection n _ _ | tuple n _ | udt n _ _ _ => n.typ

end TypeInfo

/-- `apacheCassandraTypePrefix`. -/
def apacheCassandraTypePrefix : List UInt8 := strBytes "org.apache.cassandra.db.marshal."

/-- `strings.TrimPrefix`. -/
def trimPrefix (s p : List UInt8) : List UInt8 := if p.isPrefixOf s then s.drop p.length else s

/-- The cases of the switch in `getApacheCassandraType`. -/
def apacheCassandraTypes : List (List UInt8 × CqlType) :=
  [(strBytes "AsciiType", .ascii), (strBytes "LongType", .bigInt), (strBytes "BytesType", .blob),
   (strBytes "BooleanType", .boolean), (strBytes "CounterColumnType", .counter),
   (strBytes "DecimalType", .decimal), (strBytes "DoubleType", .double),
   (strBytes "FloatType", .float), (strBytes "Int32Type", .int),
   (strBytes "ShortType", .smallInt), (strBytes "ByteType", .tinyInt),
   (strBytes "TimeType", .time), (strBytes "DateType", .timestamp),
   (strBytes "TimestampType", .timestamp), (strBytes "UUIDType", .uuid),
   (strBytes "LexicalUUIDType", .uuid), (strBytes "UTF8Type", .varchar),
   (strBytes "IntegerType", .varint), (strBytes "TimeUUIDType", .timeUUID),
   (strBytes "InetAddressType", .inet), (strBytes "MapType", .map),
   (strBytes "ListType", .list), (strBytes "SetType", .set), (strBytes "TupleType", .tuple),
   (strBytes "DurationType", .duration)]

/-- `getApacheCassandraType`: the type a Cassandra marshal class names, or `TypeCustom`. -/
def getApacheCassandraType (className : List UInt8) : CqlType :=
  ((apacheCassandraTypes.lookup (trimPrefix className apacheCassandraTypePrefix)).getD .custom)

end Gocql
