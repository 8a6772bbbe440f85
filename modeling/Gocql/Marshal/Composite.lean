import Gocql.Marshal.Integers
import Gocql.Marshal.TypeInfo
import Gocql.Support.Reflect
import Gocql.Support.Panic
import Gocql.Frame.Header

/-!
# Marshal — lists, sets, maps, tuples and user-defined types

`Marshal` and `Unmarshal` switch on the CQL type: a native type goes to its own codec, and the
composite ones walk the Go value with `reflect`, calling `Marshal` and `Unmarshal` again for
each element.  The wire formats differ: a collection has a `[collection size]` count and
lengths (two unsigned bytes up to protocol 2, four signed bytes after, `-1` for a null element
from protocol 3 on), a tuple and a UDT a `[bytes]` per element (four signed bytes, `-1` for
null).

The native codecs are a parameter here (`LeafCodec`): the composite codecs call them and do not
look inside.

* `readCollectionSize`, `writeCollectionSize`, `Marshal.readBytes`, `appendInt`, `appendBytes`: the
  length prefixes.
* `unmarshalList`, `unmarshalMap` and their loops; `unmarshal`, with the tuple and UDT loops in
  the same recursion over the `TypeInfo`.
* `marshalList`, `marshalMap`; `marshal`, with the tuple and UDT loops.
-/

namespace Gocql

open Go

/-! ### What the composite codecs call -/

/-- The codecs of the native types, as the composite codecs call them: `κ` are the Go types
they store into, `ν` their values, `εm` and `εu` their errors. -/
structure LeafCodec (κ ν εm εu : Type) where
  /-- `marshalVarchar`, `marshalInt`, …, chosen by the type code -/
  marshal : NativeType → ν → Except εm GoBytes
  /-- `unmarshalVarchar`, `unmarshalInt`, …, through a pointer to a `κ` -/
  unmarshal : NativeType → GoBytes → κ → Except εu ν
  /-- `goType` of a native type code; none where it has none -/
  goType : CqlType → Option κ
  /-- the zero value of a leaf type -/
  zero : κ → ν
  /-- Go's `string`, and a string value: the keys of a `map[string]interface{}` -/
  string : κ
  ofString : List UInt8 → ν

/-- The panics the composite codecs can raise.  Nothing recovers them. -/
inductive CodecPanic where
  /-- an index or a slice bound out of range -/
  | runtime (e : RuntimeError)
  /-- `reflect.MakeSlice: negative len` -/
  | makeSliceNegativeLen
  /-- `reflect.Set: value of type … is not assignable to type …` -/
  | notAssignable
  /-- a method called on a nil `TypeInfo`: the key type of a map that has none -/
  | nilTypeInfo
  /-- a failed type assertion `info.(TupleTypeInfo)` or `info.(UDTTypeInfo)` -/
  | typeAssertion
  /-- `protocol version not set` -/
  | protocolVersionNotSet
  deriving DecidableEq, Repr

/-- The errors of `Unmarshal` on a composite type, each a message of the source, and the
panics, which leave it the same way. -/
inductive UnmarshalFailure (ε : Type) where
  /-- an error of a native codec -/
  | leaf (e : ε)
  /-- `unmarshal: can not unmarshal none collection type into list` (or `into map`) -/
  | nonCollection
  /-- `can not unmarshal %s into %T` -/
  | cannotUnmarshal
  /-- `can not unmarshal into non-pointer %T` -/
  | nonPointer
  /-- `unmarshal list: can not store nil in array value` -/
  | listNilArray
  /-- `unmarshal list: unexpected eof` -/
  | listEOF
  /-- `unmarshal list: array with wrong size` -/
  | listArraySize
  /-- `negative map size %d` -/
  | negativeMapSize (n : Int)
  /-- `unmarshal map: unexpected eof` -/
  | mapEOF
  /-- `can not unmarshal tuple into struct %v, not enough fields have %d need %d` -/
  | tupleStructFields (fields need : Nat)
  /-- `can not unmarshal tuple into array of length %d need %d elements` -/
  | tupleArrayLength (size need : Nat)
  /-- `cannot create Go type for unknown CQL type %s` -/
  | unknownGoType
  /-- `can not unmarshal %s: %v`, the error of `goType` -/
  | udtGoType
  /-- `can not unmarshal %s: field [%d]%s: unexpected eof` -/
  | udtEOF (id : Nat) (name : List UInt8)
  /-- `ErrorUDTUnavailable` -/
  | udtUnavailable
  | panic (p : CodecPanic)
  deriving DecidableEq, Repr

/-- The errors of `Marshal` on a composite type, and its panics. -/
inductive MarshalFailure (ε : Type) where
  | leaf (e : ε)
  /-- `marshal: can not marshal non collection type into list` (or `none collection … map`) -/
  | nonCollection
  /-- `can not marshal %T into %s` -/
  | cannotMarshal
  /-- `marshal: collection too large` -/
  | collectionTooLarge
  /-- `Invalid request: UnsetValue is unsupported for tuples` -/
  | tupleUnset
  /-- `cannont marshal tuple: wrong number of elements` -/
  | tupleWrongCount
  /-- `can not marshal tuple into struct %v, not enough fields have %d need %d` -/
  | tupleStructFields (fields need : Nat)
  /-- `can not marshal tuple into %v of length %d need %d elements` -/
  | tupleLength (size need : Nat)
  /-- `invalid request: UnsetValue is unsupported for user defined types` -/
  | udtUnset
  /-- `ErrorUDTUnavailable` -/
  | udtUnavailable
  | panic (p : CodecPanic)
  deriving DecidableEq, Repr

/-- The type codes `Marshal` and `Unmarshal` hand to a native codec. -/
def leafTypes : List CqlType :=
  [.varchar, .ascii, .blob, .text, .boolean, .int, .bigInt, .counter, .varint, .smallInt,
    .tinyInt, .float, .double, .decimal, .time, .timestamp, .timeUUID, .uuid, .inet, .date,
    .duration]

/-- The check before the final error of `Marshal` and `Unmarshal`: a protocol 2 UDT. -/
def isProto2UDT (n : NativeType) : Bool :=
  (strBytes "org.apache.cassandra.db.marshal.UserType").isPrefixOf n.custom &&
    decide (n.proto < protoVersion3)

/-- `math.MaxInt32` and `math.MaxUint16`. -/
def maxInt32 : Int := 2 ^ 31 - 1
def maxUint16 : Int := 2 ^ 16 - 1

/-! ### Length prefixes -/

/-- `appendInt(p, int32(n))`: four big-endian bytes. -/
def appendInt (p : List UInt8) (n : Int) : List UInt8 :=
  p ++ [goByte (n / 2 ^ 24), goByte (n / 2 ^ 16), goByte (n / 2 ^ 8), goByte n]

/-- `appendBytes`: a `[bytes]`, `-1` for nil. -/
def appendBytes (p : List UInt8) : GoBytes → List UInt8
  | none => appendInt p (-1)
  | some d => appendInt p d.length ++ d

/-- The buffer a loop of `append`s on a nil slice returns: nil when nothing was appended. -/
def appendedBuf (b : List UInt8) : GoBytes := if b.isEmpty then none else some b

section Sizes

variable {ε : Type}

/-- `writeCollectionSize`: four bytes from protocol 3 on, two before. -/
def writeCollectionSize (proto : UInt8) (n : Int) : Except (MarshalFailure ε) (List UInt8) :=
  if protoVersion2 < proto then
    if maxInt32 < n then .error .collectionTooLarge
    else .ok (appendInt [] n)
  else if maxUint16 < n then .error .collectionTooLarge
  else .ok [goByte (n / 2 ^ 8), goByte n]

/-- `readCollectionSize`: the size and how many bytes it took. -/
def readCollectionSize (proto : UInt8) (data : List UInt8) :
    Except (UnmarshalFailure ε) (Int × Nat) :=
  if protoVersion2 < proto then
    if data.length < 4 then .error .listEOF
    else .ok (BigEndian.sval (data.take 4), 4)
  else if data.length < 2 then .error .listEOF
  else .ok (BigEndian.val (data.take 2), 2)

/-- One element of a list or map: its `[collection size]`, then that many bytes, or null for a
negative size.  `eof` is the error for a short element, the list's or the map's. -/
def readCollectionElem (proto : UInt8) (eof : UnmarshalFailure ε) (data : List UInt8) :
    Except (UnmarshalFailure ε) (GoBytes × List UInt8) := do
  let (m, p) ← readCollectionSize proto data
  let data := data.drop p
  -- in case m < 0, the value is null
  if 0 ≤ m then
    if (data.length : Int) < m then throw eof
    else pure (some (data.take m.toNat), data.drop m.toNat)
  else pure (none, data)

/-- `readBytes` of `marshal.go` (not the framer's): a `[bytes]` and the rest, null for a
negative size.  `readInt` indexes four bytes, and a size past the end slices out of range. -/
def Marshal.readBytes (p : List UInt8) : Except (UnmarshalFailure ε) (GoBytes × List UInt8) :=
  if p.length < 4 then .error (.panic (.runtime (.indexOutOfRange p.length p.length)))
  else
    let size := BigEndian.sval (p.take 4)
    let p := p.drop 4
    if size < 0 then .ok (none, p)
    else if (p.length : Int) < size then
      .error (.panic (.runtime (.sliceBoundsOutOfRange 0 size p.length)))
    else .ok (some (p.take size.toNat), p.drop size.toNat)

/-- The element of a tuple: `if len(data) >= 4 { p, data = readBytes(data) }`, so the elements
past the end of the data are null. -/
def readTupleElem : GoBytes → Except (UnmarshalFailure ε) (GoBytes × GoBytes)
  | some d =>
      if 4 ≤ d.length then do
        let (p, rest) ← Marshal.readBytes d
        pure (p, some rest)
      else .ok (none, some d)
  | none => .ok (none, none)

end Sizes

section Codecs

variable {κ ν εm εu : Type} [DecidableEq κ] [DecidableEq ν] (L : LeafCodec κ ν εm εu)

/-! ### Building and storing values -/

/-- `SetMapIndex`: the value of an equal key is replaced, or the entry added. -/
def setMapIndex (m : List (GoVal κ ν × GoVal κ ν)) (k v : GoVal κ ν) :
    List (GoVal κ ν × GoVal κ ν) :=
  if m.any (fun e => GoVal.beq e.1 k) then
    m.map (fun e => if GoVal.beq e.1 k then (e.1, v) else e)
  else m ++ [(k, v)]

/-- The field a UDT element named `name` goes to: the last field with that `cql` tag, or else
the field of that name (`FieldByName`). -/
def udtFieldIndex (fs : List (List UInt8 × List UInt8 × GoType κ)) (name : List UInt8) :
    Option Nat :=
  match (fs.zipIdx.filter (fun f => !f.1.2.1.isEmpty && decide (f.1.2.1 = name))).getLast? with
  | some (_, i) => some i
  | none => fs.findIdx? (fun f => decide (f.1 = name))

/-- `goType` on a type code without element types. -/
def goTypeNative (n : NativeType) : Except (UnmarshalFailure εu) (GoType κ) :=
  match L.goType n.typ with
  | some k => .ok (.leaf k)
  | none => .error .unknownGoType

mutual
/-- `goType`: the Go type `reflect.New` makes for a value of a CQL type. -/
def goType : TypeInfo → Except (UnmarshalFailure εu) (GoType κ)
  | .native n => goTypeNative L n
  | .collection n key elem =>
      if n.typ = .list ∨ n.typ = .set then do
        let e ← goType elem
        pure (.slice e)
      else if n.typ = .map then do
        let k ← goTypeKey key
        let e ← goType elem
        pure (.map k e)
      else goTypeNative L n
  | .tuple n _ => if n.typ = .tuple then .ok (.slice .iface) else goTypeNative L n
  | .udt n _ _ _ => if n.typ = .udt then .ok (.map (.leaf L.string) .iface) else goTypeNative L n

/-- `goType` of the key type of a map, which a nil key type panics on. -/
def goTypeKey : Option TypeInfo → Except (UnmarshalFailure εu) (GoType κ)
  | none => .error (.panic .nilTypeInfo)
  | some k => goType k
end

/-- The `switch rv.Field(i).Kind()` of `unmarshalTuple`: a pointer slot gets the new `*g`, nil
for a null element; any other slot gets the `g` itself.  `Set` panics unless it is
assignable. -/
def storeTupleElem (slot g : GoType κ) (p : GoBytes) (v : GoVal κ ν) :
    Except (UnmarshalFailure εu) (GoVal κ ν) :=
  match slot with
  | .ptr _ =>
      if GoType.assignable (.ptr g) slot then
        .ok (if p.isSome then .ptr g (some v) else .ptr g none)
      else .error (.panic .notAssignable)
  | _ => if GoType.assignable g slot then .ok v else .error (.panic .notAssignable)

/-! ### Unmarshalling -/

/-- `Unmarshal` through `unmarshalNullable`: into a `*T` with `T` a pointer, null data stores
nil, and other data a new `T` unmarshalled into. -/
def unmarshalPtr (data : GoBytes) (core : GoType κ → Except (UnmarshalFailure εu) (GoVal κ ν)) :
    GoType κ → Except (UnmarshalFailure εu) (GoVal κ ν)
  | .ptr t =>
      match data with
      | none => .ok (.ptr t none)
      | some _ => do
        let v ← unmarshalPtr data core t
        pure (.ptr t (some v))
  | t => core t

/-- A native codec's `Unmarshal`: only into a leaf. -/
def unmarshalLeaf (n : NativeType) (data : GoBytes) :
    GoType κ → Except (UnmarshalFailure εu) (GoVal κ ν)
  | .leaf k =>
      match L.unmarshal n data k with
      | .ok v => .ok (.leaf v)
      | .error e => .error (.leaf e)
  | _ => .error .cannotUnmarshal

/-- The `switch info.Type()` of `Unmarshal`, given what `info` does as a list, a map, a tuple
and a UDT. -/
def unmarshalSwitch (n : NativeType) (data : GoBytes)
    (list map tuple udt : GoType κ → Except (UnmarshalFailure εu) (GoVal κ ν)) (t : GoType κ) :
    Except (UnmarshalFailure εu) (GoVal κ ν) :=
  if n.typ ∈ leafTypes then unmarshalLeaf L n data t
  else if n.typ = .list ∨ n.typ = .set then list t
  else if n.typ = .map then map t
  else if n.typ = .tuple then tuple t
  else if n.typ = .udt then udt t
  else if isProto2UDT n then .error .udtUnavailable
  else .error .cannotUnmarshal

/-- The loop of `unmarshalList`: `n` elements, each unmarshalled by `dec` into a fresh `e`. -/
def unmarshalListElems (dec : GoBytes → GoType κ → Except (UnmarshalFailure εu) (GoVal κ ν))
    (proto : UInt8) (e : GoType κ) :
    Nat → List UInt8 → Except (UnmarshalFailure εu) (List (GoVal κ ν))
  | 0, _ => .ok []
  | n + 1, data => do
    let (d, data) ← readCollectionElem proto .listEOF data
    let v ← dec d e
    let vs ← unmarshalListElems dec proto e n data
    pure (v :: vs)

/-- `unmarshalList`, into a slice or an array. -/
def unmarshalList (dec : GoBytes → GoType κ → Except (UnmarshalFailure εu) (GoVal κ ν))
    (proto : UInt8) (data : GoBytes) : GoType κ → Except (UnmarshalFailure εu) (GoVal κ ν)
  | .slice e =>
      match data with
      | none => .ok (.slice e none)
      | some data => do
        let (n, p) ← readCollectionSize proto data
        -- `reflect.MakeSlice(t, n, n)`: nothing checks that the count is not negative
        if n < 0 then throw (.panic .makeSliceNegativeLen)
        let vs ← unmarshalListElems dec proto e n.toNat (data.drop p)
        pure (.slice e (some vs))
  | .array len e =>
      match data with
      | none => .error .listNilArray
      | some data => do
        let (n, p) ← readCollectionSize proto data
        if (len : Int) ≠ n then throw .listArraySize
        let vs ← unmarshalListElems dec proto e len (data.drop p)
        pure (.array e vs)
  | _ => .error .cannotUnmarshal

/-- The loop of `unmarshalMap`: `n` keys and values, each stored with `SetMapIndex`. -/
def unmarshalMapEntries
    (decKey decElem : GoBytes → GoType κ → Except (UnmarshalFailure εu) (GoVal κ ν))
    (proto : UInt8) (kt vt : GoType κ) :
    Nat → List UInt8 → List (GoVal κ ν × GoVal κ ν) →
      Except (UnmarshalFailure εu) (List (GoVal κ ν × GoVal κ ν))
  | 0, _, m => .ok m
  | n + 1, data, m => do
    let (kd, data) ← readCollectionElem proto .mapEOF data
    let k ← decKey kd kt
    let (vd, data) ← readCollectionElem proto .mapEOF data
    let v ← decElem vd vt
    unmarshalMapEntries decKey decElem proto kt vt n data (setMapIndex m k v)

/-- `unmarshalMap`, into a map. -/
def unmarshalMap (decKey decElem : GoBytes → GoType κ → Except (UnmarshalFailure εu) (GoVal κ ν))
    (proto : UInt8) (data : GoBytes) : GoType κ → Except (UnmarshalFailure εu) (GoVal κ ν)
  | .map kt vt =>
      match data with
      | none => .ok (.map kt vt none)
      | some data => do
        let (n, p) ← readCollectionSize proto data
        if n < 0 then throw (.negativeMapSize n)
        let m ← unmarshalMapEntries decKey decElem proto kt vt n.toNat (data.drop p) []
        pure (.map kt vt (some m))
  | _ => .error .cannotUnmarshal

/-- `unmarshalTuple` through a pointer, for a tuple of `count` elements: into a struct with a
field per element, or a slice or an array of them.  `elems slots` runs the loop over the
elements with the slots they are stored in. -/
def unmarshalTuple (count : Nat)
    (elems : List (GoType κ) → Except (UnmarshalFailure εu) (List (GoVal κ ν))) :
    GoType κ → Except (UnmarshalFailure εu) (GoVal κ ν)
  | .struct fs =>
      if fs.length ≠ count then .error (.tupleStructFields fs.length count)
      else do
        let vs ← elems (fs.map fun f => f.2.2)
        pure (.struct fs vs)
  | .slice e => do
      let vs ← elems (List.replicate count e)
      pure (.slice e (some vs))
  | .array len e =>
      if len ≠ count then .error (.tupleArrayLength len count)
      else do
        let vs ← elems (List.replicate len e)
        pure (.array e vs)
  | _ => .error .cannotUnmarshal

/-- `unmarshalUDT` through a pointer: into a `map[string]interface{}`, whose loop is `toMap`, or
into a struct, whose loop `toFields` fills the fields' zero values. -/
def unmarshalUDT (data : GoBytes)
    (toMap : Except (UnmarshalFailure εu) (List (GoVal κ ν × GoVal κ ν)))
    (toFields : List (List UInt8 × List UInt8 × GoType κ) → List (GoVal κ ν) →
      Except (UnmarshalFailure εu) (List (GoVal κ ν)))
    (t : GoType κ) : Except (UnmarshalFailure εu) (GoVal κ ν) :=
  if GoType.beq t (.map (.leaf L.string) .iface) then
    match data with
    | none => .ok (.map (.leaf L.string) .iface none)
    | some _ => do
      let m ← toMap
      pure (.map (.leaf L.string) .iface (some m))
  else
    match t with
    | .struct fs =>
        if (data.getD []).isEmpty then .ok (GoType.zero L.zero (.struct fs))
        else do
          let vs ← toFields fs (GoType.zeroFields L.zero fs)
          pure (.struct fs vs)
    | _ => .error .cannotUnmarshal

mutual
/-- `Unmarshal(info, data, p)` for `p` a `*t`: the value stored. -/
def unmarshal : TypeInfo → GoBytes → GoType κ → Except (UnmarshalFailure εu) (GoVal κ ν)
  | .native n, data, t =>
      unmarshalPtr data (unmarshalSwitch L n data (fun _ => .error .nonCollection)
        (fun _ => .error .nonCollection) (fun _ => .error (.panic .typeAssertion))
        (fun _ => .error (.panic .typeAssertion))) t
  | .collection n key elem, data, t =>
      unmarshalPtr data (unmarshalSwitch L n data (unmarshalList (unmarshal elem) n.proto data)
        (unmarshalMap (unmarshalKey key) (unmarshal elem) n.proto data)
        (fun _ => .error (.panic .typeAssertion)) (fun _ => .error (.panic .typeAssertion))) t
  | .tuple n elems, data, t =>
      unmarshalPtr data (unmarshalSwitch L n data (fun _ => .error .nonCollection)
        (fun _ => .error .nonCollection)
        (unmarshalTuple elems.length (fun slots => unmarshalTupleElems elems slots data))
        (fun _ => .error (.panic .typeAssertion))) t
  | .udt n _ _ elements, data, t =>
      unmarshalPtr data (unmarshalSwitch L n data (fun _ => .error .nonCollection)
        (fun _ => .error .nonCollection) (fun _ => .error (.panic .typeAssertion))
        (unmarshalUDT L data (unmarshalUDTMap elements 0 data [])
          (fun fs vals => unmarshalUDTFields elements 0 data fs vals))) t

/-- `Unmarshal` with the key type of a map, nil for a list's. -/
def unmarshalKey : Option TypeInfo → GoBytes → GoType κ → Except (UnmarshalFailure εu) (GoVal κ ν)
  | none, data, t => unmarshalPtr data (fun _ => .error (.panic .nilTypeInfo)) t
  | some k, data, t => unmarshal k data t

/-- The loop of `unmarshalTuple`: each element into a new value of its `goType`, then stored
in its slot. -/
def unmarshalTupleElems : List TypeInfo → List (GoType κ) → GoBytes →
    Except (UnmarshalFailure εu) (List (GoVal κ ν))
  | [], _, _ => .ok []
  | _ :: _, [], _ => .ok []
  | e :: es, slot :: slots, data => do
    let (p, data) ← readTupleElem data
    let g ← goType L e
    let v ← unmarshal e p g
    let stored ← storeTupleElem slot g p v
    let rest ← unmarshalTupleElems es slots data
    pure (stored :: rest)

/-- The loop of `unmarshalUDT` into a map: each field under its name, until the data ends. -/
def unmarshalUDTMap : List (List UInt8 × TypeInfo) → Nat → GoBytes →
    List (GoVal κ ν × GoVal κ ν) → Except (UnmarshalFailure εu) (List (GoVal κ ν × GoVal κ ν))
  | [], _, _, m => .ok m
  | (name, e) :: es, id, data, m =>
    if (data.getD []).length = 0 then .ok m
    else if (data.getD []).length < 4 then .error (.udtEOF id name)
    else
      match goType L e with
      | .error _ => .error .udtGoType
      | .ok g => do
        let (p, rest) ← Marshal.readBytes (data.getD [])
        let v ← unmarshal e p g
        unmarshalUDTMap es (id + 1) (some rest) (setMapIndex m (.leaf (L.ofString name)) v)

/-- The loop of `unmarshalUDT` into a struct: each field into the struct field of its tag or
name, skipped when there is none, until the data ends. -/
def unmarshalUDTFields : List (List UInt8 × TypeInfo) → Nat → GoBytes →
    List (List UInt8 × List UInt8 × GoType κ) → List (GoVal κ ν) →
    Except (UnmarshalFailure εu) (List (GoVal κ ν))
  | [], _, _, _, vals => .ok vals
  | (name, e) :: es, id, data, fs, vals =>
    if (data.getD []).length = 0 then .ok vals
    else if (data.getD []).length < 4 then .error (.udtEOF id name)
    else do
      let (p, rest) ← Marshal.readBytes (data.getD [])
      match udtFieldIndex fs name with
      | none => unmarshalUDTFields es (id + 1) (some rest) fs vals
      | some j =>
        let v ← unmarshal e p ((fs.getD j ([], [], .iface)).2.2)
        unmarshalUDTFields es (id + 1) (some rest) fs (vals.set j v)
end

/-- `unmarshalTuple` into a `[]interface{}` `v`, as rows are scanned: element `i` into `v[i]`,
a pointer to a value of a `GoType`, or nil, which `Unmarshal` refuses as a non-pointer.  The
values stored, each with its index in `v`, and the error that ended the loop: the elements
unmarshalled before it stay stored. -/
def unmarshalTupleTargets : List TypeInfo → List (Option (GoType κ)) → GoBytes → Nat → Nat →
    List (Nat × GoVal κ ν) × Option (UnmarshalFailure εu)
  | [], _, _, _, _ => ([], none)
  | e :: es, targets, data, i, len =>
    match readTupleElem data with
    | .error err => ([], some err)
    | .ok (p, data) =>
      match targets with
      | [] => ([], some (.panic (.runtime (.indexOutOfRange i len))))
      | none :: _ => ([], some .nonPointer)
      | some t :: ts =>
        match unmarshal L e p t with
        | .error err => ([], some err)
        | .ok v =>
          let (stored, err) := unmarshalTupleTargets es ts data (i + 1) len
          ((i, v) :: stored, err)

/-- `Unmarshal(info, data, v)` for `v` a `[]interface{}` of `targets`: only a tuple takes it. -/
def unmarshalIfaces (info : TypeInfo) (data : GoBytes) (targets : List (Option (GoType κ))) :
    List (Nat × GoVal κ ν) × Option (UnmarshalFailure εu) :=
  match info with
  | .tuple n elems =>
      if n.typ = .tuple then unmarshalTupleTargets L elems targets data 0 targets.length
      else ([], some .nonPointer)
  | _ => ([], some .nonPointer)

/-! ### Marshalling -/

/-- A native codec's `Marshal`: nil and `UnsetValue` are null. -/
def marshalLeaf (n : NativeType) : GoVal κ ν → Except (MarshalFailure εm) GoBytes
  | .leaf x =>
      match L.marshal n x with
      | .ok d => .ok d
      | .error e => .error (.leaf e)
  | .nil | .unset => .ok none
  | _ => .error .cannotMarshal

/-- The `switch info.Type()` of `Marshal`. -/
def marshalSwitch (n : NativeType) (v : GoVal κ ν)
    (list map tuple udt : Except (MarshalFailure εm) GoBytes) :
    Except (MarshalFailure εm) GoBytes :=
  if n.typ ∈ leafTypes then marshalLeaf L n v
  else if n.typ = .list ∨ n.typ = .set then list
  else if n.typ = .map then map
  else if n.typ = .tuple then tuple
  else if n.typ = .udt then udt
  else if isProto2UDT n then .error .udtUnavailable
  else .error .cannotMarshal

/-- The start of `Marshal`: the version check, and the pointers followed to the value. -/
def marshalPrelude (n : NativeType) (value : GoVal κ ν)
    (k : GoVal κ ν → Except (MarshalFailure εm) GoBytes) : Except (MarshalFailure εm) GoBytes :=
  if n.proto < protoVersion1 then .error (.panic .protocolVersionNotSet)
  else
    match value.deref with
    | none => .ok none
    | some v => k v

/-- One element of a list or a map: its size, `-1` for null from protocol 3 on, then its
bytes. -/
def marshalCollectionItem (proto : UInt8) (item : GoBytes) :
    Except (MarshalFailure εm) (List UInt8) := do
  let itemLen : Int := if item.isNone ∧ protoVersion2 < proto then -1 else (item.getD []).length
  let size ← writeCollectionSize proto itemLen
  pure (size ++ item.getD [])

/-- The loop of `marshalList`. -/
def marshalListItems (mElem : GoVal κ ν → Except (MarshalFailure εm) GoBytes) (proto : UInt8) :
    List (GoVal κ ν) → Except (MarshalFailure εm) (List UInt8)
  | [] => .ok []
  | v :: vs => do
    let item ← mElem v
    let bytes ← marshalCollectionItem proto item
    let rest ← marshalListItems mElem proto vs
    pure (bytes ++ rest)

/-- `marshalList`, from a slice, an array, or the keys of a `map[T]struct{}`. -/
def marshalList (mElem : GoVal κ ν → Except (MarshalFailure εm) GoBytes) (proto : UInt8) :
    GoVal κ ν → Except (MarshalFailure εm) GoBytes
  | .nil | .unset => .ok none
  | .slice _ none => .ok none
  | .slice _ (some vs) | .array _ vs => do
    let size ← writeCollectionSize proto vs.length
    let body ← marshalListItems mElem proto vs
    pure (some (size ++ body))
  | .map _ (.struct []) entries => do
    -- a set as a map to empty structs: its keys, as a list
    let keys := (entries.getD []).map Prod.fst
    let size ← writeCollectionSize proto keys.length
    let body ← marshalListItems mElem proto keys
    pure (some (size ++ body))
  | _ => .error .cannotMarshal

/-- The loop of `marshalMap`. -/
def marshalMapEntries (mKey mElem : GoVal κ ν → Except (MarshalFailure εm) GoBytes)
    (proto : UInt8) : List (GoVal κ ν × GoVal κ ν) → Except (MarshalFailure εm) (List UInt8)
  | [] => .ok []
  | (k, v) :: es => do
    let key ← mKey k
    let keyBytes ← marshalCollectionItem proto key
    let val ← mElem v
    let valBytes ← marshalCollectionItem proto val
    let rest ← marshalMapEntries mKey mElem proto es
    pure (keyBytes ++ valBytes ++ rest)

/-- `marshalMap`, in the order of the entries (`MapKeys` is in no fixed order). -/
def marshalMap (mKey mElem : GoVal κ ν → Except (MarshalFailure εm) GoBytes) (proto : UInt8) :
    GoVal κ ν → Except (MarshalFailure εm) GoBytes
  | .nil | .unset => .ok none
  | .map _ _ none => .ok none
  | .map _ _ (some entries) => do
    let size ← writeCollectionSize proto entries.length
    let body ← marshalMapEntries mKey mElem proto entries
    pure (some (size ++ body))
  | _ => .error .cannotMarshal

/-- `marshalTuple` of a tuple of `count` elements, from a `[]interface{}` (its nil elements
are null), a struct, or a slice or an array (their nil pointers are null); `items isNull vs`
runs the loop over the elements. -/
def marshalTuple (count : Nat)
    (items : (GoVal κ ν → Bool) → List (GoVal κ ν) → Except (MarshalFailure εm) (List UInt8)) :
    GoVal κ ν → Except (MarshalFailure εm) GoBytes
  | .unset => .error .tupleUnset
  | .slice e vs =>
      if GoType.beq e .iface then
        if (vs.getD []).length ≠ count then .error .tupleWrongCount
        else do
          let body ← items (fun v => v matches .nil) (vs.getD [])
          pure (appendedBuf body)
      else if (vs.getD []).length ≠ count then .error (.tupleLength (vs.getD []).length count)
      else do
        let body ← items GoVal.isNilPtr (vs.getD [])
        pure (appendedBuf body)
  | .struct fs vals =>
      if fs.length ≠ count then .error (.tupleStructFields fs.length count)
      else do
        let body ← items GoVal.isNilPtr vals
        pure (appendedBuf body)
  | .array _ vs =>
      if vs.length ≠ count then .error (.tupleLength vs.length count)
      else do
        let body ← items GoVal.isNilPtr vs
        pure (appendedBuf body)
  | _ => .error .cannotMarshal

/-- `marshalUDT`, from a `map[string]interface{}` (its loop `fromMap`) or a struct (its loop
`fromFields`). -/
def marshalUDT
    (fromMap : List (GoVal κ ν × GoVal κ ν) → Except (MarshalFailure εm) (List UInt8))
    (fromFields : List (List UInt8 × List UInt8 × GoType κ) → List (GoVal κ ν) →
      Except (MarshalFailure εm) (List UInt8)) :
    GoVal κ ν → Except (MarshalFailure εm) GoBytes
  | .unset => .error .udtUnset
  | .map kt vt entries =>
      if GoType.beq kt (.leaf L.string) && GoType.beq vt .iface then do
        let body ← fromMap (entries.getD [])
        pure (appendedBuf body)
      else .error .cannotMarshal
  | .struct fs vals => do
      let body ← fromFields fs vals
      pure (appendedBuf body)
  | _ => .error .cannotMarshal

mutual
/-- `Marshal(info, value)`. -/
def marshal : TypeInfo → GoVal κ ν → Except (MarshalFailure εm) GoBytes
  | .native n, value =>
      marshalPrelude n value fun v =>
        marshalSwitch L n v (.error .nonCollection) (.error .nonCollection)
          (.error (.panic .typeAssertion)) (.error (.panic .typeAssertion))
  | .collection n key elem, value =>
      marshalPrelude n value fun v =>
        marshalSwitch L n v (marshalList (marshal elem) n.proto v)
          (marshalMap (marshalKey key) (marshal elem) n.proto v)
          (.error (.panic .typeAssertion)) (.error (.panic .typeAssertion))
  | .tuple n elems, value =>
      marshalPrelude n value fun v =>
        marshalSwitch L n v (.error .nonCollection) (.error .nonCollection)
          (marshalTuple elems.length (fun isNull vs => marshalTupleItems isNull elems vs) v)
          (.error (.panic .typeAssertion))
  | .udt n _ _ elements, value =>
      marshalPrelude n value fun v =>
        marshalSwitch L n v (.error .nonCollection) (.error .nonCollection)
          (.error (.panic .typeAssertion))
          (marshalUDT L (fun entries => marshalUDTMap elements entries)
            (fun fs vals => marshalUDTFields elements fs vals) v)

/-- `Marshal` with the key type of a map, nil for a list's. -/
def marshalKey : Option TypeInfo → GoVal κ ν → Except (MarshalFailure εm) GoBytes
  | none, _ => .error (.panic .nilTypeInfo)
  | some k, v => marshal k v

/-- The loops of `marshalTuple`: a null element is `-1`, any other its length and bytes (a nil
result of `Marshal` is a length of 0, not null). -/
def marshalTupleItems (isNull : GoVal κ ν → Bool) :
    List TypeInfo → List (GoVal κ ν) → Except (MarshalFailure εm) (List UInt8)
  | e :: es, v :: vs => do
    let item ←
      if isNull v then pure (appendInt [] (-1))
      else do
        let data ← marshal e v
        pure (appendInt [] (data.getD []).length ++ data.getD [])
    let rest ← marshalTupleItems isNull es vs
    pure (item ++ rest)
  | _, _ => .ok []

/-- The loop of `marshalUDT` from a map: each field's value under its name, null if absent. -/
def marshalUDTMap : List (List UInt8 × TypeInfo) → List (GoVal κ ν × GoVal κ ν) →
    Except (MarshalFailure εm) (List UInt8)
  | [], _ => .ok []
  | (name, e) :: es, entries => do
    let data ←
      match entries.find? (fun kv => GoVal.beq kv.1 (.leaf (L.ofString name))) with
      | some (_, val) => marshal e val
      | none => pure none
    let rest ← marshalUDTMap es entries
    pure (appendBytes [] data ++ rest)

/-- The loop of `marshalUDT` from a struct: each field by its tag or name, null if none. -/
def marshalUDTFields : List (List UInt8 × TypeInfo) →
    List (List UInt8 × List UInt8 × GoType κ) → List (GoVal κ ν) →
    Except (MarshalFailure εm) (List UInt8)
  | [], _, _ => .ok []
  | (name, e) :: es, fs, vals => do
    let data ←
      match udtFieldIndex fs name with
      | some j => marshal e (vals.getD j .nil)
      | none => pure none
    let rest ← marshalUDTFields es fs vals
    pure (appendBytes [] data ++ rest)
end

end Codecs

/-! ### The `bigint` codec as a leaf -/

/-- The errors of `bigIntLeaf`: the codec's own, and a type code it does not handle. -/
inductive LeafError (ε : Type) where
  | codec (e : ε)
  | unsupported (typ : CqlType)
  deriving DecidableEq, Repr

/-- The zero value of each integer destination. -/
def IntDest.zero : IntDest → GoValue
  | .int => .int 0
  | .uint => .uint 0
  | .int64 => .int64 0
  | .uint64 => .uint64 0
  | .int32 => .int32 0
  | .uint32 => .uint32 0
  | .int16 => .int16 0
  | .uint16 => .uint16 0
  | .int8 => .int8 0
  | .uint8 => .uint8 0
  | .bigInt => .bigInt 0
  | .string => .string []

/-- The native codecs of `bigint`, `marshalBigInt` and `unmarshalBigInt`, whose `goType` is
`int64`; Go's `string` keys a `map[string]interface{}`. -/
def bigIntLeaf :
    LeafCodec IntDest GoValue (LeafError MarshalError) (LeafError UnmarshalError) where
  marshal n v :=
    if n.typ = .bigInt then (marshalBigInt v).mapError .codec else .error (.unsupported n.typ)
  unmarshal n data k :=
    if n.typ = .bigInt then (unmarshalBigInt n.typ (data.getD []) k).mapError .codec
    else .error (.unsupported n.typ)
  goType c := if c = .bigInt then some .int64 else none
  zero := IntDest.zero
  string := .string
  ofString := .string

end Gocql
