import Gocql.Marshal.Varint
import Gocql.Marshal.Date

/-!
# Marshal — the narrow integer codecs, and values of named types

`marshal.go` marshals `tinyint`, `smallint` and `int` with `marshalTinyInt`, `marshalSmallInt`
and `marshalInt`, and unmarshals them through `decTiny`, `decShort` and `decInt` into
`unmarshalIntlike`.  Every marshaller is a type switch over the predeclared Go types followed by a
`reflect` fallback, and so is `unmarshalIntlike`: a value of a named type (`type T uint`) never
matches a case of the switch and is handled by its `reflect.Kind` alone.

* `MarshalArg`: a value of a predeclared type, or of a named type over it; `GoValue.kind` is what
  `reflect` reads of it (`rv.Int()` or `rv.Uint()`).
* `UnmarshalDest`: a pointer to a predeclared integer type, or to a named type over one.
* `marshalBigIntArg` and `marshalVarintArg` add the fallback to `marshalBigInt` and
  `marshalVarint`, whose type switches `Integers.lean` and `Varint.lean` model.

The two paths do not agree (`marshal_named_diverges`).  `marshalInt`'s switch accepts a `uint` up
to `math.MaxUint32` and every `uint32`, its fallback only values up to `math.MaxInt32`; and
`marshalBigInt`'s switch wraps a `uint64` above `math.MaxInt64`, its fallback refuses it.
Everywhere else on integers they agree (`marshalTinyInt_named`, `marshalSmallInt_named`,
`marshalInt_named`, `marshalBigIntArg_named`).  What either path accepts is read back exactly
(`integer_roundTrip`): each marshaller writes the value wrapped to its width and only when it fits
(`marshalInt_ok` and the others), the decoder sign-extends it back (`toInt_decInt_intBytes`), and
`unmarshalIntlike` recovers it by its masks and range checks (`unmarshalIntlike_fits`), on the
`reflect` path as well (`unmarshalIntlikeReflect_ok_iff`).  Both paths accept every value in the
type's range (`marshal_accepts_inRange`), and the type switch also an unsigned value up to the
type's width, which it writes as the signed value of the same bits (`marshal_wraps_unsigned`): a
`uint16` of 65535 goes out as the `smallint` -1 and comes back.  A `big.Int` is the exception to the
fixed widths: `marshalBigInt` writes it at its minimal length (`marshalBigInt_bigInt_width`).

The model is of a 64-bit platform, as in `Integers.lean`.  A `Marshaler`, a pointer and a
`reflect.Ptr` kind are not modelled: `GoValue` has no pointers.
-/

namespace Gocql

/-! ### Values as `reflect` sees them -/

/-- What the `reflect` fallback of an integer codec reads of a value: `rv.Int()` for a signed
integer kind, `rv.Uint()` for an unsigned one; every other kind is refused. -/
inductive IntKind where
  | signed (v : Int64)
  | unsigned (v : UInt64)
  | other
  deriving DecidableEq, Repr

/-- The kind of a value's type, with `rv.Int()` sign-extending and `rv.Uint()` zero-extending to
64 bits.  `unsetColumn` and `big.Int` are structs and `string` a string kind; `nil` has no type,
so no named type is over it, and it gets a kind no fallback accepts. -/
def GoValue.kind : GoValue → IntKind
  | .int v | .int64 v => .signed v
  | .int32 v => .signed v.toInt64
  | .int16 v => .signed v.toInt64
  | .int8 v => .signed v.toInt64
  | .uint v | .uint64 v => .unsigned v
  | .uint32 v => .unsigned v.toUInt64
  | .uint16 v => .unsigned v.toUInt64
  | .uint8 v => .unsigned v.toUInt64
  | .unset | .nil | .bigInt _ | .string _ => .other

/-- The integer a kind carries. -/
def IntKind.toInt : IntKind → Int
  | .signed v => v.toInt
  | .unsigned v => v.toNat
  | .other => 0

/-- A kind fits a CQL integer of `w` bits: a signed value in the signed range, an unsigned one
below `2 ^ w`. -/
def IntKind.FitsIn (w : Nat) : IntKind → Prop
  | .signed v => -2 ^ (w - 1) ≤ v.toInt ∧ v.toInt < 2 ^ (w - 1)
  | .unsigned v => v.toNat < 2 ^ w
  | .other => False

/-- A kind lies in the signed range of a CQL integer of `w` bits, the range of the type's own
values. -/
def IntKind.InRange (w : Nat) (k : IntKind) : Prop :=
  k ≠ .other ∧ -2 ^ (w - 1) ≤ k.toInt ∧ k.toInt < 2 ^ (w - 1)

/-- The pointer type of an integer value's own type, which `unmarshalIntlike` stores through. -/
def GoValue.intDest : GoValue → Option IntDest
  | .int _ => some .int
  | .uint _ => some .uint
  | .int64 _ => some .int64
  | .uint64 _ => some .uint64
  | .int32 _ => some .int32
  | .uint32 _ => some .uint32
  | .int16 _ => some .int16
  | .uint16 _ => some .uint16
  | .int8 _ => some .int8
  | .uint8 _ => some .uint8
  | .unset | .nil | .bigInt _ | .string _ => none

/-- The width a CQL integer type is read back from: `tinyint`, `smallint` and `int` through
`decTiny`, `decShort` and `decInt`, every other type from 64 bits; `unmarshalIntlike` masks the
unsigned types to the first three. -/
def CqlType.intWidth (typ : CqlType) : Nat :=
  if typ = .tinyInt then 8 else if typ = .smallInt then 16 else if typ = .int then 32 else 64

/-- A value handed to a marshaller as an `interface{}`: of a predeclared type, which the type
switch names, or of a named type over that type holding the same value, which the switch does not
name and only the `reflect` fallback sees. -/
inductive MarshalArg where
  | plain (v : GoValue)
  | named (v : GoValue)
  deriving DecidableEq, Repr

/-- The value an argument holds. -/
def MarshalArg.value : MarshalArg → GoValue
  | .plain v | .named v => v

/-- An argument of a predeclared type or of a named one. -/
def MarshalArg.of (named : Bool) (v : GoValue) : MarshalArg := if named then .named v else .plain v

/-- The errors of `marshalTinyInt`, `marshalSmallInt` and `marshalInt`, one constructor per
message; the CQL type names the marshaller. -/
inductive IntMarshalError where
  /-- `marshal tinyint: value %d out of range`, and so for `smallint` and `int` -/
  | outOfRange (typ : CqlType) (v : Int)
  /-- `can not marshal %T into %s: %v`, and `can not marshal string to int: %s` for `int` -/
  | fromString (typ : CqlType) (e : NumError)
  /-- `can not marshal %T into %s` -/
  | cannotMarshal (value : MarshalArg) (typ : CqlType)
  deriving DecidableEq, Repr

/-! ### `strconv` at a bit size -/

/-- `strconv.ParseUint(s, 10, bitSize)`'s digit loop: `parseUintDigits` with the range error at
`maxVal = 1 << bitSize - 1`; the overflow test of `n * 10` stays at 64 bits. -/
def parseUintDigitsUpTo (maxVal : Nat) (s0 : List UInt8) : List UInt8 → Nat → Except NumError Nat
  | [], n => .ok n
  | c :: cs, n =>
      if 0x30 ≤ c ∧ c ≤ 0x39 then
        if maxUint64 / 10 + 1 ≤ n then .error ⟨s0, .range⟩
        else
          let n1 := n * 10 + (c - 0x30).toNat
          if maxVal < n1 then .error ⟨s0, .range⟩ else parseUintDigitsUpTo maxVal s0 cs n1
      else .error ⟨s0, .invalid⟩

/-- `strconv.ParseUint(s, 10, bitSize)`. -/
def parseUintSize (s : List UInt8) (bitSize : Nat) : Except NumError Nat :=
  if s = [] then .error ⟨s, .invalid⟩ else parseUintDigitsUpTo (2 ^ bitSize - 1) s s 0

/-- `strconv.ParseInt(s, 10, bitSize)`: an optional sign, then `ParseUint` at the same size, whose
range error is not final, and the signed bound `cutoff = 1 << (bitSize - 1)`. -/
def parseIntSize (s0 : List UInt8) (bitSize : Nat) : Except NumError Int64 :=
  match s0 with
  | [] => .error ⟨s0, .invalid⟩
  | c :: cs =>
      let (neg, s) := if c = 0x2B then (false, cs) else if c = 0x2D then (true, cs) else (false, s0)
      match parseUintSize s bitSize with
      | .error ⟨_, .invalid⟩ => .error ⟨s0, .invalid⟩
      | r =>
          let un : Nat := match r with | .ok un => un | .error _ => 2 ^ bitSize - 1
          if !neg && 2 ^ (bitSize - 1) ≤ un then .error ⟨s0, .range⟩
          else if neg && 2 ^ (bitSize - 1) < un then .error ⟨s0, .range⟩
          else if neg then .ok (Int64.ofInt (-(un : Int))) else .ok (Int64.ofNat un)

/-! ### The narrow encoders and decoders -/

/-- `encShort`: the two bytes of an `int16`, most significant first. -/
def encShort (x : Int16) : List UInt8 := [goByte (x.toInt >>> (8 : Nat)), goByte x.toInt]

/-- `decInt`: `int32(x[0])<<24 | … | int32(x[3])`, the bytes in their own lanes, so the
big-endian value wrapped to 32 bits; zero for any length but four. -/
def decInt (x : List UInt8) : Int32 := if x.length ≠ 4 then 0 else Int32.ofNat (BigEndian.val x)

/-- `decShort`: the two bytes as an `int16`, zero for any other length. -/
def decShort (p : List UInt8) : Int16 := if p.length ≠ 2 then 0 else Int16.ofNat (BigEndian.val p)

/-- `decTiny`: `int8(p[0])`, zero for any length but one. -/
def decTiny (p : List UInt8) : Int8 := if p.length ≠ 1 then 0 else Int8.ofNat (BigEndian.val p)

/-! ### The marshallers -/

/-- An arm that range-checks a signed value, `if v > hi || v < lo`, before narrowing it. -/
def encSigned (typ : CqlType) (enc : Int → List UInt8) (lo hi v : Int) :
    Except IntMarshalError GoBytes :=
  if hi < v ∨ v < lo then .error (.outOfRange typ v) else .ok (some (enc v))

/-- An arm that range-checks an unsigned value, `if v > hi`, before narrowing it. -/
def encUnsigned (typ : CqlType) (enc : Int → List UInt8) (hi v : Nat) :
    Except IntMarshalError GoBytes :=
  if hi < v then .error (.outOfRange typ v) else .ok (some (enc v))

/-- The bytes of `tinyint`: `[]byte{byte(v)}`. -/
def tinyBytes (v : Int) : List UInt8 := [goByte v]

/-- The bytes of `smallint`: `encShort(int16(v))`. -/
def smallBytes (v : Int) : List UInt8 := encShort (Int16.ofInt v)

/-- The bytes of `int`: `encInt(int32(v))`. -/
def intBytes (v : Int) : List UInt8 := encInt (Int32.ofInt v)

/-- The `reflect` fallback the three narrow marshallers share: a signed kind is checked against
`[lo, hi]`, an unsigned one against `uhi`, any other kind refused. -/
def reflectNarrow (typ : CqlType) (enc : Int → List UInt8) (lo hi : Int) (uhi : Nat)
    (value : MarshalArg) : Except IntMarshalError GoBytes :=
  match value.value.kind with
  | .signed v => encSigned typ enc lo hi v.toInt
  | .unsigned v => encUnsigned typ enc uhi v.toNat
  | .other => .error (.cannotMarshal value typ)

/-- `marshalTinyInt`'s `reflect` fallback. -/
def marshalTinyIntReflect (value : MarshalArg) : Except IntMarshalError GoBytes :=
  reflectNarrow .tinyInt tinyBytes (-2 ^ 7) (2 ^ 7 - 1) (2 ^ 8 - 1) value

/-- `marshalTinyInt`: `int8` and `uint8` are written as they are, wider types range-checked, a
string parsed at 8 bits, and anything else goes to the fallback. -/
def marshalTinyInt (value : MarshalArg) : Except IntMarshalError GoBytes :=
  match value with
  | .plain .unset => .ok none
  | .plain (.int8 v) => .ok (some (tinyBytes v.toInt))
  | .plain (.uint8 v) => .ok (some (tinyBytes v.toNat))
  | .plain (.int16 v) => encSigned .tinyInt tinyBytes (-2 ^ 7) (2 ^ 7 - 1) v.toInt
  | .plain (.uint16 v) => encUnsigned .tinyInt tinyBytes (2 ^ 8 - 1) v.toNat
  | .plain (.int v) => encSigned .tinyInt tinyBytes (-2 ^ 7) (2 ^ 7 - 1) v.toInt
  | .plain (.int32 v) => encSigned .tinyInt tinyBytes (-2 ^ 7) (2 ^ 7 - 1) v.toInt
  | .plain (.int64 v) => encSigned .tinyInt tinyBytes (-2 ^ 7) (2 ^ 7 - 1) v.toInt
  | .plain (.uint v) => encUnsigned .tinyInt tinyBytes (2 ^ 8 - 1) v.toNat
  | .plain (.uint32 v) => encUnsigned .tinyInt tinyBytes (2 ^ 8 - 1) v.toNat
  | .plain (.uint64 v) => encUnsigned .tinyInt tinyBytes (2 ^ 8 - 1) v.toNat
  | .plain (.string s) => match parseIntSize s 8 with
      | .ok n => .ok (some (tinyBytes n.toInt))
      | .error e => .error (.fromString .tinyInt e)
  | .plain .nil => .ok none
  | .plain (.bigInt _) | .named _ => marshalTinyIntReflect value

/-- `marshalSmallInt`'s `reflect` fallback. -/
def marshalSmallIntReflect (value : MarshalArg) : Except IntMarshalError GoBytes :=
  reflectNarrow .smallInt smallBytes (-2 ^ 15) (2 ^ 15 - 1) (2 ^ 16 - 1) value

/-- `marshalSmallInt`: the 16- and 8-bit types are written as they are, wider types
range-checked, a string parsed at 16 bits, and anything else goes to the fallback. -/
def marshalSmallInt (value : MarshalArg) : Except IntMarshalError GoBytes :=
  match value with
  | .plain .unset => .ok none
  | .plain (.int16 v) => .ok (some (encShort v))
  | .plain (.uint16 v) => .ok (some (smallBytes v.toNat))
  | .plain (.int8 v) => .ok (some (smallBytes v.toInt))
  | .plain (.uint8 v) => .ok (some (smallBytes v.toNat))
  | .plain (.int v) => encSigned .smallInt smallBytes (-2 ^ 15) (2 ^ 15 - 1) v.toInt
  | .plain (.int32 v) => encSigned .smallInt smallBytes (-2 ^ 15) (2 ^ 15 - 1) v.toInt
  | .plain (.int64 v) => encSigned .smallInt smallBytes (-2 ^ 15) (2 ^ 15 - 1) v.toInt
  | .plain (.uint v) => encUnsigned .smallInt smallBytes (2 ^ 16 - 1) v.toNat
  | .plain (.uint32 v) => encUnsigned .smallInt smallBytes (2 ^ 16 - 1) v.toNat
  | .plain (.uint64 v) => encUnsigned .smallInt smallBytes (2 ^ 16 - 1) v.toNat
  | .plain (.string s) => match parseIntSize s 16 with
      | .ok n => .ok (some (smallBytes n.toInt))
      | .error e => .error (.fromString .smallInt e)
  | .plain .nil => .ok none
  | .plain (.bigInt _) | .named _ => marshalSmallIntReflect value

/-- `marshalInt`'s `reflect` fallback.  Its unsigned bound is `math.MaxInt32`, where the type
switch's is `math.MaxUint32`. -/
def marshalIntReflect (value : MarshalArg) : Except IntMarshalError GoBytes :=
  reflectNarrow .int intBytes (-2 ^ 31) (2 ^ 31 - 1) (2 ^ 31 - 1) value

/-- `marshalInt`: `int` and `int64` are range-checked to `int32`, `uint` and `uint64` to
`math.MaxUint32`, the narrower types written as they are, a string parsed at 32 bits, and
anything else goes to the fallback. -/
def marshalInt (value : MarshalArg) : Except IntMarshalError GoBytes :=
  match value with
  | .plain .unset => .ok none
  | .plain (.int v) => encSigned .int intBytes (-2 ^ 31) (2 ^ 31 - 1) v.toInt
  | .plain (.uint v) => encUnsigned .int intBytes (2 ^ 32 - 1) v.toNat
  | .plain (.int64 v) => encSigned .int intBytes (-2 ^ 31) (2 ^ 31 - 1) v.toInt
  | .plain (.uint64 v) => encUnsigned .int intBytes (2 ^ 32 - 1) v.toNat
  | .plain (.int32 v) => .ok (some (encInt v))
  | .plain (.uint32 v) => .ok (some (intBytes v.toNat))
  | .plain (.int16 v) => .ok (some (intBytes v.toInt))
  | .plain (.uint16 v) => .ok (some (intBytes v.toNat))
  | .plain (.int8 v) => .ok (some (intBytes v.toInt))
  | .plain (.uint8 v) => .ok (some (intBytes v.toNat))
  | .plain (.string s) => match parseIntSize s 32 with
      | .ok i => .ok (some (intBytes i.toInt))
      | .error e => .error (.fromString .int e)
  | .plain .nil => .ok none
  | .plain (.bigInt _) | .named _ => marshalIntReflect value

/-- `marshalBigInt`'s `reflect` fallback: a signed kind is written as it is, an unsigned one
refused above `math.MaxInt64`.  (`%T` of the refused value prints as its underlying type.) -/
def marshalBigIntReflect (v : GoValue) : Except MarshalError GoBytes :=
  match v.kind with
  | .signed x => .ok (some (encBigInt x))
  | .unsigned x => if maxInt64 < x.toNat then .error (.bigintOutOfRange x.toNat)
      else .ok (some (encBigInt x.toInt64))
  | .other => .error (.cannotMarshal v .bigInt)

/-- `marshalBigInt` on any argument: its type switch, `marshalBigInt`, names every predeclared
type a `GoValue` has, so only a named type reaches the fallback. -/
def marshalBigIntArg : MarshalArg → Except MarshalError GoBytes
  | .plain v => marshalBigInt v
  | .named v => marshalBigIntReflect v

/-- `marshalVarint` on any argument: its switch names `unsetColumn` and `uint64`, so a named
type goes to `marshalBigInt` and on to its fallback, and the result is trimmed. -/
def marshalVarintArg : MarshalArg → Except MarshalError GoBytes
  | .plain v => marshalVarint v
  | .named v => (marshalBigIntArg (.named v)).map (Option.map trimLeading)

/-! ### The unmarshallers -/

/-- A destination handed to an unmarshaller: a pointer to a predeclared type, which the type
switch of `unmarshalIntlike` names, or to a named type over it, which only its `reflect` path
sees. -/
inductive UnmarshalDest where
  | plain (d : IntDest)
  | named (d : IntDest)
  deriving DecidableEq, Repr

/-- A destination of a predeclared type or of a named one. -/
def UnmarshalDest.of (named : Bool) (d : IntDest) : UnmarshalDest :=
  if named then .named d else .plain d

/-- The messages of `unmarshalIntlike`'s `reflect` path. -/
inductive ReflectUnmarshalError where
  /-- `unmarshal int: value %d out of range` -/
  | outOfRange (v : Int)
  /-- `unmarshal int: value %d out of range for %s`, of the named type over `dest` -/
  | outOfRangeFor (v : Int) (dest : IntDest)
  /-- `can not unmarshal %s into %T` -/
  | cannotUnmarshal (typ : CqlType) (dest : IntDest)
  deriving DecidableEq, Repr

/-- The errors of the integer unmarshallers, from the type switch or from the `reflect` path. -/
inductive IntUnmarshalError where
  | typed (e : UnmarshalError)
  | reflect (e : ReflectUnmarshalError)
  deriving DecidableEq, Repr

/-- `unmarshalIntlike`'s `reflect` path: by the kind of the named type, `rv.SetInt` after the
signed range check, `rv.SetUint` after the mask or the unsigned one.  `SetInt` and `SetUint` store
the value truncated to the kind's width. -/
def unmarshalIntlikeReflect (typ : CqlType) (int64Val : Int64) :
    IntDest → Except ReflectUnmarshalError GoValue
  | .int => .ok (.int int64Val)
  | .int64 => .ok (.int64 int64Val)
  | .int32 =>
      if int64Val.toInt < -2 ^ 31 ∨ 2 ^ 31 - 1 < int64Val.toInt then
        .error (.outOfRange int64Val.toInt)
      else .ok (.int32 int64Val.toInt32)
  | .int16 =>
      if int64Val.toInt < -2 ^ 15 ∨ 2 ^ 15 - 1 < int64Val.toInt then
        .error (.outOfRange int64Val.toInt)
      else .ok (.int16 int64Val.toInt16)
  | .int8 =>
      if int64Val.toInt < -2 ^ 7 ∨ 2 ^ 7 - 1 < int64Val.toInt then
        .error (.outOfRange int64Val.toInt)
      else .ok (.int8 int64Val.toInt8)
  | .uint =>
      let unitVal := int64Val.toUInt64
      if typ = .int then .ok (.uint (unitVal &&& 0xFFFFFFFF))
      else if typ = .smallInt then .ok (.uint (unitVal &&& 0xFFFF))
      else if typ = .tinyInt then .ok (.uint (unitVal &&& 0xFF))
      else .ok (.uint unitVal)
  | .uint64 =>
      let unitVal := int64Val.toUInt64
      if typ = .int then .ok (.uint64 (unitVal &&& 0xFFFFFFFF))
      else if typ = .smallInt then .ok (.uint64 (unitVal &&& 0xFFFF))
      else if typ = .tinyInt then .ok (.uint64 (unitVal &&& 0xFF))
      else .ok (.uint64 unitVal)
  | .uint32 =>
      let unitVal := int64Val.toUInt64
      if typ = .int then .ok (.uint32 (unitVal &&& 0xFFFFFFFF).toUInt32)
      else if typ = .smallInt then .ok (.uint32 (unitVal &&& 0xFFFF).toUInt32)
      else if typ = .tinyInt then .ok (.uint32 (unitVal &&& 0xFF).toUInt32)
      else if int64Val.toInt < 0 ∨ 2 ^ 32 - 1 < int64Val.toInt then
        .error (.outOfRangeFor int64Val.toInt .uint32)
      else .ok (.uint32 (unitVal &&& 0xFFFFFFFF).toUInt32)
  | .uint16 =>
      let unitVal := int64Val.toUInt64
      if typ = .smallInt then .ok (.uint16 (unitVal &&& 0xFFFF).toUInt16)
      else if typ = .tinyInt then .ok (.uint16 (unitVal &&& 0xFF).toUInt16)
      else if int64Val.toInt < 0 ∨ 2 ^ 16 - 1 < int64Val.toInt then
        .error (.outOfRangeFor int64Val.toInt .uint16)
      else .ok (.uint16 (unitVal &&& 0xFFFF).toUInt16)
  | .uint8 =>
      if typ ≠ .tinyInt ∧ (int64Val.toInt < 0 ∨ 2 ^ 8 - 1 < int64Val.toInt) then
        .error (.outOfRangeFor int64Val.toInt .uint8)
      else .ok (.uint8 (int64Val.toUInt64 &&& 0xFF).toUInt8)
  | .bigInt => .error (.cannotUnmarshal typ .bigInt)
  | .string => .error (.cannotUnmarshal typ .string)

/-- `unmarshalIntlike` on any destination: the type switch (`unmarshalIntlike`) for a pointer to
a predeclared type, the `reflect` path for a pointer to a named one. -/
def unmarshalIntlikeArg (typ : CqlType) (int64Val : Int64) (data : List UInt8) :
    UnmarshalDest → Except IntUnmarshalError GoValue
  | .plain d => (unmarshalIntlike typ int64Val data d).mapError .typed
  | .named d => (unmarshalIntlikeReflect typ int64Val d).mapError .reflect

/-- `unmarshalInt`. -/
def unmarshalInt (typ : CqlType) (data : List UInt8) (dest : UnmarshalDest) :
    Except IntUnmarshalError GoValue :=
  unmarshalIntlikeArg typ (decInt data).toInt64 data dest

/-- `unmarshalSmallInt`. -/
def unmarshalSmallInt (typ : CqlType) (data : List UInt8) (dest : UnmarshalDest) :
    Except IntUnmarshalError GoValue :=
  unmarshalIntlikeArg typ (decShort data).toInt64 data dest

/-- `unmarshalTinyInt`. -/
def unmarshalTinyInt (typ : CqlType) (data : List UInt8) (dest : UnmarshalDest) :
    Except IntUnmarshalError GoValue :=
  unmarshalIntlikeArg typ (decTiny data).toInt64 data dest

/-- `unmarshalBigInt` on any destination. -/
def unmarshalBigIntArg (typ : CqlType) (data : List UInt8) (dest : UnmarshalDest) :
    Except IntUnmarshalError GoValue :=
  unmarshalIntlikeArg typ (decBigInt data) data dest

/-- `unmarshalVarint` on any destination: a pointer to a named type matches neither `*big.Int`
nor `*uint64`, so it takes at most eight bytes, sign-extended, into the `reflect` path. -/
def unmarshalVarintArg (typ : CqlType) (data : List UInt8) :
    UnmarshalDest → Except IntUnmarshalError GoValue
  | .plain d => (unmarshalVarint typ data d).mapError .typed
  | .named d =>
      if 8 < data.length then .error (.typed (.varintOutOfRange data d))
      else unmarshalIntlikeArg typ (varintInt64 data) data (.named d)

/-! ### What the marshallers write -/

@[simp] theorem MarshalArg.value_of (named : Bool) (v : GoValue) : (MarshalArg.of named v).value = v := by
  cases named <;> rfl

/-- An integer value has a kind the fallbacks accept. -/
theorem kind_ne_other {v : GoValue} {d : IntDest} (hd : v.intDest = some d) : v.kind ≠ .other := by
  cases v <;> simp_all [GoValue.intDest, GoValue.kind]

/-- The pointer type of an integer is neither `*big.Int` nor `*string`. -/
theorem intDest_ne {v : GoValue} {d : IntDest} (hd : v.intDest = some d) :
    d ≠ .bigInt ∧ d ≠ .string := by
  cases v <;> cases hd <;> decide

theorem encSigned_eq_ok {typ : CqlType} {enc : Int → List UInt8} {lo hi v : Int} {bs : GoBytes}
    (h : encSigned typ enc lo hi v = .ok bs) : bs = some (enc v) ∧ lo ≤ v ∧ v ≤ hi := by
  unfold encSigned at h
  split at h
  · cases h
  · cases h
    exact ⟨rfl, by omega, by omega⟩

theorem encUnsigned_eq_ok {typ : CqlType} {enc : Int → List UInt8} {hi v : Nat} {bs : GoBytes}
    (h : encUnsigned typ enc hi v = .ok bs) : bs = some (enc v) ∧ v ≤ hi := by
  unfold encUnsigned at h
  split at h
  · cases h
  · cases h
    exact ⟨rfl, by omega⟩

/-- What the fallback accepts fits any width whose ranges hold its bounds. -/
theorem reflectNarrow_ok {typ : CqlType} {enc : Int → List UInt8} {lo hi : Int} {uhi w : Nat}
    {a : MarshalArg} {bs : GoBytes} (h : reflectNarrow typ enc lo hi uhi a = .ok bs)
    (hlo : -2 ^ (w - 1) ≤ lo) (hhi : hi < 2 ^ (w - 1)) (hu : uhi < 2 ^ w) :
    bs = some (enc a.value.kind.toInt) ∧ a.value.kind.FitsIn w := by
  unfold reflectNarrow at h
  split at h
  · rename_i x hx
    obtain ⟨rfl, h₁, h₂⟩ := encSigned_eq_ok h
    rw [hx]
    exact ⟨rfl, by omega, by omega⟩
  · rename_i x hx
    obtain ⟨rfl, h₁⟩ := encUnsigned_eq_ok h
    rw [hx]
    exact ⟨rfl, show x.toNat < 2 ^ w by omega⟩
  · cases h

/-- What `marshalTinyInt` writes for an integer: its low byte, and it fits eight bits. -/
theorem marshalTinyInt_ok {a : MarshalArg} {bs : GoBytes} (h : marshalTinyInt a = .ok bs)
    (hk : a.value.kind ≠ .other) :
    bs = some (tinyBytes a.value.kind.toInt) ∧ a.value.kind.FitsIn 8 := by
  rcases a with v | v
  · cases v with
    | unset | nil | bigInt | string => exact absurd rfl hk
    | int x | int64 x | int32 x | int16 x =>
        simp only [marshalTinyInt, MarshalArg.value, GoValue.kind, IntKind.toInt, IntKind.FitsIn,
          Int32.toInt_toInt64, Int16.toInt_toInt64] at h ⊢
        obtain ⟨rfl, hlo, hhi⟩ := encSigned_eq_ok h
        exact ⟨rfl, by omega, by omega⟩
    | uint x | uint64 x | uint32 x | uint16 x =>
        simp only [marshalTinyInt, MarshalArg.value, GoValue.kind, IntKind.toInt, IntKind.FitsIn,
          UInt32.toNat_toUInt64, UInt16.toNat_toUInt64] at h ⊢
        obtain ⟨rfl, hhi⟩ := encUnsigned_eq_ok h
        exact ⟨rfl, by omega⟩
    | int8 x =>
        simp only [marshalTinyInt, MarshalArg.value, GoValue.kind, IntKind.toInt, IntKind.FitsIn,
          Int8.toInt_toInt64, Except.ok.injEq] at h ⊢
        exact ⟨h.symm, by have := x.le_toInt; omega, by have := x.toInt_lt; omega⟩
    | uint8 x =>
        simp only [marshalTinyInt, MarshalArg.value, GoValue.kind, IntKind.toInt, IntKind.FitsIn,
          UInt8.toNat_toUInt64, Except.ok.injEq] at h ⊢
        exact ⟨h.symm, x.toNat_lt⟩
  · exact reflectNarrow_ok h (by norm_num) (by norm_num) (by norm_num)

/-- What `marshalSmallInt` writes for an integer: `encShort` of it, and it fits sixteen bits. -/
theorem marshalSmallInt_ok {a : MarshalArg} {bs : GoBytes} (h : marshalSmallInt a = .ok bs)
    (hk : a.value.kind ≠ .other) :
    bs = some (smallBytes a.value.kind.toInt) ∧ a.value.kind.FitsIn 16 := by
  rcases a with v | v
  · cases v with
    | unset | nil | bigInt | string => exact absurd rfl hk
    | int x | int64 x | int32 x =>
        simp only [marshalSmallInt, MarshalArg.value, GoValue.kind, IntKind.toInt, IntKind.FitsIn,
          Int32.toInt_toInt64] at h ⊢
        obtain ⟨rfl, hlo, hhi⟩ := encSigned_eq_ok h
        exact ⟨rfl, by omega, by omega⟩
    | uint x | uint64 x | uint32 x =>
        simp only [marshalSmallInt, MarshalArg.value, GoValue.kind, IntKind.toInt, IntKind.FitsIn,
          UInt32.toNat_toUInt64] at h ⊢
        obtain ⟨rfl, hhi⟩ := encUnsigned_eq_ok h
        exact ⟨rfl, by omega⟩
    | int16 x =>
        simp only [marshalSmallInt, MarshalArg.value, GoValue.kind, IntKind.toInt, IntKind.FitsIn,
          Int16.toInt_toInt64, Except.ok.injEq, smallBytes, Int16.ofInt_toInt] at h ⊢
        exact ⟨h.symm, by have := x.le_toInt; omega, by have := x.toInt_lt; omega⟩
    | int8 x =>
        simp only [marshalSmallInt, MarshalArg.value, GoValue.kind, IntKind.toInt, IntKind.FitsIn,
          Int8.toInt_toInt64, Except.ok.injEq] at h ⊢
        exact ⟨h.symm, by have := x.le_toInt; omega, by have := x.toInt_lt; omega⟩
    | uint16 x | uint8 x =>
        simp only [marshalSmallInt, MarshalArg.value, GoValue.kind, IntKind.toInt, IntKind.FitsIn,
          UInt16.toNat_toUInt64, UInt8.toNat_toUInt64, Except.ok.injEq] at h ⊢
        exact ⟨h.symm, by have := x.toNat_lt; omega⟩
  · exact reflectNarrow_ok h (by norm_num) (by norm_num) (by norm_num)

/-- What `marshalInt` writes for an integer: `encInt` of it, and it fits thirty-two bits. -/
theorem marshalInt_ok {a : MarshalArg} {bs : GoBytes} (h : marshalInt a = .ok bs)
    (hk : a.value.kind ≠ .other) :
    bs = some (intBytes a.value.kind.toInt) ∧ a.value.kind.FitsIn 32 := by
  rcases a with v | v
  · cases v with
    | unset | nil | bigInt | string => exact absurd rfl hk
    | int x | int64 x =>
        simp only [marshalInt, MarshalArg.value, GoValue.kind, IntKind.toInt, IntKind.FitsIn] at h ⊢
        obtain ⟨rfl, hlo, hhi⟩ := encSigned_eq_ok h
        exact ⟨rfl, by omega, by omega⟩
    | uint x | uint64 x =>
        simp only [marshalInt, MarshalArg.value, GoValue.kind, IntKind.toInt, IntKind.FitsIn] at h ⊢
        obtain ⟨rfl, hhi⟩ := encUnsigned_eq_ok h
        exact ⟨rfl, by omega⟩
    | int32 x =>
        simp only [marshalInt, MarshalArg.value, GoValue.kind, IntKind.toInt, IntKind.FitsIn,
          Int32.toInt_toInt64, Except.ok.injEq, intBytes, Int32.ofInt_toInt] at h ⊢
        exact ⟨h.symm, by have := x.le_toInt; omega, by have := x.toInt_lt; omega⟩
    | int16 x =>
        simp only [marshalInt, MarshalArg.value, GoValue.kind, IntKind.toInt, IntKind.FitsIn,
          Int16.toInt_toInt64, Except.ok.injEq] at h ⊢
        exact ⟨h.symm, by have := x.le_toInt; omega, by have := x.toInt_lt; omega⟩
    | int8 x =>
        simp only [marshalInt, MarshalArg.value, GoValue.kind, IntKind.toInt, IntKind.FitsIn,
          Int8.toInt_toInt64, Except.ok.injEq] at h ⊢
        exact ⟨h.symm, by have := x.le_toInt; omega, by have := x.toInt_lt; omega⟩
    | uint32 x | uint16 x | uint8 x =>
        simp only [marshalInt, MarshalArg.value, GoValue.kind, IntKind.toInt, IntKind.FitsIn,
          UInt32.toNat_toUInt64, UInt16.toNat_toUInt64, UInt8.toNat_toUInt64, Except.ok.injEq] at h ⊢
        exact ⟨h.symm, by have := x.toNat_lt; omega⟩
  · exact reflectNarrow_ok h (by norm_num) (by norm_num) (by norm_num)

/-- Reducing modulo `2 ^ w` first does not change the `w`-bit two's-complement value. -/
theorem emod_two_pow_bmod (x : Int) (w : Nat) : (x % 2 ^ w).bmod (2 ^ w) = x.bmod (2 ^ w) := by
  have h := Int.emod_bmod x (2 ^ w)
  rwa [Int.natCast_pow, Int.cast_ofNat_Int] at h


/-- A `uint64`'s bits read as an `int64` are its value wrapped to 64 bits. -/
theorem toInt64_eq_ofInt (v : UInt64) : v.toInt64 = Int64.ofInt v.toNat := by
  have hs : Int64.size = 2 ^ 64 := rfl
  have h := Go.int64_toNat_toUInt64 v.toInt64
  rw [UInt64.toUInt64_toInt64] at h
  apply Int64.toInt_inj.mp
  rw [Int64.toInt_ofInt, h, hs, emod_two_pow_bmod, ← hs, Int64.toInt_bmod_size]

/-- The fallback of `marshalBigInt` writes the value wrapped to 64 bits. -/
theorem marshalBigIntReflect_ok {v : GoValue} {bs : GoBytes} (h : marshalBigIntReflect v = .ok bs) :
    bs = some (encBigInt (Int64.ofInt v.kind.toInt)) ∧ v.kind.FitsIn 64 := by
  unfold marshalBigIntReflect at h
  split at h
  · rename_i x hx
    cases h
    rw [hx]
    exact ⟨by rw [IntKind.toInt, Int64.ofInt_toInt], x.le_toInt, x.toInt_lt⟩
  · rename_i x hx
    split at h
    · cases h
    · cases h
      rw [hx]
      exact ⟨by rw [IntKind.toInt, toInt64_eq_ofInt], x.toNat_lt⟩
  · cases h

theorem marshalBigIntArg_ok {a : MarshalArg} {bs : GoBytes} (h : marshalBigIntArg a = .ok bs)
    (hk : a.value.kind ≠ .other) :
    bs = some (encBigInt (Int64.ofInt a.value.kind.toInt)) ∧ a.value.kind.FitsIn 64 := by
  rcases a with v | v
  · cases v with
    | unset | nil | bigInt | string => exact absurd rfl hk
    | int x | int64 x =>
        simp only [marshalBigIntArg, marshalBigInt, MarshalArg.value, GoValue.kind, IntKind.toInt,
          IntKind.FitsIn, Except.ok.injEq, Int64.ofInt_toInt] at h ⊢
        exact ⟨h.symm, x.le_toInt, x.toInt_lt⟩
    | int32 x | int16 x | int8 x =>
        simp only [marshalBigIntArg, marshalBigInt, MarshalArg.value, GoValue.kind, IntKind.toInt,
          IntKind.FitsIn, Except.ok.injEq, Int64.ofInt_toInt] at h ⊢
        exact ⟨h.symm, x.toInt64.le_toInt, x.toInt64.toInt_lt⟩
    | uint64 x | uint32 x | uint16 x | uint8 x =>
        simp only [marshalBigIntArg, marshalBigInt, MarshalArg.value, GoValue.kind, IntKind.toInt,
          IntKind.FitsIn, Except.ok.injEq, toInt64_eq_ofInt] at h ⊢
        exact ⟨h.symm, UInt64.toNat_lt _⟩
    | uint x =>
        simp only [marshalBigIntArg, marshalBigInt, MarshalArg.value, GoValue.kind, IntKind.toInt,
          IntKind.FitsIn] at h ⊢
        split at h
        · cases h
        · cases h
          exact ⟨by rw [toInt64_eq_ofInt], x.toNat_lt⟩
  · exact marshalBigIntReflect_ok h
/-! ### Values of named types -/

/-- A named type over an integer type reaches `marshalTinyInt`'s fallback, which does what the
type switch does: its bounds are the switch's, and they hold of `int8` and `uint8` anyway. -/
theorem marshalTinyInt_named {v : GoValue} (hk : v.kind ≠ .other) :
    marshalTinyInt (.named v) = marshalTinyInt (.plain v) := by
  cases v with
  | unset | nil | bigInt | string => exact absurd rfl hk
  | int x | int64 x | int32 x | int16 x | uint x | uint64 x | uint32 x | uint16 x =>
      simp only [marshalTinyInt, marshalTinyIntReflect, reflectNarrow, MarshalArg.value,
        GoValue.kind, Int32.toInt_toInt64, Int16.toInt_toInt64, UInt32.toNat_toUInt64,
        UInt16.toNat_toUInt64]
  | int8 x =>
      have := x.le_toInt
      have := x.toInt_lt
      simp only [marshalTinyInt, marshalTinyIntReflect, reflectNarrow, MarshalArg.value,
        GoValue.kind, Int8.toInt_toInt64, encSigned]
      rw [if_neg (by omega)]
  | uint8 x =>
      have := x.toNat_lt
      simp only [marshalTinyInt, marshalTinyIntReflect, reflectNarrow, MarshalArg.value,
        GoValue.kind, UInt8.toNat_toUInt64, encUnsigned]
      rw [if_neg (by omega)]

/-- The same for `marshalSmallInt`. -/
theorem marshalSmallInt_named {v : GoValue} (hk : v.kind ≠ .other) :
    marshalSmallInt (.named v) = marshalSmallInt (.plain v) := by
  cases v with
  | unset | nil | bigInt | string => exact absurd rfl hk
  | int x | int64 x | int32 x | uint x | uint64 x | uint32 x =>
      simp only [marshalSmallInt, marshalSmallIntReflect, reflectNarrow, MarshalArg.value,
        GoValue.kind, Int32.toInt_toInt64, UInt32.toNat_toUInt64]
  | int16 x =>
      have := x.le_toInt
      have := x.toInt_lt
      simp only [marshalSmallInt, marshalSmallIntReflect, reflectNarrow, MarshalArg.value,
        GoValue.kind, Int16.toInt_toInt64, encSigned, smallBytes, Int16.ofInt_toInt]
      rw [if_neg (by omega)]
  | int8 x =>
      have := x.le_toInt
      have := x.toInt_lt
      simp only [marshalSmallInt, marshalSmallIntReflect, reflectNarrow, MarshalArg.value,
        GoValue.kind, Int8.toInt_toInt64, encSigned]
      rw [if_neg (by omega)]
  | uint16 x | uint8 x =>
      have := x.toNat_lt
      simp only [marshalSmallInt, marshalSmallIntReflect, reflectNarrow, MarshalArg.value,
        GoValue.kind, UInt16.toNat_toUInt64, UInt8.toNat_toUInt64, encUnsigned]
      rw [if_neg (by omega)]

/-- `marshalInt`'s fallback does what its type switch does, except on an unsigned value of
`2 ^ 31` or more: its bound is `math.MaxInt32`, where the switch checks `uint` and `uint64`
against `math.MaxUint32` and takes every `uint32`. -/
theorem marshalInt_named {v : GoValue} (hk : v.kind ≠ .other)
    (hu : ∀ u, v.kind = .unsigned u → u.toNat < 2 ^ 31) :
    marshalInt (.named v) = marshalInt (.plain v) := by
  cases v with
  | unset | nil | bigInt | string => exact absurd rfl hk
  | int x | int64 x =>
      simp only [marshalInt, marshalIntReflect, reflectNarrow, MarshalArg.value, GoValue.kind]
  | uint x | uint64 x =>
      have := hu x rfl
      simp only [marshalInt, marshalIntReflect, reflectNarrow, MarshalArg.value, GoValue.kind,
        encUnsigned]
      rw [if_neg (by omega), if_neg (by omega)]
  | int32 x =>
      have := x.le_toInt
      have := x.toInt_lt
      simp only [marshalInt, marshalIntReflect, reflectNarrow, MarshalArg.value, GoValue.kind,
        Int32.toInt_toInt64, encSigned, intBytes, Int32.ofInt_toInt]
      rw [if_neg (by omega)]
  | int16 x | int8 x =>
      have := x.le_toInt
      have := x.toInt_lt
      simp only [marshalInt, marshalIntReflect, reflectNarrow, MarshalArg.value, GoValue.kind,
        Int16.toInt_toInt64, Int8.toInt_toInt64, encSigned]
      rw [if_neg (by omega)]
  | uint32 x | uint16 x | uint8 x =>
      have := hu x.toUInt64 rfl
      simp only [marshalInt, marshalIntReflect, reflectNarrow, MarshalArg.value, GoValue.kind,
        UInt32.toNat_toUInt64, UInt16.toNat_toUInt64, UInt8.toNat_toUInt64, encUnsigned] at this ⊢
      rw [if_neg (by omega)]

/-- `marshalBigInt`'s fallback does what its type switch does, except on a `uint64` above
`math.MaxInt64`, which the switch wraps and the fallback refuses. -/
theorem marshalBigIntArg_named {v : GoValue} (hk : v.kind ≠ .other)
    (hu : ∀ u, v = .uint64 u → u.toNat ≤ maxInt64) :
    marshalBigIntArg (.named v) = marshalBigIntArg (.plain v) := by
  cases v with
  | unset | nil | bigInt | string => exact absurd rfl hk
  | int x | int64 x | int32 x | int16 x | int8 x | uint x =>
      simp only [marshalBigIntArg, marshalBigInt, marshalBigIntReflect, GoValue.kind]
  | uint64 x =>
      simp only [marshalBigIntArg, marshalBigInt, marshalBigIntReflect, GoValue.kind]
      rw [if_neg (by have := hu x rfl; omega)]
  | uint32 x | uint16 x | uint8 x =>
      have := x.toNat_lt
      simp only [marshalBigIntArg, marshalBigInt, marshalBigIntReflect, GoValue.kind,
        UInt32.toNat_toUInt64, UInt16.toNat_toUInt64, UInt8.toNat_toUInt64]
      rw [if_neg (by unfold maxInt64; omega)]

/-- **A named integer type is not marshalled as its underlying type.**  A `uint` in
`[2 ^ 31, 2 ^ 32)` or a `uint32` of `2 ^ 31` or more is written as an `int` by the type switch and
refused by the fallback; a `uint64` of `2 ^ 63` or more is written, wrapped, as a `bigint` by the
switch and refused by the fallback. -/
theorem marshal_named_diverges :
    (∀ u : UInt64, 2 ^ 31 ≤ u.toNat → u.toNat < 2 ^ 32 →
      marshalInt (.plain (.uint u)) = .ok (some (intBytes u.toNat)) ∧
        marshalInt (.named (.uint u)) = .error (.outOfRange .int u.toNat)) ∧
    (∀ u : UInt32, 2 ^ 31 ≤ u.toNat →
      marshalInt (.plain (.uint32 u)) = .ok (some (intBytes u.toNat)) ∧
        marshalInt (.named (.uint32 u)) = .error (.outOfRange .int u.toNat)) ∧
    (∀ u : UInt64, 2 ^ 63 ≤ u.toNat →
      marshalBigIntArg (.plain (.uint64 u)) = .ok (some (encBigInt u.toInt64)) ∧
        marshalBigIntArg (.named (.uint64 u)) = .error (.bigintOutOfRange u.toNat)) := by
  refine ⟨fun u hlo hhi => ⟨?_, ?_⟩, fun u hlo => ⟨rfl, ?_⟩, fun u hlo => ⟨rfl, ?_⟩⟩
  · simp only [marshalInt, encUnsigned]
    rw [if_neg (by omega)]
  · simp only [marshalInt, marshalIntReflect, reflectNarrow, MarshalArg.value, GoValue.kind,
      encUnsigned]
    rw [if_pos (by omega)]
  · simp only [marshalInt, marshalIntReflect, reflectNarrow, MarshalArg.value, GoValue.kind,
      encUnsigned, UInt32.toNat_toUInt64]
    rw [if_pos (by omega)]
  · simp only [marshalBigIntArg, marshalBigIntReflect, GoValue.kind]
    rw [if_pos (by unfold maxInt64; omega)]

/-- At `2 ^ 31`. -/
theorem marshal_named_uint_at_2pow31 :
    marshalInt (.plain (.uint 2147483648)) = .ok (some (intBytes 2147483648)) ∧
      marshalInt (.named (.uint 2147483648)) = .error (.outOfRange .int 2147483648) :=
  marshal_named_diverges.1 2147483648 (by decide) (by decide)


/-! ### What the marshallers accept -/

/-- A value in the signed range of `w` bits fits `w` bits. -/
theorem IntKind.InRange.fitsIn {k : IntKind} {w : Nat} (h : k.InRange w) : k.FitsIn w := by
  obtain ⟨hk, hlo, hhi⟩ := h
  cases k with
  | signed v => exact ⟨hlo, hhi⟩
  | unsigned v =>
    have hpow : (2 : Int) ^ (w - 1) ≤ 2 ^ w := pow_le_pow_right₀ (by norm_num) (Nat.sub_le w 1)
    have hlt : (v.toNat : Int) < 2 ^ w := lt_of_lt_of_le hhi hpow
    exact_mod_cast hlt
  | other => exact absurd rfl hk

/-- `marshalTinyInt`'s type switch writes every integer that fits eight bits, an unsigned one up
to `2 ^ 8` included. -/
theorem marshalTinyInt_of_fits {v : GoValue} (hfit : v.kind.FitsIn 8) :
    marshalTinyInt (.plain v) = .ok (some (tinyBytes v.kind.toInt)) := by
  cases v with
  | unset | nil | bigInt | string => exact hfit.elim
  | int x | int64 x | int32 x | int16 x =>
      simp only [GoValue.kind, IntKind.FitsIn, IntKind.toInt, Int32.toInt_toInt64,
        Int16.toInt_toInt64] at hfit ⊢
      simp only [marshalTinyInt, encSigned]
      rw [if_neg (by omega)]
  | uint x | uint64 x | uint32 x | uint16 x =>
      simp only [GoValue.kind, IntKind.FitsIn, IntKind.toInt, UInt32.toNat_toUInt64,
        UInt16.toNat_toUInt64] at hfit ⊢
      simp only [marshalTinyInt, encUnsigned]
      rw [if_neg (by omega)]
  | int8 x => simp [marshalTinyInt, GoValue.kind, IntKind.toInt]
  | uint8 x => simp [marshalTinyInt, GoValue.kind, IntKind.toInt]

/-- `marshalSmallInt`'s type switch writes every integer that fits sixteen bits. -/
theorem marshalSmallInt_of_fits {v : GoValue} (hfit : v.kind.FitsIn 16) :
    marshalSmallInt (.plain v) = .ok (some (smallBytes v.kind.toInt)) := by
  cases v with
  | unset | nil | bigInt | string => exact hfit.elim
  | int x | int64 x | int32 x =>
      simp only [GoValue.kind, IntKind.FitsIn, IntKind.toInt, Int32.toInt_toInt64] at hfit ⊢
      simp only [marshalSmallInt, encSigned]
      rw [if_neg (by omega)]
  | uint x | uint64 x | uint32 x =>
      simp only [GoValue.kind, IntKind.FitsIn, IntKind.toInt, UInt32.toNat_toUInt64] at hfit ⊢
      simp only [marshalSmallInt, encUnsigned]
      rw [if_neg (by omega)]
  | int16 x => simp [marshalSmallInt, GoValue.kind, IntKind.toInt, smallBytes]
  | int8 x => simp [marshalSmallInt, GoValue.kind, IntKind.toInt]
  | uint16 x => simp [marshalSmallInt, GoValue.kind, IntKind.toInt]
  | uint8 x => simp [marshalSmallInt, GoValue.kind, IntKind.toInt]

/-- `marshalInt`'s type switch writes every integer that fits thirty-two bits. -/
theorem marshalInt_of_fits {v : GoValue} (hfit : v.kind.FitsIn 32) :
    marshalInt (.plain v) = .ok (some (intBytes v.kind.toInt)) := by
  cases v with
  | unset | nil | bigInt | string => exact hfit.elim
  | int x | int64 x =>
      simp only [GoValue.kind, IntKind.FitsIn, IntKind.toInt] at hfit ⊢
      simp only [marshalInt, encSigned]
      rw [if_neg (by omega)]
  | uint x | uint64 x =>
      simp only [GoValue.kind, IntKind.FitsIn, IntKind.toInt] at hfit ⊢
      simp only [marshalInt, encUnsigned]
      rw [if_neg (by omega)]
  | int32 x => simp [marshalInt, GoValue.kind, IntKind.toInt, intBytes]
  | int16 x => simp [marshalInt, GoValue.kind, IntKind.toInt]
  | int8 x => simp [marshalInt, GoValue.kind, IntKind.toInt]
  | uint32 x => simp [marshalInt, GoValue.kind, IntKind.toInt]
  | uint16 x => simp [marshalInt, GoValue.kind, IntKind.toInt]
  | uint8 x => simp [marshalInt, GoValue.kind, IntKind.toInt]

/-- `marshalBigInt`'s type switch writes every integer of the signed 64-bit range. -/
theorem marshalBigInt_of_inRange {v : GoValue} (hr : v.kind.InRange 64) :
    marshalBigIntArg (.plain v) = .ok (some (encBigInt (Int64.ofInt v.kind.toInt))) := by
  obtain ⟨hk, -, hhi⟩ := hr
  cases v with
  | unset | nil | bigInt | string => exact absurd rfl hk
  | int x | int64 x | int32 x | int16 x | int8 x =>
      simp [marshalBigIntArg, marshalBigInt, GoValue.kind, IntKind.toInt]
  | uint64 x | uint32 x | uint16 x | uint8 x =>
      simp [marshalBigIntArg, marshalBigInt, GoValue.kind, IntKind.toInt, toInt64_eq_ofInt]
  | uint x =>
      simp only [GoValue.kind, IntKind.toInt] at hhi ⊢
      simp only [marshalBigIntArg, marshalBigInt]
      rw [if_neg (by unfold maxInt64; omega), toInt64_eq_ofInt]

/-- **`Marshal` accepts every value in the CQL type's range**, of a predeclared or a named Go
type: the type switch and the fallback check bounds that hold of it. -/
theorem marshal_accepts_inRange {v : GoValue} (named : Bool) :
    (v.kind.InRange 8 → marshalTinyInt (.of named v) = .ok (some (tinyBytes v.kind.toInt))) ∧
    (v.kind.InRange 16 → marshalSmallInt (.of named v) = .ok (some (smallBytes v.kind.toInt))) ∧
    (v.kind.InRange 32 → marshalInt (.of named v) = .ok (some (intBytes v.kind.toInt))) ∧
    (v.kind.InRange 64 →
      marshalBigIntArg (.of named v) = .ok (some (encBigInt (Int64.ofInt v.kind.toInt)))) := by
  -- a named type goes to the fallback, which agrees with the switch within the range
  have hof : ∀ {α : Type} (f : MarshalArg → α), f (.named v) = f (.plain v) → f (.of named v) = f (.plain v) :=
    fun f h => by cases named <;> simp [MarshalArg.of, h]
  refine ⟨fun hr => ?_, fun hr => ?_, fun hr => ?_, fun hr => ?_⟩
  · rw [hof _ (marshalTinyInt_named hr.1)]
    exact marshalTinyInt_of_fits hr.fitsIn
  · rw [hof _ (marshalSmallInt_named hr.1)]
    exact marshalSmallInt_of_fits hr.fitsIn
  · have hu : ∀ u, v.kind = .unsigned u → u.toNat < 2 ^ 31 := by
      intro u hu
      have h := hr.2.2
      simp only [hu, IntKind.toInt, Nat.reduceSub] at h
      omega
    rw [hof _ (marshalInt_named hr.1 hu)]
    exact marshalInt_of_fits hr.fitsIn
  · have hu : ∀ u, v = .uint64 u → u.toNat ≤ maxInt64 := by
      rintro u rfl
      have h := hr.2.2
      simp only [GoValue.kind, IntKind.toInt] at h
      unfold maxInt64
      omega
    rw [hof _ (marshalBigIntArg_named hr.1 hu)]
    exact marshalBigInt_of_inRange hr

/-! ### Reading an integer back -/

/-- The four widths, with the type each belongs to. -/
theorem CqlType.intWidth_cases (typ : CqlType) :
    (typ = .tinyInt ∧ typ.intWidth = 8) ∨ (typ = .smallInt ∧ typ.intWidth = 16) ∨
      (typ = .int ∧ typ.intWidth = 32) ∨
      (typ ≠ .tinyInt ∧ typ ≠ .smallInt ∧ typ ≠ .int ∧ typ.intWidth = 64) := by
  unfold CqlType.intWidth
  by_cases h₁ : typ = .tinyInt
  · exact .inl ⟨h₁, if_pos h₁⟩
  by_cases h₂ : typ = .smallInt
  · exact .inr (.inl ⟨h₂, by rw [if_neg h₁, if_pos h₂]⟩)
  by_cases h₃ : typ = .int
  · exact .inr (.inr (.inl ⟨h₃, by rw [if_neg h₁, if_neg h₂, if_pos h₃]⟩))
  · exact .inr (.inr (.inr ⟨h₁, h₂, h₃, by rw [if_neg h₁, if_neg h₂, if_neg h₃]⟩))

theorem CqlType.intWidth_bounds (typ : CqlType) : 8 ≤ typ.intWidth ∧ typ.intWidth ≤ 64 := by
  rcases typ.intWidth_cases with ⟨-, h⟩ | ⟨-, h⟩ | ⟨-, h⟩ | ⟨-, -, -, h⟩ <;> omega

/-- A signed value that fits is read back as itself. -/
theorem toInt_of_fits_signed {y x : Int64} {w : Nat} (hw : 0 < w)
    (hfit : (IntKind.signed y).FitsIn w) (hx : x.toInt = y.toInt.bmod (2 ^ w)) :
    x.toInt = y.toInt := by
  obtain ⟨hlo, hhi⟩ := hfit
  obtain ⟨k, rfl⟩ : ∃ k, w = k + 1 := ⟨w - 1, by omega⟩
  rw [hx]
  exact Go.bmod_two_pow_succ hlo hhi

/-- A value of an unsigned type that fits `w` bits, sign-extended from them, is the value again
when it is below `2 ^ (w - 1)`. -/
theorem toInt_of_fits_lt {x : Int64} {n w : Nat} (hw : 0 < w) (hn : n < 2 ^ (w - 1))
    (hx : x.toInt = (n : Int).bmod (2 ^ w)) : x.toInt = n := by
  obtain ⟨k, rfl⟩ : ∃ k, w = k + 1 := ⟨w - 1, by omega⟩
  have hn' : (n : Int) < 2 ^ k := by simp only [Nat.add_sub_cancel] at hn; exact_mod_cast hn
  have hP : (0 : Int) < 2 ^ k := pow_pos (by norm_num) k
  rw [hx]
  exact Go.bmod_two_pow_succ (by omega) hn'

/-- The mask `2 ^ w - 1` keeps the low `w` bits of the word. -/
theorem toUInt64_and_mask {x : Int64} {y : UInt64} {w : Nat} {m : UInt64}
    (hm : m.toNat = 2 ^ w - 1) (hN : x.toUInt64.toNat % 2 ^ w = y.toNat) :
    x.toUInt64 &&& m = y := by
  apply UInt64.toNat_inj.mp
  rw [UInt64.toNat_and, hm, Nat.and_two_pow_sub_one_eq_mod, hN]

theorem toUInt32_and_mask {x : Int64} {y : UInt32} {w : Nat} (hw : w ≤ 32) {m : UInt32}
    (hm : m.toNat = 2 ^ w - 1) (hN : x.toUInt64.toNat % 2 ^ w = y.toNat) :
    x.toUInt64.toUInt32 &&& m = y := by
  apply UInt32.toNat_inj.mp
  rw [UInt32.toNat_and, hm, Nat.and_two_pow_sub_one_eq_mod, UInt64.toNat_toUInt32,
    Nat.mod_mod_of_dvd _ (pow_dvd_pow 2 hw), hN]

theorem toUInt16_and_mask {x : Int64} {y : UInt16} {w : Nat} (hw : w ≤ 16) {m : UInt16}
    (hm : m.toNat = 2 ^ w - 1) (hN : x.toUInt64.toNat % 2 ^ w = y.toNat) :
    x.toUInt64.toUInt16 &&& m = y := by
  apply UInt16.toNat_inj.mp
  rw [UInt16.toNat_and, hm, Nat.and_two_pow_sub_one_eq_mod, UInt64.toNat_toUInt16,
    Nat.mod_mod_of_dvd _ (pow_dvd_pow 2 hw), hN]

theorem toUInt8_and_mask {x : Int64} {y : UInt8} {w : Nat} (hw : w ≤ 8) {m : UInt8}
    (hm : m.toNat = 2 ^ w - 1) (hN : x.toUInt64.toNat % 2 ^ w = y.toNat) :
    x.toUInt64.toUInt8 &&& m = y := by
  apply UInt8.toNat_inj.mp
  rw [UInt8.toNat_and, hm, Nat.and_two_pow_sub_one_eq_mod, UInt64.toNat_toUInt8,
    Nat.mod_mod_of_dvd _ (pow_dvd_pow 2 hw), hN]

theorem unmarshalIntlike_fits (typ : CqlType) {v : GoValue} {d : IntDest}
    (hd : v.intDest = some d) (hfit : v.kind.FitsIn typ.intWidth) {x : Int64}
    (hx : x.toInt = v.kind.toInt.bmod (2 ^ typ.intWidth)) (data : List UInt8) :
    unmarshalIntlike typ x data d = .ok v := by
  obtain ⟨hw8, hw64⟩ := typ.intWidth_bounds
  cases v with
  | unset | nil | bigInt | string => cases hd
  | int y | int64 y =>
      cases hd
      have h := toInt_of_fits_signed (by omega) hfit hx
      simp only [unmarshalIntlike, Int64.toInt_inj.mp h]
  | int32 y =>
      cases hd
      have h := toInt_of_fits_signed (by omega) hfit hx
      rw [Int32.toInt_toInt64] at h
      have hlo := y.le_toInt
      have hhi := y.toInt_lt
      simp only [unmarshalIntlike]
      rw [if_neg (by omega)]
      congr 2
      apply Int32.toInt_inj.mp
      rw [Int64.toInt_toInt32, h]
      exact Go.bmod_two_pow_succ (by omega) (by omega)
  | int16 y =>
      cases hd
      have h := toInt_of_fits_signed (by omega) hfit hx
      rw [Int16.toInt_toInt64] at h
      have hlo := y.le_toInt
      have hhi := y.toInt_lt
      simp only [unmarshalIntlike]
      rw [if_neg (by omega)]
      congr 2
      apply Int16.toInt_inj.mp
      rw [Int64.toInt_toInt16, h]
      exact Go.bmod_two_pow_succ (by omega) (by omega)
  | int8 y =>
      cases hd
      have h := toInt_of_fits_signed (by omega) hfit hx
      rw [Int8.toInt_toInt64] at h
      have hlo := y.le_toInt
      have hhi := y.toInt_lt
      simp only [unmarshalIntlike]
      rw [if_neg (by omega)]
      congr 2
      apply Int8.toInt_inj.mp
      rw [Int64.toInt_toInt8, h]
      exact Go.bmod_two_pow_succ (by omega) (by omega)
  | uint y | uint64 y =>
      cases hd
      have hN := Go.int64_toNat_toUInt64_emod hw64 hfit hx
      -- `tinyint`, `smallint` and `int` mask to their width; every other type keeps 64 bits
      rcases typ.intWidth_cases with ⟨rfl, hw⟩ | ⟨rfl, hw⟩ | ⟨rfl, hw⟩ | ⟨h₁, h₂, h₃, hw⟩
      · rw [hw] at hN
        simp +decide only [unmarshalIntlike, ↓reduceIte]
        rw [toUInt64_and_mask (m := 0xFF) rfl hN]
      · rw [hw] at hN
        simp +decide only [unmarshalIntlike, ↓reduceIte]
        rw [toUInt64_and_mask (m := 0xFFFF) rfl hN]
      · rw [hw] at hN
        simp +decide only [unmarshalIntlike, ↓reduceIte]
        rw [toUInt64_and_mask (m := 0xFFFFFFFF) rfl hN]
      · rw [hw] at hN
        have hy : x.toUInt64 = y := UInt64.toNat_inj.mp (by have := x.toUInt64.toNat_lt; omega)
        simp only [unmarshalIntlike, h₁, h₂, h₃, ↓reduceIte, hy]
  | uint32 y =>
      cases hd
      simp only [GoValue.kind, IntKind.toInt, IntKind.FitsIn, UInt32.toNat_toUInt64] at hfit hx
      have hN := Go.int64_toNat_toUInt64_emod hw64 hfit hx
      have hn := y.toNat_lt
      rcases typ.intWidth_cases with ⟨rfl, hw⟩ | ⟨rfl, hw⟩ | ⟨rfl, hw⟩ | ⟨h₁, h₂, h₃, hw⟩
      · rw [hw] at hN
        simp +decide only [unmarshalIntlike, ↓reduceIte]
        rw [toUInt32_and_mask (m := 0xFF) (by omega) rfl hN]
      · rw [hw] at hN
        simp +decide only [unmarshalIntlike, ↓reduceIte]
        rw [toUInt32_and_mask (m := 0xFFFF) (by omega) rfl hN]
      · rw [hw] at hN
        simp +decide only [unmarshalIntlike, ↓reduceIte]
        rw [toUInt32_and_mask (m := 0xFFFFFFFF) (by omega) rfl hN]
      · -- read back from 64 bits, the value passes the range check
        rw [hw] at hN hx
        have h := toInt_of_fits_lt (by omega) (by omega) hx
        simp only [unmarshalIntlike, h₁, h₂, h₃, ↓reduceIte]
        rw [if_neg (by omega), toUInt32_and_mask (w := 32) (y := y) (m := 0xFFFFFFFF) le_rfl rfl (by omega)]
  | uint16 y =>
      cases hd
      simp only [GoValue.kind, IntKind.toInt, IntKind.FitsIn, UInt16.toNat_toUInt64] at hfit hx
      have hN := Go.int64_toNat_toUInt64_emod hw64 hfit hx
      have hn := y.toNat_lt
      rcases typ.intWidth_cases with ⟨rfl, hw⟩ | ⟨rfl, hw⟩ | ⟨rfl, hw⟩ | ⟨h₁, h₂, h₃, hw⟩
      · rw [hw] at hN
        simp +decide only [unmarshalIntlike, ↓reduceIte]
        rw [toUInt16_and_mask (m := 0xFF) (by omega) rfl hN]
      · rw [hw] at hN
        simp +decide only [unmarshalIntlike, ↓reduceIte]
        rw [toUInt16_and_mask (m := 0xFFFF) (by omega) rfl hN]
      -- read back from 32 or 64 bits, the value passes the range check
      · rw [hw] at hN hx
        have h := toInt_of_fits_lt (by omega) (by omega) hx
        simp +decide only [unmarshalIntlike, ↓reduceIte]
        rw [if_neg (by omega), toUInt16_and_mask (w := 16) (y := y) (m := 0xFFFF) le_rfl rfl (by omega)]
      · rw [hw] at hN hx
        have h := toInt_of_fits_lt (by omega) (by omega) hx
        simp only [unmarshalIntlike, h₁, h₂, ↓reduceIte]
        rw [if_neg (by omega), toUInt16_and_mask (w := 16) (y := y) (m := 0xFFFF) le_rfl rfl (by omega)]
  | uint8 y =>
      cases hd
      simp only [GoValue.kind, IntKind.toInt, IntKind.FitsIn, UInt8.toNat_toUInt64] at hfit hx
      have hN := Go.int64_toNat_toUInt64_emod hw64 hfit hx
      have hn := y.toNat_lt
      rcases typ.intWidth_cases with ⟨rfl, hw⟩ | ⟨rfl, hw⟩ | ⟨rfl, hw⟩ | ⟨h₁, h₂, h₃, hw⟩
      · -- `tinyint` stores the low byte unchecked
        rw [hw] at hN
        simp +decide only [unmarshalIntlike, false_and, ↓reduceIte]
        rw [toUInt8_and_mask (m := 0xFF) le_rfl rfl hN]
      -- every other type range-checks the value read back from 16, 32 or 64 bits
      · rw [hw] at hN hx
        have h := toInt_of_fits_lt (by omega) (by omega) hx
        simp +decide only [unmarshalIntlike, true_and]
        rw [if_neg (by omega), toUInt8_and_mask (w := 8) (y := y) (m := 0xFF) le_rfl rfl (by omega)]
      · rw [hw] at hN hx
        have h := toInt_of_fits_lt (by omega) (by omega) hx
        simp +decide only [unmarshalIntlike, true_and]
        rw [if_neg (by omega), toUInt8_and_mask (w := 8) (y := y) (m := 0xFF) le_rfl rfl (by omega)]
      · rw [hw] at hN hx
        have h := toInt_of_fits_lt (by omega) (by omega) hx
        simp only [unmarshalIntlike, ne_eq, h₁, not_false_eq_true, true_and]
        rw [if_neg (by omega), toUInt8_and_mask (w := 8) (y := y) (m := 0xFF) le_rfl rfl (by omega)]
/-- The `reflect` path stores what the type switch stores: for every integer kind the two make
the same checks and store the same value, with their own messages. -/
theorem unmarshalIntlikeReflect_ok_iff (typ : CqlType) (x : Int64) (data : List UInt8)
    {d : IntDest} (hd : d ≠ .bigInt) (hs : d ≠ .string) (v : GoValue) :
    unmarshalIntlikeReflect typ x d = .ok v ↔ unmarshalIntlike typ x data d = .ok v := by
  cases d with
  | bigInt => exact absurd rfl hd
  | string => exact absurd rfl hs
  | int | int64 => simp only [unmarshalIntlikeReflect, unmarshalIntlike, Except.ok.injEq]
  | int32 | int16 | int8 | uint | uint64 =>
      simp only [unmarshalIntlikeReflect, unmarshalIntlike]
      split_ifs <;> simp
  | uint32 | uint16 | uint8 =>
      simp only [unmarshalIntlikeReflect, unmarshalIntlike, UInt64.toUInt32_and, UInt64.toUInt16_and,
        UInt64.toUInt8_and]
      split_ifs <;> simp
/-- Through either path, `unmarshalIntlike` reads back an integer value that fits the type's
width. -/
theorem unmarshalIntlikeArg_fits (typ : CqlType) {v : GoValue} {d : IntDest}
    (hd : v.intDest = some d) (hfit : v.kind.FitsIn typ.intWidth) {x : Int64}
    (hx : x.toInt = v.kind.toInt.bmod (2 ^ typ.intWidth)) (data : List UInt8) (named : Bool) :
    unmarshalIntlikeArg typ x data (.of named d) = .ok v := by
  have h := unmarshalIntlike_fits typ hd hfit hx data
  cases named with
  | false =>
      show (unmarshalIntlike typ x data d).mapError _ = _
      rw [h]
      rfl
  | true =>
      obtain ⟨hb, hs⟩ := intDest_ne hd
      show (unmarshalIntlikeReflect typ x d).mapError _ = _
      rw [(unmarshalIntlikeReflect_ok_iff typ x data hb hs v).mpr h]
      rfl

/-! ### The decoders -/

theorem toInt_decTiny_tinyBytes (m : Int) : (decTiny (tinyBytes m)).toInt = m.bmod (2 ^ 8) := by
  have hs : Int8.size = 2 ^ 8 := rfl
  have hb := goByte_toNat m
  have hv : (BigEndian.val (tinyBytes m) : Int) = m % 2 ^ 8 := by
    simp only [tinyBytes, BigEndian.val_cons, BigEndian.val_nil, List.length_nil, pow_zero, mul_one, add_zero]
    rw [hb]; norm_num
  simp only [decTiny, tinyBytes, List.length_singleton, ne_eq, not_true_eq_false, ↓reduceIte]
  rw [Int8.toInt_ofNat', hs, ← tinyBytes, hv, emod_two_pow_bmod]

theorem val_encShort (x : Int16) : (BigEndian.val (encShort x) : Int) = x.toInt % 2 ^ 16 := by
  simp only [encShort, BigEndian.val_cons, BigEndian.val_nil, List.length_cons, List.length_nil]
  push_cast
  simp only [goByte_toNat, Int.shiftRight_eq_div_pow]
  generalize x.toInt = z
  norm_num
  omega

theorem toInt_decShort_smallBytes (m : Int) : (decShort (smallBytes m)).toInt = m.bmod (2 ^ 16) := by
  have hs : Int16.size = 2 ^ 16 := rfl
  have hv := val_encShort (Int16.ofInt m)
  have hl : (encShort (Int16.ofInt m)).length = 2 := rfl
  simp only [decShort, smallBytes, hl, ne_eq, not_true_eq_false, ↓reduceIte]
  rw [Int16.toInt_ofNat', hs, hv, emod_two_pow_bmod, Int16.toInt_ofInt, hs, Int.bmod_bmod]

theorem toInt_decInt_intBytes (m : Int) : (decInt (intBytes m)).toInt = m.bmod (2 ^ 32) := by
  have hs : Int32.size = 2 ^ 32 := rfl
  have hv := val_appendInt (Int32.ofInt m).toInt
  have hl : (encInt (Int32.ofInt m)).length = 4 := rfl
  simp only [decInt, intBytes, hl, ne_eq, not_true_eq_false, ↓reduceIte]
  rw [Int32.toInt_ofNat', hs, encInt_eq_appendInt, hv, emod_two_pow_bmod, Int32.toInt_ofInt, hs,
    Int.bmod_bmod]
/-! ### The round trip -/

theorem CqlType.intWidth_tinyInt : CqlType.tinyInt.intWidth = 8 := by decide
theorem CqlType.intWidth_smallInt : CqlType.smallInt.intWidth = 16 := by decide
theorem CqlType.intWidth_int : CqlType.int.intWidth = 32 := by decide
theorem CqlType.intWidth_bigInt : CqlType.bigInt.intWidth = 64 := by decide
theorem CqlType.intWidth_counter : CqlType.counter.intWidth = 64 := by decide
theorem CqlType.intWidth_varint : CqlType.varint.intWidth = 64 := by decide

/-- `decBigInt` reads the eight bytes of `encBigInt` back. -/
theorem decBigInt_encBigInt (x : Int64) : decBigInt (encBigInt x) = x := by
  simp only [decBigInt, show (encBigInt x).length = 8 from rfl, ne_eq, not_true_eq_false,
    ↓reduceIte, bytesToInt64_encBigInt]

theorem tinyInt_roundTrip {v : GoValue} {d : IntDest} (hd : v.intDest = some d) (named : Bool)
    {bs : GoBytes} (h : marshalTinyInt (.of named v) = .ok bs) :
    unmarshalTinyInt .tinyInt (bs.getD []) (.of named d) = .ok v := by
  obtain ⟨rfl, hfit⟩ := marshalTinyInt_ok h (by rw [MarshalArg.value_of]; exact kind_ne_other hd)
  rw [MarshalArg.value_of] at hfit ⊢
  refine unmarshalIntlikeArg_fits .tinyInt hd (by rwa [CqlType.intWidth_tinyInt]) ?_ _ named
  rw [Int8.toInt_toInt64, Option.getD_some, toInt_decTiny_tinyBytes, CqlType.intWidth_tinyInt]

theorem smallInt_roundTrip {v : GoValue} {d : IntDest} (hd : v.intDest = some d) (named : Bool)
    {bs : GoBytes} (h : marshalSmallInt (.of named v) = .ok bs) :
    unmarshalSmallInt .smallInt (bs.getD []) (.of named d) = .ok v := by
  obtain ⟨rfl, hfit⟩ := marshalSmallInt_ok h (by rw [MarshalArg.value_of]; exact kind_ne_other hd)
  rw [MarshalArg.value_of] at hfit ⊢
  refine unmarshalIntlikeArg_fits .smallInt hd (by rwa [CqlType.intWidth_smallInt]) ?_ _ named
  rw [Int16.toInt_toInt64, Option.getD_some, toInt_decShort_smallBytes, CqlType.intWidth_smallInt]

theorem int_roundTrip {v : GoValue} {d : IntDest} (hd : v.intDest = some d) (named : Bool)
    {bs : GoBytes} (h : marshalInt (.of named v) = .ok bs) :
    unmarshalInt .int (bs.getD []) (.of named d) = .ok v := by
  obtain ⟨rfl, hfit⟩ := marshalInt_ok h (by rw [MarshalArg.value_of]; exact kind_ne_other hd)
  rw [MarshalArg.value_of] at hfit ⊢
  refine unmarshalIntlikeArg_fits .int hd (by rwa [CqlType.intWidth_int]) ?_ _ named
  rw [Int32.toInt_toInt64, Option.getD_some, toInt_decInt_intBytes, CqlType.intWidth_int]

/-- At `bigint` and `counter`, both read back from 64 bits. -/
theorem bigInt_roundTrip {typ : CqlType} (htyp : typ.intWidth = 64) {v : GoValue} {d : IntDest}
    (hd : v.intDest = some d) (named : Bool) {bs : GoBytes}
    (h : marshalBigIntArg (.of named v) = .ok bs) :
    unmarshalBigIntArg typ (bs.getD []) (.of named d) = .ok v := by
  have hs : Int64.size = 2 ^ 64 := rfl
  obtain ⟨rfl, hfit⟩ :=
    marshalBigIntArg_ok h (by rw [MarshalArg.value_of]; exact kind_ne_other hd)
  rw [MarshalArg.value_of] at hfit ⊢
  refine unmarshalIntlikeArg_fits typ hd (by rwa [htyp]) ?_ _ named
  rw [Option.getD_some, decBigInt_encBigInt, Int64.toInt_ofInt, hs, htyp]

/-- Below the nine-byte `uint64` case, `marshalVarint` is `marshalBigInt` trimmed. -/
theorem marshalVarintArg_eq_map {a : MarshalArg} (hs : a ≠ .plain .unset)
    (hu : ∀ u, a ≠ .plain (.uint64 u)) :
    marshalVarintArg a = (marshalBigIntArg a).map (Option.map trimLeading) := by
  rcases a with v | v
  · cases v
    case unset => exact absurd rfl hs
    case uint64 u => exact absurd rfl (hu u)
    all_goals rfl
  · rfl

/-- The eight bytes of `encBigInt` trim to the minimal string of the value. -/
theorem trimLeading_encBigInt (x : Int64) : trimLeading (encBigInt x) = encBigInt2C x.toInt := by
  rw [← sval_encBigInt x]
  exact trimLeading_eq_encBigInt2C _ (encBigInt x).tail

theorem varint_roundTrip {v : GoValue} {d : IntDest} (hd : v.intDest = some d) (named : Bool)
    {bs : GoBytes} (h : marshalVarintArg (.of named v) = .ok bs) :
    unmarshalVarintArg .varint (bs.getD []) (.of named d) = .ok v := by
  by_cases hu : named = false ∧ ∃ u, v = .uint64 u
  · -- a `uint64` above `math.MaxInt64` takes the nine-byte path on both sides
    obtain ⟨rfl, u, rfl⟩ := hu
    cases hd
    have h' : marshalVarint (.uint64 u) = .ok bs := h
    rw [marshalVarint_uint64] at h'
    cases h'
    show (unmarshalVarint .varint _ .uint64).mapError _ = _
    rw [Option.getD_some, unmarshalVarint_uint64]
    rfl
  · -- every other integer goes through `marshalBigInt` and comes back through `unmarshalIntlike`
    have hmap := marshalVarintArg_eq_map (a := .of named v)
      (by
        cases named with
        | false => rintro ⟨⟩; cases hd
        | true => rintro ⟨⟩)
      (by
        cases named with
        | false => rintro u ⟨⟩; exact hu ⟨rfl, u, rfl⟩
        | true => rintro u ⟨⟩)
    rw [hmap] at h
    obtain ⟨bs', hbig, rfl⟩ : ∃ bs', marshalBigIntArg (.of named v) = .ok bs' ∧
        bs = bs'.map trimLeading := by
      cases hb : marshalBigIntArg (.of named v) with
      | error e => rw [hb] at h; cases h
      | ok bs' => rw [hb] at h; cases h; exact ⟨bs', rfl, rfl⟩
    obtain ⟨rfl, hfit⟩ :=
      marshalBigIntArg_ok hbig (by rw [MarshalArg.value_of]; exact kind_ne_other hd)
    rw [MarshalArg.value_of] at hfit ⊢
    set x := Int64.ofInt v.kind.toInt with hxdef
    have hs : Int64.size = 2 ^ 64 := rfl
    have hx : x.toInt = v.kind.toInt.bmod (2 ^ CqlType.varint.intWidth) := by
      rw [hxdef, Int64.toInt_ofInt, hs, CqlType.intWidth_varint]
    have hlen := length_encBigInt2C_int64 x
    have hfit' : v.kind.FitsIn CqlType.varint.intWidth := by rwa [CqlType.intWidth_varint]
    simp only [Option.map_some, Option.getD_some, trimLeading_encBigInt]
    cases named with
    | false =>
        have hne : d ≠ .uint64 := by
          rintro rfl
          cases v <;> cases hd
          exact hu ⟨rfl, _, rfl⟩
        obtain ⟨hb, -⟩ := intDest_ne hd
        show (unmarshalVarint .varint _ d).mapError _ = _
        rw [unmarshalVarint, if_neg hb, if_neg (fun h => hne h.1), if_neg (by omega),
          varintInt64_encBigInt2C, unmarshalIntlike_fits .varint hd hfit' hx]
        rfl
    | true =>
        show (if 8 < _ then _ else _) = _
        rw [if_neg (by omega), varintInt64_encBigInt2C]
        exact unmarshalIntlikeArg_fits .varint hd hfit' hx _ true

/-- `marshalVarint` accepts every value of the signed 64-bit range too: below the `uint64` case
it is `marshalBigInt` trimmed. -/
theorem marshalVarintArg_of_inRange {v : GoValue} (named : Bool) (hr : v.kind.InRange 64) :
    ∃ bs, marshalVarintArg (.of named v) = .ok (some bs) := by
  by_cases hu : ∃ u, v = .uint64 u ∧ named = false
  · obtain ⟨u, rfl, rfl⟩ := hu
    exact ⟨_, rfl⟩
  · have hs : MarshalArg.of named v ≠ .plain .unset := by
      cases named
      · rintro ⟨⟩
        exact hr.1 rfl
      · rintro ⟨⟩
    have hu' : ∀ u, MarshalArg.of named v ≠ .plain (.uint64 u) := by
      intro u h
      cases named
      · cases h
        exact hu ⟨u, rfl, rfl⟩
      · cases h
    rw [marshalVarintArg_eq_map hs hu', (marshal_accepts_inRange named).2.2.2 hr]
    exact ⟨_, rfl⟩

/-- **The type switch wraps unsigned values**: it takes an unsigned value of a predeclared type up
to `2 ^ 8`, `2 ^ 16` and `2 ^ 32` as a `tinyint`, `smallint` and `int`, and every `uint64` as a
`bigint`, and writes its bits, which the decoders read as the signed value of the same bits. -/
theorem marshal_wraps_unsigned {v : GoValue} {u : UInt64} (hu : v.kind = .unsigned u) :
    (u.toNat < 2 ^ 8 → marshalTinyInt (.plain v) = .ok (some (tinyBytes u.toNat)) ∧
      (decTiny (tinyBytes u.toNat)).toInt = (u.toNat : Int).bmod (2 ^ 8)) ∧
    (u.toNat < 2 ^ 16 → marshalSmallInt (.plain v) = .ok (some (smallBytes u.toNat)) ∧
      (decShort (smallBytes u.toNat)).toInt = (u.toNat : Int).bmod (2 ^ 16)) ∧
    (u.toNat < 2 ^ 32 → marshalInt (.plain v) = .ok (some (intBytes u.toNat)) ∧
      (decInt (intBytes u.toNat)).toInt = (u.toNat : Int).bmod (2 ^ 32)) ∧
    (v = .uint64 u → marshalBigIntArg (.plain v) = .ok (some (encBigInt u.toInt64)) ∧
      (decBigInt (encBigInt u.toInt64)).toInt = (u.toNat : Int).bmod (2 ^ 64)) := by
  have htoInt : v.kind.toInt = u.toNat := by rw [hu]; rfl
  refine ⟨fun h => ?_, fun h => ?_, fun h => ?_, ?_⟩
  · have hm := marshalTinyInt_of_fits (v := v) (by rw [hu]; exact h)
    rw [htoInt] at hm
    exact ⟨hm, toInt_decTiny_tinyBytes _⟩
  · have hm := marshalSmallInt_of_fits (v := v) (by rw [hu]; exact h)
    rw [htoInt] at hm
    exact ⟨hm, toInt_decShort_smallBytes _⟩
  · have hm := marshalInt_of_fits (v := v) (by rw [hu]; exact h)
    rw [htoInt] at hm
    exact ⟨hm, toInt_decInt_intBytes _⟩
  · rintro rfl
    cases hu
    have hs : Int64.size = 2 ^ 64 := rfl
    refine ⟨rfl, ?_⟩
    rw [decBigInt_encBigInt, toInt64_eq_ofInt, Int64.toInt_ofInt, hs]

/-- **Every integer comes back.**  For each of the six integer CQL types, every Go integer type,
predeclared or named, and every value `Marshal` accepts there, `Unmarshal` into a pointer to the
same type stores the value again: the decoders sign-extend from the type's width, and
`unmarshalIntlike` masks or range-checks it back, on the type switch and on the `reflect` path
alike.  `Marshal` accepts every value in the type's range, and the type switch also an unsigned
value up to the type's width, or any `uint64` for a `bigint`, which it writes wrapped into the
signed range. -/
theorem integer_roundTrip {v : GoValue} {d : IntDest} (hd : v.intDest = some d) (named : Bool) :
    ((∀ bs, marshalTinyInt (.of named v) = .ok bs →
        unmarshalTinyInt .tinyInt (bs.getD []) (.of named d) = .ok v) ∧
      (∀ bs, marshalSmallInt (.of named v) = .ok bs →
        unmarshalSmallInt .smallInt (bs.getD []) (.of named d) = .ok v) ∧
      (∀ bs, marshalInt (.of named v) = .ok bs →
        unmarshalInt .int (bs.getD []) (.of named d) = .ok v) ∧
      (∀ bs, marshalBigIntArg (.of named v) = .ok bs →
        unmarshalBigIntArg .bigInt (bs.getD []) (.of named d) = .ok v) ∧
      (∀ bs, marshalBigIntArg (.of named v) = .ok bs →
        unmarshalBigIntArg .counter (bs.getD []) (.of named d) = .ok v) ∧
      (∀ bs, marshalVarintArg (.of named v) = .ok bs →
        unmarshalVarintArg .varint (bs.getD []) (.of named d) = .ok v)) ∧
    ((v.kind.InRange 8 → ∃ bs, marshalTinyInt (.of named v) = .ok bs) ∧
      (v.kind.InRange 16 → ∃ bs, marshalSmallInt (.of named v) = .ok bs) ∧
      (v.kind.InRange 32 → ∃ bs, marshalInt (.of named v) = .ok bs) ∧
      (v.kind.InRange 64 → ∃ bs, marshalBigIntArg (.of named v) = .ok bs) ∧
      (v.kind.InRange 64 → ∃ bs, marshalVarintArg (.of named v) = .ok bs)) ∧
    (∀ u, v.kind = .unsigned u →
      (u.toNat < 2 ^ 8 → marshalTinyInt (.plain v) = .ok (some (tinyBytes u.toNat)) ∧
        (decTiny (tinyBytes u.toNat)).toInt = (u.toNat : Int).bmod (2 ^ 8)) ∧
      (u.toNat < 2 ^ 16 → marshalSmallInt (.plain v) = .ok (some (smallBytes u.toNat)) ∧
        (decShort (smallBytes u.toNat)).toInt = (u.toNat : Int).bmod (2 ^ 16)) ∧
      (u.toNat < 2 ^ 32 → marshalInt (.plain v) = .ok (some (intBytes u.toNat)) ∧
        (decInt (intBytes u.toNat)).toInt = (u.toNat : Int).bmod (2 ^ 32)) ∧
      (v = .uint64 u → marshalBigIntArg (.plain v) = .ok (some (encBigInt u.toInt64)) ∧
        (decBigInt (encBigInt u.toInt64)).toInt = (u.toNat : Int).bmod (2 ^ 64))) := by
  obtain ⟨htiny, hsmall, hint, hbig⟩ := marshal_accepts_inRange (v := v) named
  refine ⟨⟨fun _ h => tinyInt_roundTrip hd named h, fun _ h => smallInt_roundTrip hd named h,
      fun _ h => int_roundTrip hd named h, fun _ h => bigInt_roundTrip CqlType.intWidth_bigInt hd named h,
      fun _ h => bigInt_roundTrip CqlType.intWidth_counter hd named h,
      fun _ h => varint_roundTrip hd named h⟩,
    ⟨fun hr => ⟨_, htiny hr⟩, fun hr => ⟨_, hsmall hr⟩, fun hr => ⟨_, hint hr⟩,
      fun hr => ⟨_, hbig hr⟩, fun hr => ?_⟩,
    fun u hu => marshal_wraps_unsigned hu⟩
  -- the varint bytes are trimmed, so only their existence is carried over
  obtain ⟨bs, hbs⟩ := marshalVarintArg_of_inRange named hr
  exact ⟨_, hbs⟩

/-- `uint16(65535)` as a `smallint` and `uint64(2^64-1)` as a `bigint`: both are accepted,
written as -1, and read back. -/
theorem integer_roundTrip_wrapped :
    marshalSmallInt (.plain (.uint16 65535)) = .ok (some (smallBytes 65535)) ∧
      (decShort (smallBytes 65535)).toInt = -1 ∧
      unmarshalSmallInt .smallInt (smallBytes 65535) (.of false .uint16) = .ok (.uint16 65535) ∧
    marshalBigIntArg (.plain (.uint64 18446744073709551615)) =
        .ok (some (encBigInt (18446744073709551615 : UInt64).toInt64)) ∧
      (decBigInt (encBigInt (18446744073709551615 : UInt64).toInt64)).toInt = -1 ∧
      unmarshalBigIntArg .bigInt (encBigInt (18446744073709551615 : UInt64).toInt64) (.of false .uint64) =
        .ok (.uint64 18446744073709551615) := by
  have h16 := integer_roundTrip (v := .uint16 65535) rfl false
  have h64 := integer_roundTrip (v := .uint64 18446744073709551615) rfl false
  have hn16 : (UInt16.toUInt64 65535).toNat = 65535 := rfl
  have hn64 : (18446744073709551615 : UInt64).toNat = 18446744073709551615 := rfl
  obtain ⟨hm16, hw16⟩ := (h16.2.2 _ rfl).2.1 (by rw [hn16]; norm_num)
  obtain ⟨hm64, hw64⟩ := (h64.2.2 _ rfl).2.2.2 rfl
  have hu16 := h16.1.2.1 _ hm16
  have hu64 := h64.1.2.2.2.1 _ hm64
  simp only [hn16, hn64, Option.getD_some, Nat.cast_ofNat] at hm16 hw16 hu16 hw64 hu64
  refine ⟨hm16, ?_, hu16, hm64, ?_, hu64⟩
  · rw [hw16]
    norm_num [Int.bmod]
  · rw [hw64]
    norm_num [Int.bmod]

/-! ### Widths -/

/-- **A `big.Int` is written at its minimal width, also as a `bigint` or a `counter`.**  `Marshal`
sends both types to `marshalBigInt`, whose `big.Int` arm is the variable-width `encBigInt2C`, so
every value in `[-128, 128)` comes out as one byte where the type has eight. -/
theorem marshalBigInt_bigInt_width (n : Int) (hlo : -2 ^ 7 ≤ n) (hhi : n < 2 ^ 7) :
    marshalBigInt (.bigInt n) = .ok (some [goByte n]) := by
  have hval : (BigEndian.val [goByte n] : Int) = n % 256 ^ ([] : List UInt8).length.succ := by
    simp only [BigEndian.val_cons, BigEndian.val_nil, List.length_nil, pow_zero, mul_one,
      add_zero, goByte_toNat, Nat.succ_eq_add_one, zero_add, pow_one]
  have hs : BigEndian.sval [goByte n] = n :=
    BigEndian.sval_eq_of_emod (by norm_num; omega) (by norm_num; omega) hval
  have h1 : encBigInt2C n = [goByte n] :=
    BigEndian.minimal_unique (encBigInt2C_minimal n) trivial (by rw [sval_encBigInt2C, hs])
  simp only [marshalBigInt, h1]

/-- Zero is the one byte `0x00`. -/
theorem marshalBigInt_bigInt_zero : marshalBigInt (.bigInt 0) = .ok (some [goByte 0]) :=
  marshalBigInt_bigInt_width 0 (by norm_num) (by norm_num)

end Gocql
