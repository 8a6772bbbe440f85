import Gocql.Support.BigEndian
import Mathlib.Data.Nat.Size

/-!
# Marshal — the integer codecs

`marshal.go`'s integer layer: the fixed-width helpers `encBigInt`, `bytesToInt64` and
`bytesToUint64`, the variable-width `encBigInt2C` and `decBigInt2C`, `marshalBigInt` with its type
switch, and `unmarshalIntlike`, which stores a decoded `int64` through a pointer of any
predeclared integer type, masking or range-checking as the CQL type asks.

The model is of a 64-bit platform: Go's `int` and `uint` are 64 bits wide, so the source's
`^uint(0) == math.MaxUint32` branches never fire.  A Go value handed to a marshaller is a
`GoValue`, one constructor per arm of the type switches; a destination pointer is an `IntDest`,
and what `unmarshalIntlike` stores through it is again a `GoValue`.  A `[]byte` result is an
`Option (List UInt8)`: `none` is the nil slice, which encodes CQL null.
-/

namespace Gocql

/-! ### CQL types and Go values -/

/-- Go's `Type`, the CQL type code read from the wire. -/
structure CqlType where
  code : Nat
  deriving DecidableEq, Repr

namespace CqlType

def custom : CqlType := ⟨0x0000⟩
def ascii : CqlType := ⟨0x0001⟩
def bigInt : CqlType := ⟨0x0002⟩
def blob : CqlType := ⟨0x0003⟩
def boolean : CqlType := ⟨0x0004⟩
def counter : CqlType := ⟨0x0005⟩
def decimal : CqlType := ⟨0x0006⟩
def double : CqlType := ⟨0x0007⟩
def float : CqlType := ⟨0x0008⟩
def int : CqlType := ⟨0x0009⟩
def text : CqlType := ⟨0x000A⟩
def timestamp : CqlType := ⟨0x000B⟩
def uuid : CqlType := ⟨0x000C⟩
def varchar : CqlType := ⟨0x000D⟩
def varint : CqlType := ⟨0x000E⟩
def timeUUID : CqlType := ⟨0x000F⟩
def inet : CqlType := ⟨0x0010⟩
def date : CqlType := ⟨0x0011⟩
def time : CqlType := ⟨0x0012⟩
def smallInt : CqlType := ⟨0x0013⟩
def tinyInt : CqlType := ⟨0x0014⟩
def duration : CqlType := ⟨0x0015⟩
def list : CqlType := ⟨0x0020⟩
def map : CqlType := ⟨0x0021⟩
def set : CqlType := ⟨0x0022⟩
def udt : CqlType := ⟨0x0030⟩
def tuple : CqlType := ⟨0x0031⟩

end CqlType

/-- A Go `[]byte` as the codecs return it: `none` is the nil slice, CQL null. -/
abbrev GoBytes := Option (List UInt8)

/-- The Go values the integer marshallers switch on: `unsetColumn`, `nil`, the predeclared
integer types, `big.Int` and `string` (a byte string, as Go's strings are). -/
inductive GoValue where
  | unset
  | nil
  | int (v : Int64)
  | uint (v : UInt64)
  | int64 (v : Int64)
  | uint64 (v : UInt64)
  | int32 (v : Int32)
  | uint32 (v : UInt32)
  | int16 (v : Int16)
  | uint16 (v : UInt16)
  | int8 (v : Int8)
  | uint8 (v : UInt8)
  | bigInt (v : Int)
  | string (s : List UInt8)
  deriving DecidableEq, Repr

/-- The pointer types `unmarshalIntlike` stores through. -/
inductive IntDest where
  | int | uint | int64 | uint64 | int32 | uint32 | int16 | uint16 | int8 | uint8 | bigInt | string
  deriving DecidableEq, Repr

/-- What went wrong in `strconv`: the input was not a number, or not one that fits. -/
inductive NumErr where
  | invalid
  | range
  deriving DecidableEq, Repr

/-- `strconv.NumError`: the input and what was wrong with it. -/
structure NumError where
  num : List UInt8
  err : NumErr
  deriving DecidableEq, Repr

/-- The errors of the integer marshallers, one constructor per message. -/
inductive MarshalError where
  /-- `marshal bigint: value %d out of range` -/
  | bigintOutOfRange (v : Nat)
  /-- `can not marshal string to bigint: %s` -/
  | bigintFromString (e : NumError)
  /-- `can not marshal %T into %s` -/
  | cannotMarshal (v : GoValue) (typ : CqlType)
  deriving DecidableEq, Repr

/-- The errors of the integer unmarshallers, one constructor per message. -/
inductive UnmarshalError where
  /-- `unmarshal int: value %d out of range for %T` -/
  | intOutOfRange (v : Int) (dest : IntDest)
  /-- `unmarshal int: varint value %v out of range for %T (use big.Int)` -/
  | varintOutOfRange (data : List UInt8) (dest : IntDest)
  deriving DecidableEq, Repr

/-! ### `strconv` -/

/-- The largest `uint64`. -/
def maxUint64 : Nat := 2 ^ 64 - 1

/-- `strconv.ParseUint(s, 10, 64)`'s digit loop from the accumulated `n`: a non-digit is a
syntax error, and a value past `maxUint64` a range error the moment it appears. -/
def parseUintDigits (s0 : List UInt8) : List UInt8 → Nat → Except NumError Nat
  | [], n => .ok n
  | c :: cs, n =>
      if 0x30 ≤ c ∧ c ≤ 0x39 then
        -- `cutoff` is the smallest number such that `cutoff * 10 > maxUint64`
        if maxUint64 / 10 + 1 ≤ n then .error ⟨s0, .range⟩
        else
          let n1 := n * 10 + (c - 0x30).toNat
          if maxUint64 < n1 then .error ⟨s0, .range⟩ else parseUintDigits s0 cs n1
      else .error ⟨s0, .invalid⟩

/-- `strconv.ParseUint(s, 10, 64)`. -/
def parseUint (s : List UInt8) : Except NumError Nat :=
  if s = [] then .error ⟨s, .invalid⟩ else parseUintDigits s s 0

/-- `strconv.ParseInt(s, 10, 64)`: an optional sign, then `ParseUint` and the `int64` range. -/
def parseInt (s0 : List UInt8) : Except NumError Int64 :=
  match s0 with
  | [] => .error ⟨s0, .invalid⟩
  | c :: cs =>
      let (neg, s) := if c = 0x2B then (false, cs) else if c = 0x2D then (true, cs) else (false, s0)
      match parseUint s with
      | .error ⟨_, .invalid⟩ => .error ⟨s0, .invalid⟩
      | r =>
          let un : Nat := match r with | .ok un => un | .error _ => maxUint64
          if !neg && 2 ^ 63 ≤ un then .error ⟨s0, .range⟩
          else if neg && 2 ^ 63 < un then .error ⟨s0, .range⟩
          else if neg then .ok (Int64.ofInt (-(un : Int))) else .ok (Int64.ofNat un)

/-- `strconv.FormatInt(i, 10)`: decimal digits after a `-` for a negative number. -/
def formatInt (i : Int) : List UInt8 := (toString i).toList.map fun ch => UInt8.ofNat ch.toNat

/-! ### Fixed width -/

/-- Go's `byte(v)`: the low eight bits. -/
def goByte (v : Int) : UInt8 := UInt8.ofNat (v % 256).toNat

/-- `encBigInt`: the eight bytes of an `int64`, most significant first. -/
def encBigInt (x : Int64) : List UInt8 :=
  [goByte (x.toInt >>> (56 : Nat)), goByte (x.toInt >>> (48 : Nat)), goByte (x.toInt >>> (40 : Nat)),
    goByte (x.toInt >>> (32 : Nat)), goByte (x.toInt >>> (24 : Nat)), goByte (x.toInt >>> (16 : Nat)),
    goByte (x.toInt >>> (8 : Nat)), goByte x.toInt]

/-- `encInt`: the four bytes of an `int32`, most significant first. -/
def encInt (x : Int32) : List UInt8 :=
  [goByte (x.toInt >>> (24 : Nat)), goByte (x.toInt >>> (16 : Nat)), goByte (x.toInt >>> (8 : Nat)), goByte x.toInt]

/-- `binary.BigEndian.PutUint64`: the eight bytes of a `uint64`, most significant first. -/
def putUint64 (v : UInt64) : List UInt8 :=
  [goByte (v.toNat >>> 56 : Nat), goByte (v.toNat >>> 48 : Nat), goByte (v.toNat >>> 40 : Nat),
    goByte (v.toNat >>> 32 : Nat), goByte (v.toNat >>> 24 : Nat), goByte (v.toNat >>> 16 : Nat),
    goByte (v.toNat >>> 8 : Nat), goByte v.toNat]

/-- The loop of `bytesToInt64` and `bytesToUint64`, `ret |= data[i] << (8 * (len(data) - i - 1))`,
with `rest` the bytes after `data[i]`, so that `len(data) - i - 1 = len(rest)`.  It runs on
unbounded naturals; the caller truncates to 64 bits once, which is what truncating after every
`|` and `<<` gives. -/
def orBytes (ret : Nat) : List UInt8 → Nat
  | [] => ret
  | b :: rest => orBytes (ret ||| b.toNat <<< (8 * rest.length)) rest

/-- `bytesToInt64`. -/
def bytesToInt64 (data : List UInt8) : Int64 := Int64.ofNat (orBytes 0 data)

/-- `bytesToUint64`. -/
def bytesToUint64 (data : List UInt8) : UInt64 := UInt64.ofNat (orBytes 0 data)

theorem goByte_toNat (v : Int) : ((goByte v).toNat : Int) = v % 256 := by
  unfold goByte
  rw [UInt8.toNat_ofNat']
  have h0 : 0 ≤ v % 256 := Int.emod_nonneg _ (by norm_num)
  have h1 : v % 256 < 256 := Int.emod_lt_of_pos _ (by norm_num)
  omega

/-- `encBigInt x` reads back as `x` modulo `2 ^ 64`. -/
theorem val_encBigInt (x : Int64) : (BigEndian.val (encBigInt x) : Int) = x.toInt % 2 ^ 64 := by
  simp only [encBigInt, BigEndian.val_cons, BigEndian.val_nil, List.length_cons, List.length_nil]
  push_cast
  simp only [goByte_toNat, Int.shiftRight_eq_div_pow]
  generalize x.toInt = z
  norm_num
  omega

/-- `encBigInt x` is the eight-byte two's-complement form of `x`. -/
theorem sval_encBigInt (x : Int64) : BigEndian.sval (encBigInt x) = x.toInt := by
  have h := val_encBigInt x
  have hlo := x.le_toInt
  have hhi := x.toInt_lt
  unfold encBigInt at h ⊢
  exact BigEndian.sval_eq_of_emod (by norm_num; omega) (by norm_num; omega) (by simpa using h)

theorem goByte_ofNat_toNat (n : Nat) : (goByte n).toNat = n % 256 := by
  have h := goByte_toNat n
  omega

/-- `putUint64 v` reads back as `v`. -/
theorem val_putUint64 (v : UInt64) : BigEndian.val (putUint64 v) = v.toNat := by
  have hv := v.toNat_lt
  simp only [putUint64, BigEndian.val_cons, BigEndian.val_nil, List.length_cons,
    List.length_nil, Nat.shiftRight_eq_div_pow, goByte_ofNat_toNat]
  generalize v.toNat = z at *
  norm_num at hv ⊢
  omega

/-- The loop of `bytesToInt64` fills each byte's lane below the bytes already read, so `|` is
`+` and the result is the big-endian value. -/
theorem orBytes_mul_pow : ∀ (l : List UInt8) (R : Nat),
    orBytes (R * 256 ^ l.length) l = R * 256 ^ l.length + BigEndian.val l
  | [], R => by simp [orBytes]
  | b :: rest, R => by
      have hb : b.toNat < 2 ^ 8 := b.toNat_lt
      have h256 : (256 : Nat) ^ rest.length = 2 ^ (8 * rest.length) := by
        rw [pow_mul]; norm_num
      have hor : R * 256 ^ (rest.length + 1) ||| b.toNat <<< (8 * rest.length) =
          (R * 256 + b.toNat) * 256 ^ rest.length := by
        calc R * 256 ^ (rest.length + 1) ||| b.toNat <<< (8 * rest.length)
            = (R <<< 8) <<< (8 * rest.length) ||| b.toNat <<< (8 * rest.length) := by
              simp only [Nat.shiftLeft_eq, h256, pow_succ]; ring_nf
          _ = (R <<< 8 ||| b.toNat) <<< (8 * rest.length) := Nat.shiftLeft_or_distrib.symm
          _ = (R <<< 8 + b.toNat) <<< (8 * rest.length) := by
              rw [Nat.shiftLeft_add_eq_or_of_lt hb]
          _ = (R * 256 + b.toNat) * 256 ^ rest.length := by
              simp only [Nat.shiftLeft_eq, h256]
      rw [List.length_cons, orBytes, hor, orBytes_mul_pow rest, BigEndian.val_cons, pow_succ]
      ring

theorem orBytes_zero (l : List UInt8) : orBytes 0 l = BigEndian.val l := by
  simpa using orBytes_mul_pow l 0

/-! ### Variable width -/

/-- `big.Int.Bytes`: the absolute value as big-endian bytes, with no leading zero. -/
def bigIntBytes (n : Int) : List UInt8 := BigEndian.ofNat n.natAbs

/-- `big.Int.BitLen`: the number of bits of the absolute value. -/
def bitLen (n : Int) : Nat := n.natAbs.size

/-- `encBigInt2C`: the big-endian two's-complement form of `n`. -/
def encBigInt2C (n : Int) : List UInt8 :=
  if n = 0 then [0]
  else if 0 < n then
    let b := bigIntBytes n
    match b with
    | b₀ :: _ => if b₀ &&& 0x80 > 0 then 0 :: b else b
    | [] => b
  else
    let length := (bitLen n / 8 + 1) * 8
    let b := bigIntBytes (n + 2 ^ length)
    -- when the most significant bit is on a byte boundary one `0xff` too many comes out
    match b with
    | 0xff :: b₁ :: rest => if b₁ &&& 0x80 ≠ 0 then b₁ :: rest else b
    | _ => b

/-- `decBigInt2C`: the big-endian two's-complement value of `data`, `0` when it is empty. -/
def decBigInt2C (data : List UInt8) : Int :=
  match data with
  | b₀ :: _ =>
      if b₀ &&& 0x80 > 0 then (BigEndian.val data : Int) - 2 ^ (data.length * 8)
      else BigEndian.val data
  | [] => BigEndian.val data

/-- Testing the top bit of a byte by masking. -/
theorem and_0x80_pos_iff (b : UInt8) : b &&& 0x80 > 0 ↔ 0x80 ≤ b.toNat := by
  have key : ∀ n < 256, 0 < n &&& 128 ↔ 128 ≤ n := by decide +kernel
  rw [gt_iff_lt, UInt8.lt_iff_toNat_lt, UInt8.toNat_and]
  exact key b.toNat b.toNat_lt

/-- `decBigInt2C` is the two's-complement value. -/
theorem decBigInt2C_eq_sval (data : List UInt8) : decBigInt2C data = BigEndian.sval data := by
  cases data with
  | nil => rfl
  | cons b bs =>
      have hpow : (2 : Int) ^ ((bs.length + 1) * 8) = 256 ^ (bs.length + 1) := by
        rw [mul_comm, pow_mul]; norm_num
      simp only [decBigInt2C, BigEndian.sval, and_0x80_pos_iff, List.length_cons, hpow]
      split <;> simp

/-! ### Marshalling and unmarshalling -/

/-- The largest `int64`. -/
def maxInt64 : Nat := 2 ^ 63 - 1

/-- `marshalBigInt`, on the arms of its type switch (a `Marshaler` and the `reflect` fallback
for named integer types are not modelled, so the type info it would print is not needed). -/
def marshalBigInt : GoValue → Except MarshalError GoBytes
  | .unset => .ok none
  | .int v => .ok (encBigInt v)
  | .uint v => if maxInt64 < v.toNat then .error (.bigintOutOfRange v.toNat)
      else .ok (encBigInt v.toInt64)
  | .int64 v => .ok (encBigInt v)
  | .uint64 v => .ok (encBigInt v.toInt64)
  | .int32 v => .ok (encBigInt v.toInt64)
  | .uint32 v => .ok (encBigInt v.toUInt64.toInt64)
  | .int16 v => .ok (encBigInt v.toInt64)
  | .uint16 v => .ok (encBigInt v.toUInt64.toInt64)
  | .int8 v => .ok (encBigInt v.toInt64)
  | .uint8 v => .ok (encBigInt v.toUInt64.toInt64)
  | .bigInt v => .ok (encBigInt2C v)
  | .string s => match parseInt s with
      | .ok i => .ok (encBigInt i)
      | .error e => .error (.bigintFromString e)
  | .nil => .ok none

/-- `unmarshalIntlike`: store `int64Val` through a pointer, masking the unsigned types to the
width of `int`, `smallint` and `tinyint` and range-checking the rest; `*big.Int` decodes `data`
itself. -/
def unmarshalIntlike (typ : CqlType) (int64Val : Int64) (data : List UInt8) :
    IntDest → Except UnmarshalError GoValue
  | .int => .ok (.int int64Val)
  | .uint =>
      let unitVal := int64Val.toUInt64
      if typ = .int then .ok (.uint (unitVal &&& 0xFFFFFFFF))
      else if typ = .smallInt then .ok (.uint (unitVal &&& 0xFFFF))
      else if typ = .tinyInt then .ok (.uint (unitVal &&& 0xFF))
      else .ok (.uint unitVal)
  | .int64 => .ok (.int64 int64Val)
  | .uint64 =>
      if typ = .int then .ok (.uint64 (int64Val.toUInt64 &&& 0xFFFFFFFF))
      else if typ = .smallInt then .ok (.uint64 (int64Val.toUInt64 &&& 0xFFFF))
      else if typ = .tinyInt then .ok (.uint64 (int64Val.toUInt64 &&& 0xFF))
      else .ok (.uint64 int64Val.toUInt64)
  | .int32 =>
      if int64Val.toInt < -2 ^ 31 ∨ 2 ^ 31 - 1 < int64Val.toInt then
        .error (.intOutOfRange int64Val.toInt .int32)
      else .ok (.int32 int64Val.toInt32)
  | .uint32 =>
      if typ = .int then .ok (.uint32 (int64Val.toUInt64.toUInt32 &&& 0xFFFFFFFF))
      else if typ = .smallInt then .ok (.uint32 (int64Val.toUInt64.toUInt32 &&& 0xFFFF))
      else if typ = .tinyInt then .ok (.uint32 (int64Val.toUInt64.toUInt32 &&& 0xFF))
      else if int64Val.toInt < 0 ∨ 2 ^ 32 - 1 < int64Val.toInt then
        .error (.intOutOfRange int64Val.toInt .uint32)
      else .ok (.uint32 (int64Val.toUInt64.toUInt32 &&& 0xFFFFFFFF))
  | .int16 =>
      if int64Val.toInt < -2 ^ 15 ∨ 2 ^ 15 - 1 < int64Val.toInt then
        .error (.intOutOfRange int64Val.toInt .int16)
      else .ok (.int16 int64Val.toInt16)
  | .uint16 =>
      if typ = .smallInt then .ok (.uint16 (int64Val.toUInt64.toUInt16 &&& 0xFFFF))
      else if typ = .tinyInt then .ok (.uint16 (int64Val.toUInt64.toUInt16 &&& 0xFF))
      else if int64Val.toInt < 0 ∨ 2 ^ 16 - 1 < int64Val.toInt then
        .error (.intOutOfRange int64Val.toInt .uint16)
      else .ok (.uint16 (int64Val.toUInt64.toUInt16 &&& 0xFFFF))
  | .int8 =>
      if int64Val.toInt < -2 ^ 7 ∨ 2 ^ 7 - 1 < int64Val.toInt then
        .error (.intOutOfRange int64Val.toInt .int8)
      else .ok (.int8 int64Val.toInt8)
  | .uint8 =>
      if typ ≠ .tinyInt ∧ (int64Val.toInt < 0 ∨ 2 ^ 8 - 1 < int64Val.toInt) then
        .error (.intOutOfRange int64Val.toInt .uint8)
      else .ok (.uint8 (int64Val.toUInt64.toUInt8 &&& 0xFF))
  | .bigInt => .ok (.bigInt (decBigInt2C data))
  | .string => .ok (.string (formatInt int64Val.toInt))

/-- `decBigInt`: the eight bytes of a `bigint` as an `int64`, zero for any other length. -/
def decBigInt (data : List UInt8) : Int64 :=
  if data.length ≠ 8 then 0 else bytesToInt64 data

/-- `unmarshalBigInt`. -/
def unmarshalBigInt (typ : CqlType) (data : List UInt8) (dest : IntDest) :
    Except UnmarshalError GoValue :=
  unmarshalIntlike typ (decBigInt data) data dest

end Gocql
