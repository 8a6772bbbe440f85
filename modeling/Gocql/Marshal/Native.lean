import Gocql.Uuid.Text
import Gocql.Cluster.HostList

/-!
# Marshal — booleans, times of day, decimals, UUIDs and inet addresses

The native codecs of `marshal.go` that the integer, date and timestamp modules leave:
`boolean` as one byte, `time` as the eight bytes of `encBigInt` (nanoseconds since midnight),
`decimal` as the four bytes of its scale before the two's-complement bytes of its unscaled value,
`uuid` and `timeuuid` as their sixteen bytes, and `inet` as the four bytes of an IPv4 address or
the sixteen of an IPv6 one.  Each marshaller switches on the Go value, one constructor per arm
of its type switch, a `Marshaler` apart; each unmarshaller on the destination pointer.  Go's
strings are byte strings, those of the UUID text its runes, as `ParseUUID` reads them.  The text
of an IP address, `net.IP.String`, and its parser, `net.ParseIP`, are parameters.

* `unmarshalBool_marshalBool`, `unmarshalTime_marshalTime`: a `bool` and an `int64` come back,
  through a predeclared type or a named one.
* `unmarshalDecimal_marshalDecimal`: every `inf.Dec` comes back, scale and unscaled value alike;
  `decimal_reencode_iff`: bytes read back and written again give the same bytes exactly when
  the unscaled part is the shortest two's-complement form; `decimal_codec` states the two
  together.
* `unmarshalUUID_marshalUUID`: a UUID comes back as its bytes, its array and its text; a string
  that `ParseUUID` accepts comes back in lower-case canonical form.
* `unmarshalInet_marshalInet`: a 4- or 16-byte `net.IP` comes back `net.IP.Equal` to itself, in
  its 4-byte form when it is an IPv4 address; every other `net.IP` is written as null.
* `native_roundTrips`: the round trips of the booleans, times of day, UUIDs and addresses
  together.
-/

namespace Gocql

open BigEndian

/-- The errors of these codecs, one constructor per message. -/
inductive NativeError where
  /-- `can not marshal %T into %s` -/
  | cannotMarshal
  /-- `can not unmarshal %s into %T` -/
  | cannotUnmarshal
  /-- `can not unmarshal into non-pointer %T` -/
  | nonPointer
  /-- `inf.Dec needs at least 4 bytes, while value has only %d` -/
  | decimalTooShort (n : Nat)
  /-- `can not marshal []byte %d bytes long into %s, must be exactly 16 bytes long` -/
  | uuidBytesLength (n : Nat)
  /-- the error of `ParseUUID`, returned as it is -/
  | parseUUID (e : UUIDError)
  /-- `unable to parse UUID: UUIDs must be exactly 16 bytes long`, which is also the message
  of a failed `UUIDFromBytes` -/
  | uuidDataLength
  /-- `can not unmarshal X %s into %T` -/
  | cannotUnmarshalUUID
  /-- `cannot marshal. invalid ip string %s` -/
  | invalidIPString (s : List UInt8)
  /-- `cannot marshal %T into %s` -/
  | cannotMarshalInet
  /-- `cannot unmarshal %s into %T: invalid sized IP: got %d bytes not 4 or 16` -/
  | invalidSizedIP (n : Nat)
  /-- `cannot unmarshal %s into %T` -/
  | cannotUnmarshalInet
  deriving DecidableEq

/-! ### `boolean` -/

/-- The Go values `marshalBool` switches on: `unsetColumn`, `bool`, `nil`, a value of another
type of kind `reflect.Bool`, and any other value. -/
inductive BoolValue where
  | unset
  | bool (v : Bool)
  | nil
  | boolKind (v : Bool)
  | other

/-- `encBool`. -/
def encBool (v : Bool) : List UInt8 := if v then [1] else [0]

/-- `marshalBool(info, value)`. -/
def marshalBool : BoolValue → Except NativeError GoBytes
  | .unset => .ok none
  | .bool v => .ok (some (encBool v))
  | .nil => .ok none
  | .boolKind v => .ok (some (encBool v))
  | .other => .error .cannotMarshal

/-- `decBool`: whether the first byte is not zero; `false` with no byte. -/
def decBool : List UInt8 → Bool
  | [] => false
  | b :: _ => b != 0

/-- The destinations `unmarshalBool` stores into: `*bool`, a value that is no pointer, a pointer
to another type of kind `reflect.Bool`, and any other pointer. -/
inductive BoolDest where
  | bool
  | nonPointer
  | boolKind
  | other

/-- `unmarshalBool(info, data, value)`: the `bool` it stores. -/
def unmarshalBool (data : List UInt8) : BoolDest → Except NativeError Bool
  | .bool => .ok (decBool data)
  | .nonPointer => .error .nonPointer
  | .boolKind => .ok (decBool data)
  | .other => .error .cannotUnmarshal

/-! ### `time` -/

/-- The Go values `marshalTime` switches on: `unsetColumn`, `int64`, `time.Duration` (its
nanoseconds), `nil`, a value of another type of kind `reflect.Int64`, and any other value. -/
inductive TimeOfDayValue where
  | unset
  | int64 (v : Int64)
  | duration (v : Int64)
  | nil
  | int64Kind (v : Int64)
  | other

/-- `marshalTime(info, value)`. -/
def marshalTime : TimeOfDayValue → Except NativeError GoBytes
  | .unset => .ok none
  | .int64 v => .ok (some (encBigInt v))
  | .duration v => .ok (some (encBigInt v))
  | .nil => .ok none
  | .int64Kind v => .ok (some (encBigInt v))
  | .other => .error .cannotMarshal

/-- The destinations `unmarshalTime` stores into: `*int64`, `*time.Duration`, a value that is
no pointer, a pointer to another type of kind `reflect.Int64`, and any other pointer. -/
inductive TimeOfDayDest where
  | int64
  | duration
  | nonPointer
  | int64Kind
  | other

/-- `unmarshalTime(info, data, value)`: the `int64` it stores. -/
def unmarshalTime (data : List UInt8) : TimeOfDayDest → Except NativeError Int64
  | .int64 => .ok (decBigInt data)
  | .duration => .ok (decBigInt data)
  | .nonPointer => .error .nonPointer
  | .int64Kind => .ok (decBigInt data)
  | .other => .error .cannotUnmarshal

/-! ### `decimal` -/

/-- `inf.Dec`: an unscaled value and a scale, worth `unscaled × 10^(-scale)`. -/
structure InfDec where
  unscaled : Int
  scale : Int32
  deriving DecidableEq, Repr

/-- The Go values `marshalDecimal` tells apart: `nil`, `unsetColumn`, `inf.Dec`, and any other
value. -/
inductive DecimalValue where
  | nil
  | unset
  | dec (v : InfDec)
  | other

/-- `marshalDecimal(info, value)`: the scale's four bytes, then the unscaled value's. -/
def marshalDecimal : DecimalValue → Except NativeError GoBytes
  | .nil => .ok none
  | .unset => .ok none
  | .dec v =>
    let unscaled := encBigInt2C v.unscaled
    if unscaled = [] then .error .cannotMarshal
    else .ok (some (encInt v.scale ++ unscaled))
  | .other => .error .cannotMarshal

/-- The destinations of `unmarshalDecimal`: `*inf.Dec`, and any other. -/
inductive DecimalDest where
  | dec
  | other

/-- `unmarshalDecimal(info, data, value)`: `inf.NewDecBig(decBigInt2C(data[4:]), decInt(data[0:4]))`,
which keeps the two as they are. -/
def unmarshalDecimal (data : List UInt8) : DecimalDest → Except NativeError InfDec
  | .dec =>
    if data.length < 4 then .error (.decimalTooShort data.length)
    else
      let scale := decInt (data.take 4)
      let unscaled := decBigInt2C (data.drop 4)
      .ok ⟨unscaled, scale⟩
  | .other => .error .cannotUnmarshal

/-! ### `uuid` and `timeuuid` -/

/-- `UUIDFromBytes(input)`: the sixteen bytes as a UUID, none for any other length. -/
def uuidFromBytes (input : List UInt8) : Option UUID :=
  if h : input.length = 16 then some ⟨input.toArray, by rw [List.size_toArray, h]⟩ else none

/-- The Go values `marshalUUID` switches on: `unsetColumn`, `UUID`, `[16]byte`, `[]byte`, a
string, `nil`, and any other value. -/
inductive UUIDValue where
  | unset
  | uuid (u : UUID)
  | array (u : UUID)
  | bytes (b : List UInt8)
  | string (s : List Char)
  | nil
  | other

/-- `marshalUUID(info, value)`. -/
def marshalUUID : UUIDValue → Except NativeError GoBytes
  | .unset => .ok none
  | .uuid u => .ok (some u.toList)
  | .array u => .ok (some u.toList)
  | .bytes b => if b.length ≠ 16 then .error (.uuidBytesLength b.length) else .ok (some b)
  | .string s =>
    match parseUUID s with
    | .ok u => .ok (some u.toList)
    | .error e => .error (.parseUUID e)
  | .nil => .ok none
  | .other => .error .cannotMarshal

/-- The destinations `unmarshalUUID` stores into: `*string`, `*[]byte`, `*UUID`, `*[16]byte`,
and any other. -/
inductive UUIDDest where
  | string
  | bytes
  | uuid
  | array
  | other

/-- What `unmarshalUUID` stores: a string, a byte slice (`none` for nil) or sixteen bytes. -/
inductive UUIDStored where
  | string (s : List Char)
  | bytes (b : Option (List UInt8))
  | uuid (u : UUID)
  deriving DecidableEq

/-- `unmarshalUUID(info, data, value)`.  The empty value sets a string, a slice or a `UUID` to
its zero value, and fails for any other destination, a `*[16]byte` too; sixteen bytes are copied
into a `*[16]byte` or a `*UUID`, and go through `UUIDFromBytes` for a `*string` or a `*[]byte`. -/
def unmarshalUUID (data : List UInt8) (dest : UUIDDest) : Except NativeError UUIDStored :=
  if data.length = 0 then
    match dest with
    | .string => .ok (.string [])
    | .bytes => .ok (.bytes none)
    | .uuid => .ok (.uuid (Vector.replicate 16 0))
    | _ => .error .cannotUnmarshalUUID
  else if h : data.length ≠ 16 then .error .uuidDataLength
  else
    let copied : UUID := ⟨data.toArray, by rw [List.size_toArray]; exact not_not.mp h⟩
    match dest with
    | .array => .ok (.uuid copied)
    | .uuid => .ok (.uuid copied)
    | _ =>
      match uuidFromBytes data with
      | none => .error .uuidDataLength
      | some u =>
        match dest with
        | .string => .ok (.string u.string)
        | .bytes => .ok (.bytes (some u.toList))
        | _ => .error .cannotUnmarshalUUID

/-! ### `inet` -/

/-- `isZeros(p)`: every byte is zero. -/
def isZeros (p : List UInt8) : Bool := p.all (· == 0)

/-- `ip.To4()`: a 4-byte address as it is, the last four bytes of an IPv4 address in IPv6 form,
and nil for any other. -/
def to4 (ip : List UInt8) : Option (List UInt8) :=
  if ip.length = 4 then some ip
  else if ip.length = 16 ∧ isZeros (ip.take 10) = true ∧ ip[10]? = some 0xff ∧ ip[11]? = some 0xff then
    some (ip.drop 12)
  else none

/-- `ip.To16()`: a 4-byte address in IPv6 form, a 16-byte one as it is, and nil for any
other. -/
def to16 (ip : List UInt8) : Option (List UInt8) :=
  if ip.length = 4 then some (v4InV6Prefix ++ ip)
  else if ip.length = 16 then some ip
  else none

/-- The Go values `marshalInet` switches on: `unsetColumn`, `net.IP`, a string, `nil`, and any
other value. -/
inductive InetValue where
  | unset
  | ip (val : List UInt8)
  | string (val : List UInt8)
  | nil
  | other

/-- `t := val.To4(); if t == nil { return val.To16(), nil }; return t, nil`. -/
def inetBytes (val : List UInt8) : GoBytes :=
  match to4 val with
  | none => to16 val
  | some t => some t

/-- `marshalInet(info, value)`, with `net.ParseIP`. -/
def marshalInet (parseIP : List UInt8 → Option (List UInt8)) : InetValue → Except NativeError GoBytes
  | .unset => .ok none
  | .ip val => .ok (inetBytes val)
  | .string val =>
    match parseIP val with
    | some b => .ok (inetBytes b)
    | none => .error (.invalidIPString val)
  | .nil => .ok none
  | .other => .error .cannotMarshalInet

/-- The destinations of `unmarshalInet`: `*net.IP`, `*string`, and any other. -/
inductive InetDest where
  | ip
  | string
  | other

/-- What `unmarshalInet` stores: an address, or its text. -/
inductive InetStored where
  | ip (ip : List UInt8)
  | string (s : String)
  deriving DecidableEq

/-- `unmarshalInet(info, data, value)`, with `net.IP.String`.  Only a `*net.IP` has its length
checked. -/
def unmarshalInet (ipString : List UInt8 → String) (data : List UInt8) : InetDest → Except NativeError InetStored
  | .ip =>
    if ¬(data.length = 4 ∨ data.length = 16) then .error (.invalidSizedIP data.length)
    else
      match to4 data with
      | some v4 => .ok (.ip v4)
      | none => .ok (.ip data)
  | .string =>
    if data.length = 0 then .ok (.string "")
    else
      match to4 data with
      | some v4 => .ok (.string (ipString v4))
      | none => .ok (.string (ipString data))
  | .other => .error .cannotUnmarshalInet

/-! ### Booleans and times of day come back -/

theorem decBool_encBool (v : Bool) : decBool (encBool v) = v := by
  cases v <;> rfl

/-- **A `bool` comes back**, written from a `bool` or a value of a named bool type and read into
a `*bool` or a pointer to a named bool type. -/
theorem unmarshalBool_marshalBool {val : BoolValue} {v : Bool} (hv : val = .bool v ∨ val = .boolKind v)
    {dest : BoolDest} (hd : dest = .bool ∨ dest = .boolKind) :
    ∃ data, marshalBool val = .ok (some data) ∧ unmarshalBool data dest = .ok v := by
  refine ⟨encBool v, ?_, ?_⟩
  · rcases hv with rfl | rfl <;> rfl
  · rcases hd with rfl | rfl <;> rw [unmarshalBool, decBool_encBool]

/-- **An `int64` comes back** through `time`, from an `int64`, a `time.Duration` or a value of a
named type, into any of the three. -/
theorem unmarshalTime_marshalTime {val : TimeOfDayValue} {v : Int64}
    (hv : val = .int64 v ∨ val = .duration v ∨ val = .int64Kind v) {dest : TimeOfDayDest}
    (hd : dest = .int64 ∨ dest = .duration ∨ dest = .int64Kind) :
    ∃ data, marshalTime val = .ok (some data) ∧ unmarshalTime data dest = .ok v := by
  refine ⟨encBigInt v, ?_, ?_⟩
  · rcases hv with rfl | rfl | rfl <;> rfl
  · rcases hd with rfl | rfl | rfl <;> rw [unmarshalTime, decBigInt_encBigInt]

/-! ### Decimals come back -/

/-- The four bytes of an `int32` read back. -/
theorem decInt_encInt (x : Int32) : decInt (encInt x) = x := by
  have hx := toInt_decInt_intBytes x.toInt
  have hlo := x.le_toInt
  have hhi := x.toInt_lt
  rw [intBytes, Int32.ofInt_toInt, Int.bmod_eq_of_le_mul_two (by push_cast; omega) (by push_cast; omega)] at hx
  exact Int32.toInt_inj.mp hx

theorem length_encInt (x : Int32) : (encInt x).length = 4 := rfl

theorem encBigInt2C_ne_nil (n : Int) : encBigInt2C n ≠ [] := by
  intro h
  have hmin := encBigInt2C_minimal n
  rw [h] at hmin
  exact hmin

theorem marshalDecimal_dec (v : InfDec) :
    marshalDecimal (.dec v) = .ok (some (encInt v.scale ++ encBigInt2C v.unscaled)) := by
  simp only [marshalDecimal, encBigInt2C_ne_nil, if_false]

/-- What `unmarshalDecimal` reads from a value of four bytes or more. -/
theorem unmarshalDecimal_of_length {data : List UInt8} (h : 4 ≤ data.length) :
    unmarshalDecimal data .dec = .ok ⟨decBigInt2C (data.drop 4), decInt (data.take 4)⟩ := by
  simp only [unmarshalDecimal, if_neg (Nat.not_lt.mpr h)]

/-- **Every `inf.Dec` comes back**, its scale and its unscaled value as they were. -/
theorem unmarshalDecimal_marshalDecimal (v : InfDec) :
    ∃ data, marshalDecimal (.dec v) = .ok (some data) ∧ unmarshalDecimal data .dec = .ok v := by
  refine ⟨_, marshalDecimal_dec v, ?_⟩
  have hlen : 4 ≤ (encInt v.scale ++ encBigInt2C v.unscaled).length := by
    rw [List.length_append, length_encInt]
    omega
  rw [unmarshalDecimal_of_length hlen, List.take_left' (length_encInt _), List.drop_left' (length_encInt _),
    decInt_encInt, decBigInt2C_eq_sval, sval_encBigInt2C]

/-- Four bytes read as an `int32` and written again. -/
theorem encInt_decInt {l : List UInt8} (hl : l.length = 4) : encInt (decInt l) = l := by
  have hs : Int32.size = 2 ^ 32 := rfl
  have hv : (val l : Int) < 2 ^ 32 := by
    have := val_lt l
    rw [hl] at this
    exact_mod_cast this
  have hd : (decInt l).toInt = (val l : Int).bmod (2 ^ 32) := by
    simp only [decInt, hl, ne_eq, not_true_eq_false, if_false]
    rw [Int32.toInt_ofNat', hs]
  have hmod : (val l : Int).bmod (2 ^ 32) % 2 ^ 32 = (val l : Int) % 2 ^ 32 := by
    have := Int.bmod_emod (x := (val l : Int)) (m := 2 ^ 32)
    push_cast at this
    exact this
  have he : (val (encInt (decInt l)) : Int) = (decInt l).toInt % 2 ^ 32 := by
    rw [encInt_eq_appendInt]
    exact val_appendInt _
  rw [hd, hmod, Int.emod_eq_of_lt (Int.natCast_nonneg _) hv] at he
  exact eq_of_val_eq (by rw [length_encInt, hl]) (by exact_mod_cast he)

/-- **Re-encoding a decimal gives its own bytes exactly when its unscaled part is minimal**:
a value of four bytes or more, read back and written again, comes out as it was if and only if
the bytes after the scale are the shortest two's-complement form of their value. -/
theorem decimal_reencode_iff {data : List UInt8} (h : 4 ≤ data.length) :
    (∃ v, unmarshalDecimal data .dec = .ok v ∧ marshalDecimal (.dec v) = .ok (some data)) ↔
      Minimal (data.drop 4) := by
  rw [unmarshalDecimal_of_length h]
  constructor
  · rintro ⟨v, hv, hm⟩
    cases hv
    rw [marshalDecimal_dec, Except.ok.injEq, Option.some.injEq] at hm
    -- the bytes after the scale are those `encBigInt2C` wrote
    rw [← hm, List.drop_left' (length_encInt _)]
    exact encBigInt2C_minimal _
  · intro hmin
    refine ⟨_, rfl, ?_⟩
    have hunscaled : encBigInt2C (decBigInt2C (data.drop 4)) = data.drop 4 :=
      minimal_unique (encBigInt2C_minimal _) hmin (by rw [sval_encBigInt2C, decBigInt2C_eq_sval])
    rw [marshalDecimal_dec]
    dsimp only
    rw [hunscaled, encInt_decInt (by rw [List.length_take]; omega), List.take_append_drop]

/-- **The decimal codec**: every `inf.Dec` comes back, and data read back is written again as it
was exactly when its unscaled part is minimal. -/
theorem decimal_codec :
    (∀ v : InfDec, ∃ data, marshalDecimal (.dec v) = .ok (some data) ∧
      unmarshalDecimal data .dec = .ok v) ∧
    ∀ data : List UInt8, 4 ≤ data.length →
      ((∃ v, unmarshalDecimal data .dec = .ok v ∧ marshalDecimal (.dec v) = .ok (some data)) ↔
        Minimal (data.drop 4)) :=
  ⟨unmarshalDecimal_marshalDecimal, fun _ h => decimal_reencode_iff h⟩

-- Scale 2 and the unscaled value 44 with a redundant leading zero: not written again as read.
example : ¬ ∃ v, unmarshalDecimal [0, 0, 0, 2, 0, 44] .dec = .ok v ∧
    marshalDecimal (.dec v) = .ok (some [0, 0, 0, 2, 0, 44]) :=
  fun h => absurd ((decimal_reencode_iff (by decide)).mp h) (by decide)

/-! ### UUIDs come back -/

theorem uuidFromBytes_toList (u : UUID) : uuidFromBytes u.toList = some u := by
  unfold uuidFromBytes
  rw [dif_pos Vector.length_toList, Option.some.injEq, ← Vector.toList_inj, Vector.toList_mk,
    List.toList_toArray]

/-- What `unmarshalUUID` stores from sixteen bytes, into each destination. -/
theorem unmarshalUUID_toList (u : UUID) :
    unmarshalUUID u.toList .uuid = .ok (.uuid u) ∧ unmarshalUUID u.toList .array = .ok (.uuid u) ∧
      unmarshalUUID u.toList .bytes = .ok (.bytes (some u.toList)) ∧
      unmarshalUUID u.toList .string = .ok (.string u.string) := by
  have hlen : u.toList.length = 16 := Vector.length_toList
  have hcopy : ∀ h, (⟨u.toList.toArray, h⟩ : UUID) = u := fun h =>
    Vector.toList_inj.mp (by rw [Vector.toList_mk, List.toList_toArray])
  simp only [unmarshalUUID, hlen, uuidFromBytes_toList, hcopy]
  exact ⟨rfl, rfl, rfl, rfl⟩

/-- **A UUID comes back**: written from a `UUID`, a `[16]byte`, its sixteen bytes as a `[]byte`,
or its text, it reads back into a `*UUID` or a `*[16]byte` as itself, into a `*[]byte` as its
bytes, and into a `*string` as its text. -/
theorem unmarshalUUID_marshalUUID {val : UUIDValue} {u : UUID}
    (hv : val = .uuid u ∨ val = .array u ∨ val = .bytes u.toList ∨ val = .string u.string) :
    ∃ data, marshalUUID val = .ok (some data) ∧
      unmarshalUUID data .uuid = .ok (.uuid u) ∧ unmarshalUUID data .array = .ok (.uuid u) ∧
      unmarshalUUID data .bytes = .ok (.bytes (some u.toList)) ∧
      unmarshalUUID data .string = .ok (.string u.string) := by
  refine ⟨u.toList, ?_, unmarshalUUID_toList u⟩
  rcases hv with rfl | rfl | rfl | rfl
  · rfl
  · rfl
  · simp only [marshalUUID, Vector.length_toList, ne_eq, not_true_eq_false, if_false]
  · simp only [marshalUUID, parseUUID_string]

/-- **A UUID string comes back in lower case**: a string `ParseUUID` accepts, written and read
back into a `*string`, is the canonical form of its digits, each in lower case. -/
theorem uuid_string_roundTrip {s : List Char} {u : UUID} (h : parseUUID s = .ok u) :
    ∃ data, marshalUUID (.string s) = .ok (some data) ∧
      unmarshalUUID data .string = .ok (.string (canonical ((s.filter (· != '-')).map Char.toLower))) := by
  refine ⟨u.toList, by simp only [marshalUUID, h], ?_⟩
  rw [(unmarshalUUID_toList u).2.2.2, string_parseUUID h]

/-! ### Inet addresses come back -/

/-- `To4`'s test of an IPv4 address in IPv6 form: ten zero bytes and two `0xff`. -/
theorem take_twelve_of_to4 {ip : List UInt8} (hz : isZeros (ip.take 10) = true)
    (h10 : ip[10]? = some 0xff) (h11 : ip[11]? = some 0xff) : ip.take 12 = v4InV6Prefix := by
  have hlen : 10 < ip.length := (List.getElem?_eq_some_iff.mp h10).1
  have hzeros : ip.take 10 = List.replicate 10 0 := by
    refine List.eq_replicate_iff.mpr ⟨by rw [List.length_take]; omega, fun b hb => ?_⟩
    have := List.all_eq_true.mp hz b hb
    simpa using this
  rw [show (12 : Nat) = 10 + 1 + 1 from rfl, List.take_add_one, List.take_add_one, hzeros, h10, h11]
  rfl

theorem to4_of_length_four {ip : List UInt8} (h : ip.length = 4) : to4 ip = some ip := by
  simp only [to4, h, if_true]

/-- What `To4` returns: four bytes that `net.IP.Equal` holds of with the address. -/
theorem to4_spec {ip v4 : List UInt8} (h : to4 ip = some v4) : v4.length = 4 ∧ ipEqual v4 ip = true := by
  unfold to4 at h
  split at h
  · rename_i h4
    cases h
    exact ⟨h4, ipEqual_self _⟩
  · split at h
    · rename_i hv6
      obtain ⟨h16, hz, h10, h11⟩ := hv6
      cases h
      have hlen : (ip.drop 12).length = 4 := by rw [List.length_drop, h16]
      refine ⟨hlen, ?_⟩
      -- the address is `v4InV6Prefix` followed by its last four bytes
      have hsplit : ip = v4InV6Prefix ++ ip.drop 12 := by
        rw [← take_twelve_of_to4 hz h10 h11, List.take_append_drop]
      have heq := ipEqual_v4_prefix hlen
      rwa [← hsplit] at heq
    · cases h

theorem to4_eq_none {ip : List UInt8} (h : ¬(ip.length = 4 ∨ ip.length = 16)) : to4 ip = none := by
  simp only [to4, if_neg (fun h4 => h (.inl h4)), if_neg (fun h16 : _ ∧ _ => h (.inr h16.1))]

/-- **A `net.IP` is written so that it comes back**: one of four or sixteen bytes is written, and
reads back into a `*net.IP` as its `To4` form where it has one and as itself otherwise, in either
case `net.IP.Equal` to it; a `net.IP` of any other length is written as null, with no error. -/
theorem unmarshalInet_marshalInet (parseIP : List UInt8 → Option (List UInt8))
    (ipString : List UInt8 → String) (ip : List UInt8) :
    (¬(ip.length = 4 ∨ ip.length = 16) → marshalInet parseIP (.ip ip) = .ok none) ∧
      ((ip.length = 4 ∨ ip.length = 16) → ∃ data, marshalInet parseIP (.ip ip) = .ok (some data) ∧
        unmarshalInet ipString data .ip = .ok (.ip ((to4 ip).getD ip)) ∧
        ipEqual ((to4 ip).getD ip) ip = true) := by
  refine ⟨fun hl => ?_, fun hl => ?_⟩
  · have h16 : ip.length ≠ 4 ∧ ip.length ≠ 16 := not_or.mp hl
    simp only [marshalInet, inetBytes, to4_eq_none hl, to16, if_neg h16.1, if_neg h16.2]
  · cases h4 : to4 ip with
    | some v4 =>
      -- the `To4` form is written, and `To4` of it is itself
      obtain ⟨hlen, heq⟩ := to4_spec h4
      refine ⟨v4, by simp only [marshalInet, inetBytes, h4], ?_, heq⟩
      simp only [unmarshalInet, hlen, true_or, not_true_eq_false, if_false, to4_of_length_four hlen,
        Option.getD_some]
    | none =>
      -- no `To4` form: a 4-byte address has one, so this one has sixteen bytes
      have h16 : ip.length = 16 := by
        rcases hl with hl | hl
        · rw [to4_of_length_four hl] at h4
          cases h4
        · exact hl
      refine ⟨ip, ?_, ?_, ipEqual_self ip⟩
      · simp only [marshalInet, inetBytes, h4, to16, h16]
        rfl
      · simp only [unmarshalInet, h16, or_true, not_true_eq_false, if_false, h4, Option.getD_none]

/-! ### The codecs together -/

/-- **What the native codecs bring back**: a `bool` and an `int64` through `time` come back as
themselves, a UUID as its bytes, its array and its text, a string `ParseUUID` accepts as its
digits in lower case, and a 4- or 16-byte `net.IP` as an address `net.IP.Equal` to it; a
`net.IP` of any other length is written as null. -/
theorem native_roundTrips :
    (∀ (val : BoolValue) (v : Bool), (val = .bool v ∨ val = .boolKind v) →
      ∀ dest : BoolDest, (dest = .bool ∨ dest = .boolKind) →
        ∃ data, marshalBool val = .ok (some data) ∧ unmarshalBool data dest = .ok v) ∧
    (∀ (val : TimeOfDayValue) (v : Int64), (val = .int64 v ∨ val = .duration v ∨ val = .int64Kind v) →
      ∀ dest : TimeOfDayDest, (dest = .int64 ∨ dest = .duration ∨ dest = .int64Kind) →
        ∃ data, marshalTime val = .ok (some data) ∧ unmarshalTime data dest = .ok v) ∧
    (∀ (val : UUIDValue) (u : UUID), (val = .uuid u ∨ val = .array u ∨ val = .bytes u.toList ∨ val = .string u.string) →
      ∃ data, marshalUUID val = .ok (some data) ∧
        unmarshalUUID data .uuid = .ok (.uuid u) ∧ unmarshalUUID data .array = .ok (.uuid u) ∧
        unmarshalUUID data .bytes = .ok (.bytes (some u.toList)) ∧
        unmarshalUUID data .string = .ok (.string u.string)) ∧
    (∀ (s : List Char) (u : UUID), parseUUID s = .ok u →
      ∃ data, marshalUUID (.string s) = .ok (some data) ∧
        unmarshalUUID data .string = .ok (.string (canonical ((s.filter (· != '-')).map Char.toLower)))) ∧
    ∀ (parseIP : List UInt8 → Option (List UInt8)) (ipString : List UInt8 → String) (ip : List UInt8),
      (¬(ip.length = 4 ∨ ip.length = 16) → marshalInet parseIP (.ip ip) = .ok none) ∧
      ((ip.length = 4 ∨ ip.length = 16) → ∃ data, marshalInet parseIP (.ip ip) = .ok (some data) ∧
        unmarshalInet ipString data .ip = .ok (.ip ((to4 ip).getD ip)) ∧
        ipEqual ((to4 ip).getD ip) ip = true) :=
  ⟨fun _ _ hv _ hd => unmarshalBool_marshalBool hv hd, fun _ _ hv _ hd => unmarshalTime_marshalTime hv hd,
    fun _ _ hv => unmarshalUUID_marshalUUID hv, fun _ _ h => uuid_string_roundTrip h,
    unmarshalInet_marshalInet⟩

/-- A UUID string in mixed case is stored in lower case. -/
theorem uuid_mixed_case_stored_lower :
    parseUUID "550E8400-e29b-41D4-a716-446655440000".toList =
        .ok #v[0x55, 0x0e, 0x84, 0x00, 0xe2, 0x9b, 0x41, 0xd4, 0xa7, 0x16, 0x44, 0x66, 0x55, 0x44, 0x00, 0x00] ∧
      ∃ data, marshalUUID (.string "550E8400-e29b-41D4-a716-446655440000".toList) = .ok (some data) ∧
        unmarshalUUID data .string = .ok (.string (canonical
          (("550E8400-e29b-41D4-a716-446655440000".toList.filter (· != '-')).map Char.toLower))) :=
  have h : parseUUID "550E8400-e29b-41D4-a716-446655440000".toList =
      .ok #v[0x55, 0x0e, 0x84, 0x00, 0xe2, 0x9b, 0x41, 0xd4, 0xa7, 0x16, 0x44, 0x66, 0x55, 0x44, 0x00, 0x00] := by
    decide +kernel
  ⟨h, native_roundTrips.2.2.2.1 _ _ h⟩

end Gocql
