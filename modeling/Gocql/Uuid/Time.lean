import Gocql.Marshal.Timestamp
import Gocql.Support.BigEndian
import Mathlib.Data.FinEnum

/-!
# UUID — time-based UUIDs

A `UUID` is its sixteen bytes.  `timeUUIDWith` lays a 60-bit count of 100 ns since
1582-10-15 over bytes `0..7` in the RFC 4122 field order (low 32 bits first, then the middle 16,
then the high 12 under the version nibble), the clock sequence over bytes `8..9` under the
variant bits, and the node over bytes `10..15`; the accessors read the fields back.

Cassandra orders `timeuuid` values by their timestamp, then by bytes `8..15` compared as
signed bytes (`TimeUUIDLe`), and `minTimeUUID` and `maxTimeUUID` fill those bytes with the
least and the greatest signed values the layout allows.

* `timeUUIDWith_version`, `timeUUIDWith_variant`, `timeUUIDWith_timestamp`,
  `timeUUIDWith_clock`, `timeUUIDWith_node`: each field comes back, the timestamp when it fits
  in 60 bits, the clock modulo `2 ^ 14`.
* `time_uuidFromTime`: the instant of a UUID built from a time after 1582-10-15 is that time
  truncated to 100 ns.
* `minTimeUUID_le`, `le_maxTimeUUID`: every UUID of a timestamp lies between the two bounds of
  that timestamp; the upper one holds because the variant keeps byte 8 in `0x80..0xBF`.
-/

namespace Gocql

open Go

/-- `UUID`: `[16]byte`. -/
abbrev UUID := Vector UInt8 16

/-- `VariantNCSCompat`, `VariantIETF`, `VariantMicrosoft`, `VariantFuture`. -/
def variantNCSCompat : Nat := 0
def variantIETF : Nat := 2
def variantMicrosoft : Nat := 6
def variantFuture : Nat := 7

/-- `timeBase`: `time.Date(1582, time.October, 15, 0, 0, 0, 0, time.UTC).Unix()`, the
141427 days before the epoch. -/
def timeBase : Int64 := -12219292800

/-- `getTimestamp(t)`: 100 ns intervals since `timeBase`. -/
def getTimestamp (t : GoTime) : Int64 :=
  (t.unix - timeBase) * 10000000 + Int64.ofNat (t.nsec / 100)

/-- `minClock`, `maxClock`, `minNode`, `maxNode`. -/
def minClock : UInt32 := 0x8080
def maxClock : UInt32 := 0x7f7f
def minNode : List UInt8 := [0x80, 0x80, 0x80, 0x80, 0x80, 0x80]
def maxNode : List UInt8 := [0x7f, 0x7f, 0x7f, 0x7f, 0x7f, 0x7f]

/-- `TimeUUIDWith(t, clock, node)`, the bytes as its assignments leave them: `u[6]` gets
`byte(t>>56)&0x0F` and then `|= 0x10`, `u[8]` gets `byte(clock >> 8)` and then `&= 0x3F`,
`|= 0x80`; `copy(u[10:], node)` copies at most six bytes and leaves the rest zero. -/
def timeUUIDWith (t : Int64) (clock : UInt32) (node : List UInt8) : UUID :=
  #v[goByte (t.toInt >>> (24 : Nat)), goByte (t.toInt >>> (16 : Nat)), goByte (t.toInt >>> (8 : Nat)), goByte t.toInt,
    goByte (t.toInt >>> (40 : Nat)), goByte (t.toInt >>> (32 : Nat)), (goByte (t.toInt >>> (56 : Nat)) &&& 0x0F) ||| 0x10,
    goByte (t.toInt >>> (48 : Nat)),
    (goByte (clock.toNat >>> 8 : Nat) &&& 0x3F) ||| 0x80, goByte (clock.toNat : Nat),
    node.getD 0 0, node.getD 1 0, node.getD 2 0, node.getD 3 0, node.getD 4 0, node.getD 5 0]

/-- `MinTimeUUID(t)`. -/
def minTimeUUID (t : GoTime) : UUID := timeUUIDWith (getTimestamp t) minClock minNode

/-- `MaxTimeUUID(t)`. -/
def maxTimeUUID (t : GoTime) : UUID := timeUUIDWith (getTimestamp t) maxClock maxNode

/-- `UUIDFromTime(t)`, with the package's `clockSeq` and `hardwareAddr`: `atomic.AddUint32`
gives the clock and is the next `clockSeq`. -/
def uuidFromTime (clockSeq : UInt32) (hardwareAddr : List UInt8) (t : GoTime) : UUID × UInt32 :=
  let clock := clockSeq + 1
  (timeUUIDWith (getTimestamp t) clock hardwareAddr, clock)

namespace UUID

/-- `u.Variant()`. -/
def variant (u : UUID) : Nat :=
  let x := u[8]
  if x &&& 0x80 = 0 then variantNCSCompat
  else if x &&& 0x40 = 0 then variantIETF
  else if x &&& 0x20 = 0 then variantMicrosoft
  else variantFuture

/-- `u.Version()`: `int(u[6] & 0xF0 >> 4)`, where `&` and `>>` bind alike, from the left. -/
def version (u : UUID) : Nat := ((u[6] &&& 0xF0) >>> 4).toNat

/-- `u.Node()`: `nil` unless the version is 1. -/
def node (u : UUID) : List UInt8 := if u.version ≠ 1 then [] else u.toList.drop 10

/-- `u.Clock()`. -/
def clock (u : UUID) : UInt32 :=
  if u.version ≠ 1 then 0 else ((u[8] &&& 0x3F).toUInt32 <<< 8) ||| u[9].toUInt32

/-- `u.Timestamp()`. -/
def timestamp (u : UUID) : Int64 :=
  if u.version ≠ 1 then 0
  else (u[0].toUInt64 <<< 24 ||| u[1].toUInt64 <<< 16 ||| u[2].toUInt64 <<< 8 ||| u[3].toUInt64).toInt64 +
    (u[4].toUInt64 <<< 40 ||| u[5].toUInt64 <<< 32).toInt64 +
    ((u[6] &&& 0x0F).toUInt64 <<< 56 ||| u[7].toUInt64 <<< 48).toInt64

/-- `u.Time()`.  `.UTC()` changes the location, not the instant. -/
def time (u : UUID) : GoTime :=
  if u.version ≠ 1 then GoTime.zero
  else
    let t := u.timestamp
    let sec := t / 10000000
    let nsec := (t % 10000000) * 100
    goUnix (sec + timeBase) nsec

/-- Bytes `8..15` read as signed, as Cassandra's `TimeUUIDType` compares them. -/
def lsbSigned (u : UUID) : List Int := (u.toList.drop 8).map BigEndian.sbyte

end UUID

/-- Cassandra's `TimeUUIDType` order: the timestamp first, then bytes `8..15` as signed bytes,
lexicographically. -/
def TimeUUIDLe (u v : UUID) : Prop :=
  u.timestamp.toInt < v.timestamp.toInt ∨ (u.timestamp = v.timestamp ∧ u.lsbSigned ≤ v.lsbSigned)

instance (u v : UUID) : Decidable (TimeUUIDLe u v) := inferInstanceAs (Decidable (_ ∨ _))

/-- The 100 ns intervals from 1582-10-15 to `t`, as integers. -/
def GoTime.uuidTicks (t : GoTime) : Int := (t.unix.toInt + 12219292800) * 10000000 + t.nsec / 100

/-- The instant truncated to 100 ns. -/
def GoTime.truncTicks (t : GoTime) : GoTime :=
  ⟨t.unix, t.nsec / 100 * 100, by have := t.nsec_lt; omega⟩

/-! ### The stamps, byte by byte -/

/-- The version stamp leaves the version nibble 1 and the low nibble. -/
theorem version_stamp (x : UInt8) :
    ((x &&& 0x0F ||| 0x10) &&& 0xF0) >>> 4 = 1 ∧ (x &&& 0x0F ||| 0x10) &&& 0x0F = x &&& 0x0F := by
  revert x
  decide +kernel

/-- The variant stamp sets bit 7, clears bit 6 and leaves the low six bits: the byte lies in
`0x80..0xBF`. -/
theorem variant_stamp (x : UInt8) :
    (x &&& 0x3F ||| 0x80) &&& 0x80 ≠ 0 ∧ (x &&& 0x3F ||| 0x80) &&& 0x40 = 0 ∧
      (x &&& 0x3F ||| 0x80) &&& 0x3F = x &&& 0x3F ∧
      0x80 ≤ (x &&& 0x3F ||| 0x80).toNat ∧ (x &&& 0x3F ||| 0x80).toNat ≤ 0xBF := by
  revert x
  decide +kernel

/-- The byte of an `int64` shifted right is a digit of its floor quotient. -/
theorem goByte_shiftRight (t : Int) (k : Nat) : ((goByte (t >>> k)).toNat : Int) = t / 2 ^ k % 256 := by
  rw [goByte_toNat, Int.shiftRight_eq_div_pow]
  push_cast
  rfl

/-! ### Reading the words back -/

/-- A number with no bits below `k` and one with bits below `k` only: their `|` is their sum. -/
theorem or_eq_add_of_low {x y : Nat} (k : Nat) (hx : x % 2 ^ k = 0) (hy : y < 2 ^ k) : x ||| y = x + y := by
  obtain ⟨q, hq⟩ : 2 ^ k ∣ x := Nat.dvd_of_mod_eq_zero hx
  rw [hq, Nat.two_pow_add_eq_or_of_lt hy q]

theorem toNat_or_of_low (x y : UInt64) (k : Nat) (hx : x.toNat % 2 ^ k = 0) (hy : y.toNat < 2 ^ k) :
    (x ||| y).toNat = x.toNat + y.toNat := by
  rw [UInt64.toNat_or, or_eq_add_of_low k hx hy]

/-- A byte shifted left by at most 56 in a `uint64` does not overflow. -/
theorem toNat_byte_shiftLeft (b : UInt8) (s : Nat) (hs : s ≤ 56) :
    (b.toUInt64 <<< s.toUInt64).toNat = b.toNat * 2 ^ s := by
  have hb := b.toNat_lt
  have hs' : s.toUInt64.toNat = s := by
    rw [Nat.toUInt64_eq, UInt64.toNat_ofNat']
    exact Nat.mod_eq_of_lt (by omega)
  have hp : 2 ^ s ≤ 2 ^ 56 := Nat.pow_le_pow_right (by decide) hs
  have hlt : b.toNat * 2 ^ s < 2 ^ 64 :=
    calc b.toNat * 2 ^ s < 2 ^ 8 * 2 ^ 56 := Nat.mul_lt_mul_of_lt_of_le hb hp (Nat.two_pow_pos 56)
      _ = 2 ^ 64 := by norm_num
  rw [UInt64.toNat_shiftLeft, UInt8.toNat_toUInt64, hs', Nat.mod_eq_of_lt (show s < 64 by omega),
    Nat.shiftLeft_eq]
  exact Nat.mod_eq_of_lt hlt

/-- A `uint64` below `2 ^ 63` read as an `int64` keeps its value. -/
theorem toInt_toInt64_of_lt (v : UInt64) (h : v.toNat < 2 ^ 63) : v.toInt64.toInt = v.toNat := by
  rw [uint64_toInt_toInt64]
  exact Int.bmod_eq_of_le_mul_two (by omega) (by omega)

/-- `Timestamp()` of a version-1 UUID: the 60 bits of bytes `0..7` in the RFC 4122 field
order, the low word first, then the middle and the high one. -/
theorem timestamp_toInt {u : UUID} (hv : u.version = 1) :
    u.timestamp.toInt = (u[3].toNat + u[2].toNat * 2 ^ 8 + u[1].toNat * 2 ^ 16 + u[0].toNat * 2 ^ 24 +
      u[5].toNat * 2 ^ 32 + u[4].toNat * 2 ^ 40 + u[7].toNat * 2 ^ 48 + (u[6] &&& 0x0F).toNat * 2 ^ 56 : Nat) := by
  have h₁ := u[1].toNat_lt
  have h₂ := u[2].toNat_lt
  have h₃ := u[3].toNat_lt
  have h₅ := u[5].toNat_lt
  have h₇ := u[7].toNat_lt
  have h₆ : (u[6] &&& 0x0F).toNat < 16 := by
    rw [UInt8.toNat_and]
    exact Nat.and_lt_two_pow (n := 4) _ (by decide)
  have h₀ := u[0].toNat_lt
  have h₄ := u[4].toNat_lt
  have s₀ : (u[0].toUInt64 <<< 24).toNat = u[0].toNat * 2 ^ 24 := toNat_byte_shiftLeft _ 24 (by decide)
  have s₁ : (u[1].toUInt64 <<< 16).toNat = u[1].toNat * 2 ^ 16 := toNat_byte_shiftLeft _ 16 (by decide)
  have s₂ : (u[2].toUInt64 <<< 8).toNat = u[2].toNat * 2 ^ 8 := toNat_byte_shiftLeft _ 8 (by decide)
  have s₄ : (u[4].toUInt64 <<< 40).toNat = u[4].toNat * 2 ^ 40 := toNat_byte_shiftLeft _ 40 (by decide)
  have s₅ : (u[5].toUInt64 <<< 32).toNat = u[5].toNat * 2 ^ 32 := toNat_byte_shiftLeft _ 32 (by decide)
  have s₆ : ((u[6] &&& 0x0F).toUInt64 <<< 56).toNat = (u[6] &&& 0x0F).toNat * 2 ^ 56 :=
    toNat_byte_shiftLeft _ 56 (by decide)
  have s₇ : (u[7].toUInt64 <<< 48).toNat = u[7].toNat * 2 ^ 48 := toNat_byte_shiftLeft _ 48 (by decide)
  -- each `|` joins a word with no bits below the next byte's
  have w₁ : (u[0].toUInt64 <<< 24 ||| u[1].toUInt64 <<< 16).toNat = u[0].toNat * 2 ^ 24 + u[1].toNat * 2 ^ 16 := by
    rw [toNat_or_of_low _ _ 24 (by rw [s₀]; omega) (by rw [s₁]; omega), s₀, s₁]
  have w₂ : (u[0].toUInt64 <<< 24 ||| u[1].toUInt64 <<< 16 ||| u[2].toUInt64 <<< 8).toNat =
      u[0].toNat * 2 ^ 24 + u[1].toNat * 2 ^ 16 + u[2].toNat * 2 ^ 8 := by
    rw [toNat_or_of_low _ _ 16 (by rw [w₁]; omega) (by rw [s₂]; omega), w₁, s₂]
  have w₃ : (u[0].toUInt64 <<< 24 ||| u[1].toUInt64 <<< 16 ||| u[2].toUInt64 <<< 8 ||| u[3].toUInt64).toNat =
      u[0].toNat * 2 ^ 24 + u[1].toNat * 2 ^ 16 + u[2].toNat * 2 ^ 8 + u[3].toNat := by
    rw [toNat_or_of_low _ _ 8 (by rw [w₂]; omega) (by rw [UInt8.toNat_toUInt64]; omega), w₂,
      UInt8.toNat_toUInt64]
  have w₄ : (u[4].toUInt64 <<< 40 ||| u[5].toUInt64 <<< 32).toNat = u[4].toNat * 2 ^ 40 + u[5].toNat * 2 ^ 32 := by
    rw [toNat_or_of_low _ _ 40 (by rw [s₄]; omega) (by rw [s₅]; omega), s₄, s₅]
  have w₆ : ((u[6] &&& 0x0F).toUInt64 <<< 56 ||| u[7].toUInt64 <<< 48).toNat =
      (u[6] &&& 0x0F).toNat * 2 ^ 56 + u[7].toNat * 2 ^ 48 := by
    rw [toNat_or_of_low _ _ 56 (by rw [s₆]; omega) (by rw [s₇]; omega), s₆, s₇]
  -- the three words read as `int64` keep their values, and their sum does not wrap
  have i₃ := toInt_toInt64_of_lt _ (show _ < 2 ^ 63 by rw [w₃]; omega)
  have i₄ := toInt_toInt64_of_lt _ (show _ < 2 ^ 63 by rw [w₄]; omega)
  have i₆ := toInt_toInt64_of_lt _ (show _ < 2 ^ 63 by rw [w₆]; omega)
  rw [w₃] at i₃
  rw [w₄] at i₄
  rw [w₆] at i₆
  unfold UUID.timestamp
  rw [if_neg (not_not.mpr hv), int64_toInt_add (by rw [int64_toInt_add (by omega) (by omega)]; omega)
    (by rw [int64_toInt_add (by omega) (by omega)]; omega), int64_toInt_add (by omega) (by omega), i₃, i₄, i₆]
  push_cast
  ring

/-! ### The fields of `timeUUIDWith` -/

section Fields

variable (t : Int64) (clock : UInt32) (node : List UInt8)

theorem timeUUIDWith_version : (timeUUIDWith t clock node).version = 1 := by
  show (((goByte (t.toInt >>> (56 : Nat)) &&& 0x0F ||| 0x10) &&& 0xF0) >>> 4).toNat = 1
  rw [(version_stamp _).1]
  rfl

theorem timeUUIDWith_variant : (timeUUIDWith t clock node).variant = variantIETF := by
  obtain ⟨h80, h40, -⟩ := variant_stamp (goByte (clock.toNat >>> 8 : Nat))
  show (if (goByte (clock.toNat >>> 8 : Nat) &&& 0x3F ||| 0x80) &&& 0x80 = 0 then variantNCSCompat
    else if (goByte (clock.toNat >>> 8 : Nat) &&& 0x3F ||| 0x80) &&& 0x40 = 0 then variantIETF
    else if (goByte (clock.toNat >>> 8 : Nat) &&& 0x3F ||| 0x80) &&& 0x20 = 0 then variantMicrosoft
    else variantFuture) = variantIETF
  rw [if_neg h80, if_pos h40]

/-- The clock comes back modulo `2 ^ 14`: the variant takes the top two bits of byte 8. -/
theorem timeUUIDWith_clock : (timeUUIDWith t clock node).clock = clock % 16384 := by
  have hc := clock.toNat_lt
  have hlow := (variant_stamp (goByte (clock.toNat >>> 8 : Nat))).2.2.1
  unfold UUID.clock
  rw [if_neg (not_not.mpr (timeUUIDWith_version t clock node))]
  show ((goByte (clock.toNat >>> 8 : Nat) &&& 0x3F ||| 0x80) &&& 0x3F).toUInt32 <<< 8 |||
    (goByte (clock.toNat : Nat)).toUInt32 = clock % 16384
  rw [hlow]
  -- the high six bits over the low byte, as numbers
  have hhi : (goByte (clock.toNat >>> 8 : Nat) &&& 0x3F).toNat = clock.toNat / 256 % 64 := by
    rw [UInt8.toNat_and, goByte_ofNat_toNat, Nat.shiftRight_eq_div_pow]
    exact (Nat.and_two_pow_sub_one_eq_mod _ 6).trans (by omega)
  have hlo : (goByte (clock.toNat : Nat)).toNat = clock.toNat % 256 := goByte_ofNat_toNat _
  have hs : ((goByte (clock.toNat >>> 8 : Nat) &&& 0x3F).toUInt32 <<< 8).toNat = clock.toNat / 256 % 64 * 2 ^ 8 := by
    rw [UInt32.toNat_shiftLeft, UInt8.toNat_toUInt32, hhi]
    show ((clock.toNat / 256 % 64) <<< 8) % 2 ^ 32 = _
    rw [Nat.shiftLeft_eq]
    omega
  apply UInt32.toNat_inj.mp
  rw [UInt32.toNat_or, UInt32.toNat_mod, hs, UInt8.toNat_toUInt32, hlo,
    or_eq_add_of_low 8 (by omega) (by omega)]
  exact (by omega : clock.toNat / 256 % 64 * 2 ^ 8 + clock.toNat % 256 = clock.toNat % 16384)

/-- A six-byte node comes back whole. -/
theorem timeUUIDWith_node {node : List UInt8} (hn : node.length = 6) : (timeUUIDWith t clock node).node = node := by
  unfold UUID.node
  rw [if_neg (not_not.mpr (timeUUIDWith_version t clock node))]
  show [node.getD 0 0, node.getD 1 0, node.getD 2 0, node.getD 3 0, node.getD 4 0, node.getD 5 0] = node
  match node, hn with
  | [_, _, _, _, _, _], _ => rfl

end Fields

/-- `Timestamp()` of `timeUUIDWith t`: the eight bytes of `t` laid down, the version nibble taken
off again. -/
theorem timeUUIDWith_timestamp_toInt (t : Int64) (clock : UInt32) (node : List UInt8) :
    (timeUUIDWith t clock node).timestamp.toInt =
      ((goByte t.toInt).toNat + (goByte (t.toInt >>> (8 : Nat))).toNat * 2 ^ 8 + (goByte (t.toInt >>> (16 : Nat))).toNat * 2 ^ 16 +
        (goByte (t.toInt >>> (24 : Nat))).toNat * 2 ^ 24 + (goByte (t.toInt >>> (32 : Nat))).toNat * 2 ^ 32 +
        (goByte (t.toInt >>> (40 : Nat))).toNat * 2 ^ 40 + (goByte (t.toInt >>> (48 : Nat))).toNat * 2 ^ 48 +
        (goByte (t.toInt >>> (56 : Nat)) &&& 0x0F).toNat * 2 ^ 56 : Nat) := by
  rw [timestamp_toInt (timeUUIDWith_version t clock node)]
  show (((goByte t.toInt).toNat + (goByte (t.toInt >>> (8 : Nat))).toNat * 2 ^ 8 + (goByte (t.toInt >>> (16 : Nat))).toNat * 2 ^ 16 +
    (goByte (t.toInt >>> (24 : Nat))).toNat * 2 ^ 24 + (goByte (t.toInt >>> (32 : Nat))).toNat * 2 ^ 32 +
    (goByte (t.toInt >>> (40 : Nat))).toNat * 2 ^ 40 + (goByte (t.toInt >>> (48 : Nat))).toNat * 2 ^ 48 +
    ((goByte (t.toInt >>> (56 : Nat)) &&& 0x0F ||| 0x10) &&& 0x0F).toNat * 2 ^ 56 : Nat) : Int) = _
  rw [(version_stamp _).2]

/-- A timestamp of 60 bits comes back: bytes `0..7` hold its digits base 256, the version
nibble over the top one. -/
theorem timeUUIDWith_timestamp {t : Int64} (h0 : 0 ≤ t.toInt) (h60 : t.toInt < 2 ^ 60) (clock : UInt32)
    (node : List UInt8) : (timeUUIDWith t clock node).timestamp = t := by
  apply Int64.toInt_inj.mp
  rw [timeUUIDWith_timestamp_toInt]
  have h56 : (((goByte (t.toInt >>> (56 : Nat)) &&& 0x0F).toNat : Nat) : Int) = t.toInt / 2 ^ 56 % 256 % 16 := by
    rw [UInt8.toNat_and, show (0x0F : UInt8).toNat = 2 ^ 4 - 1 from rfl, Nat.and_two_pow_sub_one_eq_mod]
    push_cast
    rw [goByte_shiftRight]
    norm_num
  push_cast
  rw [h56, goByte_toNat, goByte_shiftRight, goByte_shiftRight, goByte_shiftRight, goByte_shiftRight,
    goByte_shiftRight, goByte_shiftRight]
  omega

/-! ### Times -/

/-- `getTimestamp` counts the 100 ns intervals since 1582-10-15 whenever they fit in 60 bits. -/
theorem getTimestamp_toInt {t : GoTime} (h0 : 0 ≤ t.uuidTicks) (h60 : t.uuidTicks < 2 ^ 60) :
    (getTimestamp t).toInt = t.uuidTicks := by
  have hb : timeBase.toInt = -12219292800 := by decide
  have h₇ : (10000000 : Int64).toInt = 10000000 := by decide
  have hn := t.nsec_lt
  have hu := Int64.le_toInt t.unix
  unfold GoTime.uuidTicks at h0 h60
  have hsub : (t.unix - timeBase).toInt = t.unix.toInt + 12219292800 := by
    rw [int64_toInt_sub (by omega) (by omega), hb]
    omega
  have hmul : ((t.unix - timeBase) * 10000000).toInt = (t.unix.toInt + 12219292800) * 10000000 := by
    rw [int64_toInt_mul (by rw [hsub, h₇]; omega) (by rw [hsub, h₇]; omega), hsub, h₇]
  have hofs : (Int64.ofNat (t.nsec / 100)).toInt = (t.nsec / 100 : Nat) := int64_toInt_ofNat (by omega)
  unfold getTimestamp GoTime.uuidTicks
  rw [int64_toInt_add (by rw [hmul, hofs]; omega) (by rw [hmul, hofs]; omega), hmul, hofs]
  push_cast
  rfl

theorem uuidFromTime_fst (clockSeq : UInt32) (hardwareAddr : List UInt8) (t : GoTime) :
    (uuidFromTime clockSeq hardwareAddr t).1 = timeUUIDWith (getTimestamp t) (clockSeq + 1) hardwareAddr := rfl

/-- **A UUID from a time gives the time back**, truncated to 100 ns: for a time after
1582-10-15 whose count of 100 ns fits in 60 bits, `Time()` divides the timestamp back into
seconds and a remainder in `[0, 1e7)`, which `time.Unix` keeps. -/
theorem time_uuidFromTime (clockSeq : UInt32) (hardwareAddr : List UInt8) {t : GoTime}
    (h0 : 0 ≤ t.uuidTicks) (h60 : t.uuidTicks < 2 ^ 60) :
    (uuidFromTime clockSeq hardwareAddr t).1.time = t.truncTicks := by
  have hts := getTimestamp_toInt h0 h60
  have hb : timeBase.toInt = -12219292800 := by decide
  have h₇ : (10000000 : Int64).toInt = 10000000 := by decide
  have h₂ : (100 : Int64).toInt = 100 := by decide
  have hn := t.nsec_lt
  have hu := Int64.le_toInt t.unix
  unfold GoTime.uuidTicks at h0 h60 hts
  -- the bounds `time.Unix` asks for, while the context is small
  have hsecLo : -2 ^ 63 < t.unix.toInt := by omega
  have hnsLo : -1000000000 < ((t.nsec / 100 * 100 : Nat) : Int) := by omega
  have hnsHi : ((t.nsec / 100 * 100 : Nat) : Int) < 1000000000 := by omega
  have hT := timeUUIDWith_timestamp (by rw [hts]; exact h0) (by rw [hts]; exact h60) (clockSeq + 1) hardwareAddr
  rw [uuidFromTime_fst]
  unfold UUID.time
  dsimp only
  rw [if_neg (not_not.mpr (timeUUIDWith_version _ _ _)), hT]
  -- the seconds since 1582 and the 100 ns left over
  have hsec : (getTimestamp t / 10000000).toInt = t.unix.toInt + 12219292800 := by
    rw [int64_toInt_div (by rw [h₇]; decide), h₇, tdiv_eq_ite, if_pos (by omega), hts]
    omega
  have hrem : (getTimestamp t % 10000000).toInt = (t.nsec / 100 : Nat) := by
    rw [Int64.toInt_mod, h₇, Int.tmod_eq_emod_of_nonneg (by omega), hts]
    omega
  have hns : (getTimestamp t % 10000000 * 100).toInt = (t.nsec / 100 * 100 : Nat) := by
    rw [int64_toInt_mul (by rw [hrem, h₂]; omega) (by rw [hrem, h₂]; omega), hrem, h₂]
    push_cast
    rfl
  have hs : (getTimestamp t / 10000000 + timeBase).toInt = t.unix.toInt := by
    rw [int64_toInt_add (by rw [hsec, hb]; omega) (by rw [hsec, hb]; omega), hsec, hb]
    omega
  have hpos : ¬ (getTimestamp t % 10000000 * 100).toInt < 0 := by rw [hns]; omega
  obtain ⟨hu', hn'⟩ := @unixNorm_of_small (getTimestamp t / 10000000 + timeBase) (getTimestamp t % 10000000 * 100)
    (by rw [hs]; exact hsecLo) (by rw [hns]; exact hnsLo) (by rw [hns]; exact hnsHi)
  rw [if_neg hpos, hs] at hu'
  rw [if_neg hpos, hns] at hn'
  unfold GoTime.truncTicks
  rw [goUnix, GoTime.mk.injEq]
  exact ⟨Int64.toInt_inj.mp hu', by rw [hn']; rfl⟩

/-! ### The order bounds -/

open BigEndian in
/-- Bytes `8..15` of `timeUUIDWith`, signed: the stamped clock byte, the low clock byte, the
node. -/
theorem lsbSigned_timeUUIDWith (t : Int64) (clock : UInt32) (node : List UInt8) :
    (timeUUIDWith t clock node).lsbSigned =
      [sbyte ((goByte (clock.toNat >>> 8 : Nat) &&& 0x3F) ||| 0x80), sbyte (goByte (clock.toNat : Nat)),
        sbyte (node.getD 0 0), sbyte (node.getD 1 0), sbyte (node.getD 2 0), sbyte (node.getD 3 0),
        sbyte (node.getD 4 0), sbyte (node.getD 5 0)] := rfl

/-- `Timestamp()` reads bytes `0..7` only, which the timestamp alone fills. -/
theorem timeUUIDWith_timestamp_congr (t : Int64) (c c' : UInt32) (n n' : List UInt8) :
    (timeUUIDWith t c n).timestamp = (timeUUIDWith t c' n').timestamp := by
  apply Int64.toInt_inj.mp
  rw [timeUUIDWith_timestamp_toInt, timeUUIDWith_timestamp_toInt]

open BigEndian in
/-- **The least UUID of a timestamp**: `minTimeUUID` has `-128` in each of bytes `8..15`, the
least signed byte, so it lies below every UUID of its timestamp. -/
theorem minTimeUUID_le (t : GoTime) (clock : UInt32) (node : List UInt8) :
    TimeUUIDLe (minTimeUUID t) (timeUUIDWith (getTimestamp t) clock node) := by
  -- the bytes first, then their signed values: the kernel is slow on `sbyte` of each byte
  have hbytes : (minTimeUUID t).toList.drop 8 = List.replicate 8 0x80 := rfl
  have h80 : sbyte 0x80 = -128 := by unfold sbyte; rw [if_pos (by decide)]; rfl
  have hmin : (minTimeUUID t).lsbSigned = List.replicate 8 (-128) := by
    rw [UUID.lsbSigned, hbytes, List.map_replicate, h80]
  refine .inr ⟨timeUUIDWith_timestamp_congr _ _ _ _ _, ?_⟩
  rw [hmin, lsbSigned_timeUUIDWith]
  apply lex_le_of_forall₂
  simp only [List.replicate, List.forall₂_cons, List.Forall₂.nil, and_true]
  refine ⟨?_, ?_, ?_, ?_, ?_, ?_, ?_, ?_⟩
  all_goals exact (sbyte_bounds _).1

open BigEndian in
/-- **The greatest UUID of a timestamp**: `maxTimeUUID` has `0xBF`, signed `-65`, in byte 8 and
`127` after it.  No UUID of its timestamp has more in byte 8, since the variant keeps byte 8 in
`0x80..0xBF`, and no byte exceeds `127`. -/
theorem le_maxTimeUUID (t : GoTime) (clock : UInt32) (node : List UInt8) :
    TimeUUIDLe (timeUUIDWith (getTimestamp t) clock node) (maxTimeUUID t) := by
  have hbytes : (maxTimeUUID t).toList.drop 8 = 0xBF :: List.replicate 7 0x7F := rfl
  have hBF : sbyte 0xBF = -65 := by unfold sbyte; rw [if_pos (by decide)]; rfl
  have h7F : sbyte 0x7F = 127 := by unfold sbyte; rw [if_neg (by decide)]; rfl
  have hmax : (maxTimeUUID t).lsbSigned = -65 :: List.replicate 7 127 := by
    rw [UUID.lsbSigned, hbytes, List.map_cons, List.map_replicate, hBF, h7F]
  obtain ⟨-, -, -, h₁, h₂⟩ := variant_stamp (goByte (clock.toNat >>> 8 : Nat))
  refine .inr ⟨timeUUIDWith_timestamp_congr _ _ _ _ _, ?_⟩
  rw [hmax, lsbSigned_timeUUIDWith]
  apply lex_le_of_forall₂
  simp only [List.replicate, List.forall₂_cons, List.Forall₂.nil, and_true]
  refine ⟨?_, ?_, ?_, ?_, ?_, ?_, ?_, ?_⟩
  · -- the stamped byte is in `0x80..0xBF`, so at most `-65` signed
    unfold sbyte
    rw [if_pos h₁]
    omega
  all_goals exact Int.lt_add_one_iff.mp (sbyte_bounds _).2

/-! ### Time-based UUIDs -/

/-- **Time-based UUIDs keep their fields and respect Cassandra's bounds**: a UUID built from a
60-bit timestamp, a clock and a six-byte node has version 1, the IETF variant, and gives back the
timestamp, the clock modulo `2 ^ 14` and the node; a UUID built from a time after 1582-10-15 gives
back that time truncated to 100 ns; and every UUID of a time's timestamp lies between
`MinTimeUUID` and `MaxTimeUUID` of that time. -/
theorem timeUUID_fields_and_bounds :
    (∀ (ts : Int64) (c : UInt32) (n : List UInt8), 0 ≤ ts.toInt → ts.toInt < 2 ^ 60 → n.length = 6 →
      (timeUUIDWith ts c n).version = 1 ∧ (timeUUIDWith ts c n).variant = variantIETF ∧
        (timeUUIDWith ts c n).timestamp = ts ∧ (timeUUIDWith ts c n).clock = c % 16384 ∧
        (timeUUIDWith ts c n).node = n) ∧
    (∀ (clockSeq : UInt32) (hardwareAddr : List UInt8) (t : GoTime), 0 ≤ t.uuidTicks → t.uuidTicks < 2 ^ 60 →
      (uuidFromTime clockSeq hardwareAddr t).1.time = t.truncTicks) ∧
    (∀ (t : GoTime) (c : UInt32) (n : List UInt8),
      TimeUUIDLe (minTimeUUID t) (timeUUIDWith (getTimestamp t) c n) ∧
        TimeUUIDLe (timeUUIDWith (getTimestamp t) c n) (maxTimeUUID t)) :=
  ⟨fun ts c n h0 h60 hn => ⟨timeUUIDWith_version ts c n, timeUUIDWith_variant ts c n,
      timeUUIDWith_timestamp h0 h60 c n, timeUUIDWith_clock ts c n, timeUUIDWith_node ts c hn⟩,
    fun clockSeq hardwareAddr _ h0 h60 => time_uuidFromTime clockSeq hardwareAddr h0 h60,
    fun t c n => ⟨minTimeUUID_le t c n, le_maxTimeUUID t c n⟩⟩

/-- The fields of a UUID of timestamp 1000, clock `0x1234` and node `1..6`, and the epoch read
back from a UUID built from it. -/
theorem timeUUID_fields_at_epoch :
    ((timeUUIDWith 1000 0x1234 [1, 2, 3, 4, 5, 6]).version = 1 ∧
        (timeUUIDWith 1000 0x1234 [1, 2, 3, 4, 5, 6]).variant = variantIETF ∧
        (timeUUIDWith 1000 0x1234 [1, 2, 3, 4, 5, 6]).timestamp = 1000 ∧
        (timeUUIDWith 1000 0x1234 [1, 2, 3, 4, 5, 6]).clock = 0x1234 % 16384 ∧
        (timeUUIDWith 1000 0x1234 [1, 2, 3, 4, 5, 6]).node = [1, 2, 3, 4, 5, 6]) ∧
      (uuidFromTime 0 [] ⟨0, 0, by decide⟩).1.time = GoTime.truncTicks ⟨0, 0, by decide⟩ :=
  ⟨timeUUID_fields_and_bounds.1 1000 0x1234 [1, 2, 3, 4, 5, 6] (by decide) (by decide) rfl,
    timeUUID_fields_and_bounds.2.1 0 [] ⟨0, 0, by decide⟩ (by decide) (by decide)⟩

end Gocql
