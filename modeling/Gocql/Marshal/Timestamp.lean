import Gocql.Marshal.Date
import Gocql.Marshal.Scalars

/-!
# Marshal — timestamps

A CQL `timestamp` is the milliseconds since the epoch, as the eight bytes of `encBigInt`.
`marshalTimestamp` writes a `time.Time` as `Unix()*1e3 + Nanosecond()/1e6`, in `int64`
arithmetic, and the zero `time.Time` as the empty value; `unmarshalTimestamp` reads `x` back
into a `*time.Time` as `time.Unix(x/1000, (x - x/1000*1000)*1e6)`, with Go's truncating
division, and the empty value as the zero `time.Time`.

* `unixFromMillis_unix`, `unixFromMillis_nsec`: the instant read back from `x` is the one `x`
  milliseconds after the epoch: its seconds are the floor of `x / 1000`, whatever the sign.
* `unmarshalTimestamp_marshalTimestamp`: a non-zero instant whose milliseconds fit in `int64`
  comes back truncated to the millisecond, before 1970 too.
* `timestamp_reencode_iff`: an `int64` read back and written again gives its own bytes exactly
  when it is not `-62135596800000`, the milliseconds of the zero `time.Time`, which is written
  as the empty value.
* `timestamp_codec`: the codec as a whole, the zero-time guard included.
-/

namespace Gocql

open Go

/-- The Go values `marshalTimestamp` switches on, a `Marshaler` apart; `int64Kind` is a value of
another type of kind `reflect.Int64`, `other` a value of any other type. -/
inductive TimestampValue where
  | unset
  | int64 (v : Int64)
  | time (t : GoTime)
  | nil
  | int64Kind (v : Int64)
  | other

/-- `marshalTimestamp(info, value)`.  Its errors are the date codec's (`DateError`): the
messages are the same. -/
def marshalTimestamp : TimestampValue → Except DateError GoBytes
  | .unset => .ok none
  | .int64 v => .ok (some (encBigInt v))
  | .time t => .ok (some (if t.isZero then [] else encBigInt t.timestamp))
  | .nil => .ok none
  | .int64Kind v => .ok (some (encBigInt v))
  | .other => .error .cannotMarshal

/-- The destinations `unmarshalTimestamp` stores into, an `Unmarshaler` apart: `*int64`,
`*time.Time`, a pointer to another type of kind `reflect.Int64`, or another pointer. -/
inductive TimestampDest where
  | int64
  | time
  | int64Kind
  | other

/-- What `unmarshalTimestamp` stores. -/
inductive TimestampStored where
  | int64 (v : Int64)
  | time (t : GoTime)
  deriving DecidableEq

/-- `sec := x / 1000; nsec := (x - sec*1000) * 1000000; time.Unix(sec, nsec)`. -/
def unixFromMillis (x : Int64) : GoTime :=
  let sec := x / 1000
  let nsec := (x - sec * 1000) * 1000000
  goUnix sec nsec

/-- `unmarshalTimestamp(info, data, value)`.  `.In(time.UTC)` changes the location, not the
instant. -/
def unmarshalTimestamp (data : List UInt8) : TimestampDest → Except DateError TimestampStored
  | .int64 => .ok (.int64 (decBigInt data))
  | .time => .ok (.time (if data.length = 0 then GoTime.zero else unixFromMillis (decBigInt data)))
  | .int64Kind => .ok (.int64 (decBigInt data))
  | .other => .error .cannotUnmarshal

/-- The instant truncated to the millisecond. -/
def GoTime.truncMilli (t : GoTime) : GoTime :=
  ⟨t.unix, t.nsec / 1000000 * 1000000, by have := t.nsec_lt; omega⟩

/-! ### Reading milliseconds -/

/-- The seconds and the remainder the decoder computes: the truncated quotient by 1000, and a
remainder in `(-1000, 1000)` of the sign of `x`. -/
theorem toInt_sec_rem (x : Int64) :
    (x / 1000).toInt = x.toInt.tdiv 1000 ∧ (x - x / 1000 * 1000).toInt = x.toInt - x.toInt.tdiv 1000 * 1000 := by
  have h₃ : (1000 : Int64).toInt = 1000 := by decide
  have hx₁ := Int64.le_toInt x
  have hx₂ := Int64.toInt_lt x
  have hq := int64_toInt_div (a := x) (b := 1000) (by rw [h₃]; decide)
  rw [h₃] at hq
  have hqb : -2 ^ 63 ≤ x.toInt.tdiv 1000 * 1000 ∧ x.toInt.tdiv 1000 * 1000 < 2 ^ 63 ∧
      -1000 < x.toInt - x.toInt.tdiv 1000 * 1000 ∧ x.toInt - x.toInt.tdiv 1000 * 1000 < 1000 := by
    rw [tdiv_eq_ite]
    split <;> omega
  have hm := int64_toInt_mul (a := x / 1000) (b := 1000) (by rw [hq, h₃]; omega) (by rw [hq, h₃]; omega)
  rw [hq, h₃] at hm
  refine ⟨hq, ?_⟩
  rw [int64_toInt_sub (by rw [hm]; omega) (by rw [hm]; omega), hm]

/-- `time.Unix` of a nanosecond count in `(-1e9, 1e9)`: one second back for a negative one. -/
theorem unixNorm_of_small {sec nsec : Int64} (hs : -2 ^ 63 < sec.toInt) (hlo : -1000000000 < nsec.toInt)
    (hhi : nsec.toInt < 1000000000) :
    (unixNorm sec nsec).1.toInt = (if nsec.toInt < 0 then sec.toInt - 1 else sec.toInt) ∧
      (unixNorm sec nsec).2.toInt = (if nsec.toInt < 0 then nsec.toInt + 1000000000 else nsec.toInt) := by
  have h₉ : (1000000000 : Int64).toInt = 1000000000 := by decide
  have hs' := Int64.toInt_lt sec
  have hq : (nsec / 1000000000).toInt = 0 := by
    rw [int64_toInt_div (by rw [h₉]; decide), h₉, tdiv_eq_ite]
    split <;> omega
  have hz : nsec / 1000000000 = 0 := by rw [← Int64.toInt_inj, hq, Int64.toInt_zero]
  have hm : nsec - 0 * 1000000000 = nsec := by rw [Int64.zero_mul, Int64.sub_zero]
  unfold unixNorm
  rw [hz, hm, Int64.add_zero]
  by_cases hneg : nsec.toInt < 0
  · have hlt : nsec < 0 := by rw [Int64.lt_iff_toInt_lt, Int64.toInt_zero]; exact hneg
    rw [if_pos (.inl hlt), if_pos hlt, if_pos hneg, if_pos hneg]
    -- `sec - 1` and `nsec + 1e9` do not wrap
    exact ⟨by rw [int64_toInt_sub (by rw [Int64.toInt_one]; omega) (by rw [Int64.toInt_one]; omega),
        Int64.toInt_one],
      by rw [int64_toInt_add (by rw [h₉]; omega) (by rw [h₉]; omega), h₉]⟩
  · have hin : ¬ (nsec < 0 ∨ 1000000000 ≤ nsec) := by
      rw [Int64.lt_iff_toInt_lt, Int64.le_iff_toInt_le, h₉, Int64.toInt_zero]
      omega
    rw [if_neg hin, if_neg hneg, if_neg hneg]
    exact ⟨rfl, rfl⟩

theorem goUnix_unix (sec nsec : Int64) : (goUnix sec nsec).unix = (unixNorm sec nsec).1 := rfl

theorem goUnix_nsec (sec nsec : Int64) : (goUnix sec nsec).nsec = (unixNorm sec nsec).2.toInt.toNat := rfl

/-- The instant read back from `x` milliseconds: its seconds are the floor of `x / 1000`. -/
theorem unixFromMillis_unix (x : Int64) : (unixFromMillis x).unix.toInt = x.toInt / 1000 ∧
    (unixFromMillis x).nsec = (x.toInt % 1000).toNat * 1000000 := by
  obtain ⟨hsec, hrem⟩ := toInt_sec_rem x
  have hx₁ := Int64.le_toInt x
  have hx₂ := Int64.toInt_lt x
  have h₆ : (1000000 : Int64).toInt = 1000000 := by decide
  have hr : -1000 < x.toInt - x.toInt.tdiv 1000 * 1000 ∧ x.toInt - x.toInt.tdiv 1000 * 1000 < 1000 := by
    rw [tdiv_eq_ite]
    split <;> omega
  have hn := int64_toInt_mul (a := x - x / 1000 * 1000) (b := 1000000) (by rw [hrem, h₆]; omega)
    (by rw [hrem, h₆]; omega)
  rw [hrem, h₆] at hn
  obtain ⟨hu, hv⟩ := @unixNorm_of_small (x / 1000) ((x - x / 1000 * 1000) * 1000000)
    (by rw [hsec, tdiv_eq_ite]; split <;> omega) (by rw [hn]; omega) (by rw [hn]; omega)
  rw [hsec, hn] at hu
  rw [hn] at hv
  unfold unixFromMillis
  rw [goUnix_unix, goUnix_nsec, hu, hv]
  constructor
  · -- a negative remainder is the floor's one second back
    rw [tdiv_eq_ite]
    split <;> split <;> omega
  · rw [tdiv_eq_ite]
    split <;> split <;> omega

/-- The instant read back from `x` is `x` milliseconds after the epoch. -/
theorem unixFromMillis_millis (x : Int64) : (unixFromMillis x).millis = x.toInt := by
  obtain ⟨hu, hn⟩ := unixFromMillis_unix x
  unfold GoTime.millis
  rw [hu, hn]
  omega

/-! ### Writing an instant -/

/-- The milliseconds `marshalTimestamp` computes are the instant's whenever they fit: the
product `Unix()*1e3` may wrap, the sum wraps back. -/
theorem GoTime.timestamp_toInt_of_millis {t : GoTime} (hlo : -2 ^ 63 ≤ t.millis) (hhi : t.millis < 2 ^ 63) :
    t.timestamp.toInt = t.millis := by
  have h₁ : (1000 : Int64).toInt = 1000 := by decide
  have hn := t.nsec_lt
  have hf := int64_toInt_ofNat (n := t.nsec / 1000000) (by omega)
  unfold GoTime.timestamp
  rw [Int64.toInt_add, Int64.toInt_mul, hf, h₁, Int.bmod_add_bmod]
  exact Int.bmod_eq_of_le_mul_two (by unfold GoTime.millis at hlo; omega) (by unfold GoTime.millis at hhi; omega)

/-- `IsZero` of the instant read back from `x`: exactly the zero time's milliseconds. -/
theorem unixFromMillis_isZero (x : Int64) : (unixFromMillis x).isZero = true ↔ x = -62135596800000 := by
  obtain ⟨hu, hn⟩ := unixFromMillis_unix x
  have hz : (-62135596800 : Int64).toInt = -62135596800 := by decide
  have hz' : (-62135596800000 : Int64).toInt = -62135596800000 := by decide
  unfold GoTime.isZero
  rw [Bool.and_eq_true, beq_iff_eq, beq_iff_eq, ← Int64.toInt_inj, ← Int64.toInt_inj, hu, hn, hz, hz']
  omega

/-- `IsZero` holds of the zero time only. -/
theorem GoTime.isZero_iff (t : GoTime) : t.isZero = true ↔ t = GoTime.zero := by
  rcases t with ⟨unix, nsec, h⟩
  unfold GoTime.isZero GoTime.zero
  rw [Bool.and_eq_true, beq_iff_eq, beq_iff_eq, GoTime.mk.injEq]

/-- `marshalTimestamp` writes the instant read back from `x` as `x`, unless it is the zero time. -/
theorem marshalTimestamp_unixFromMillis (x : Int64) :
    marshalTimestamp (.time (unixFromMillis x)) =
      .ok (some (if x = -62135596800000 then [] else encBigInt x)) := by
  have hts : (unixFromMillis x).timestamp = x := by
    have hm := unixFromMillis_millis x
    rw [← Int64.toInt_inj, GoTime.timestamp_toInt_of_millis (by rw [hm]; exact Int64.le_toInt x)
      (by rw [hm]; exact Int64.toInt_lt x), hm]
  show Except.ok (some (if (unixFromMillis x).isZero then [] else encBigInt (unixFromMillis x).timestamp)) = _
  by_cases hx : x = -62135596800000
  · rw [if_pos ((unixFromMillis_isZero x).mpr hx), if_pos hx]
  · rw [if_neg (fun h => hx ((unixFromMillis_isZero x).mp h)), if_neg hx, hts]

/-! ### The round trips -/

/-- **Instants come back truncated to the millisecond**: a non-zero instant whose milliseconds
fit in `int64` is written as eight bytes that `unmarshalTimestamp` reads back into a
`*time.Time` as the instant truncated to the millisecond, whatever its sign. -/
theorem unmarshalTimestamp_marshalTimestamp {t : GoTime} (hz : t.isZero = false)
    (hlo : -2 ^ 63 ≤ t.millis) (hhi : t.millis < 2 ^ 63) :
    ∃ data, marshalTimestamp (.time t) = .ok (some data) ∧
      unmarshalTimestamp data .time = .ok (.time t.truncMilli) := by
  have hts := GoTime.timestamp_toInt_of_millis hlo hhi
  have hn := t.nsec_lt
  refine ⟨encBigInt t.timestamp, by rw [marshalTimestamp, hz]; rfl, ?_⟩
  obtain ⟨hu, hns⟩ := unixFromMillis_unix t.timestamp
  rw [hts] at hu hns
  unfold GoTime.millis at hu hns
  have hlen : (encBigInt t.timestamp).length ≠ 0 := by
    rw [show (encBigInt t.timestamp).length = 8 from rfl]
    decide
  rw [unmarshalTimestamp, if_neg hlen, decBigInt_encBigInt]
  congr 2
  -- the same seconds, and the nanoseconds of the whole milliseconds
  unfold GoTime.truncMilli
  rcases h : unixFromMillis t.timestamp with ⟨unix, nsec, hlt⟩
  rw [h] at hu hns
  dsimp only at hu hns ⊢
  have hunix : unix = t.unix := by
    rw [← Int64.toInt_inj, hu]
    omega
  rw [GoTime.mk.injEq]
  exact ⟨hunix, by rw [hns]; omega⟩

/-- **Bytes come back, but for one value**: the `int64` `x` read back into a `*time.Time` and
written again gives the bytes of `x` exactly when `x` is not the zero time's milliseconds; at
that value the zero time is read back, and written as the empty value. -/
theorem timestamp_reencode_iff (x : Int64) :
    ∃ t, unmarshalTimestamp (encBigInt x) .time = .ok (.time t) ∧
      (marshalTimestamp (.time t) = .ok (some (encBigInt x)) ↔ x ≠ -62135596800000) := by
  have h8 : (encBigInt x).length = 8 := rfl
  have hlen : (encBigInt x).length ≠ 0 := by rw [h8]; decide
  refine ⟨unixFromMillis x, by rw [unmarshalTimestamp, if_neg hlen, decBigInt_encBigInt], ?_⟩
  rw [marshalTimestamp_unixFromMillis]
  by_cases hx : x = -62135596800000
  · rw [if_pos hx]
    constructor
    · intro h
      -- the empty value is not the eight bytes
      have hl := congrArg List.length (Option.some.inj (Except.ok.inj h))
      rw [h8, List.length_nil] at hl
      cases hl
    · intro h; exact absurd hx h
  · rw [if_neg hx]
    exact iff_of_true rfl hx

/-- `0001-01-01T00:00:00Z`, the milliseconds `-62135596800000`, is read back as the zero time and
written as the empty value, not as its eight bytes. -/
theorem timestamp_zero_instant_lost :
    unmarshalTimestamp (encBigInt (-62135596800000)) .time = .ok (.time GoTime.zero) ∧
      marshalTimestamp (.time GoTime.zero) = .ok (some []) ∧
      marshalTimestamp (.time GoTime.zero) ≠ .ok (some (encBigInt (-62135596800000))) := by
  have h8 : (encBigInt (-62135596800000 : Int64)).length = 8 := rfl
  have hlen : (encBigInt (-62135596800000 : Int64)).length ≠ 0 := by
    rw [h8]
    decide
  have hzero := (GoTime.isZero_iff _).mp ((unixFromMillis_isZero (-62135596800000)).mpr rfl)
  have hmarshal : marshalTimestamp (.time GoTime.zero) = .ok (some []) := rfl
  refine ⟨?_, hmarshal, fun h => ?_⟩
  · rw [unmarshalTimestamp, if_neg hlen, decBigInt_encBigInt, hzero]
  · -- the empty value is not the eight bytes
    have hl := congrArg List.length (Option.some.inj (Except.ok.inj (hmarshal.symm.trans h)))
    rw [h8, List.length_nil] at hl
    cases hl

/-- **The timestamp codec, with its zero-time guard**: a non-zero instant whose milliseconds fit
in `int64` comes back truncated to the millisecond, before 1970 too; every `int64` read back and
written again gives its own bytes, but the zero time's milliseconds, which the guard writes as
the empty value; and the zero time is written as the empty value and read back from it. -/
theorem timestamp_codec :
    (∀ t : GoTime, t.isZero = false → -2 ^ 63 ≤ t.millis → t.millis < 2 ^ 63 →
      ∃ data, marshalTimestamp (.time t) = .ok (some data) ∧
        unmarshalTimestamp data .time = .ok (.time t.truncMilli)) ∧
    (∀ x : Int64, ∃ t, unmarshalTimestamp (encBigInt x) .time = .ok (.time t) ∧
      (marshalTimestamp (.time t) = .ok (some (encBigInt x)) ↔ x ≠ -62135596800000)) ∧
    marshalTimestamp (.time GoTime.zero) = .ok (some []) ∧
      unmarshalTimestamp [] .time = .ok (.time GoTime.zero) :=
  ⟨fun _ hz hlo hhi => unmarshalTimestamp_marshalTimestamp hz hlo hhi, timestamp_reencode_iff, rfl,
    rfl⟩

end Gocql
