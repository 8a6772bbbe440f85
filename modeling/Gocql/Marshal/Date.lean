import Gocql.Marshal.RoundTrip
import Gocql.Support.WordBits

/-!
# Marshal — dates

A CQL `date` is a day number biased by `2 ^ 31`, as four big-endian bytes.  `marshalDate`
computes it from a `time.Time` as `timestamp / millisecondsInADay + 2 ^ 31`, where `timestamp`
is the instant's milliseconds since the epoch and `/` is Go's `int64` division, which truncates
towards zero; `unmarshalDate` turns the day back into `time.UnixMilli(day · millisecondsInADay)`.

A `time.Time` is modelled by the instant it denotes (`GoTime`): the two values the code reads
of it, `t.UTC().Unix()` and `t.UTC().Nanosecond()`, the second below `1e9` by construction.
`time.Unix` and `time.UnixMilli` are translated from the Go library, with their normalisation
of the nanoseconds.

* `marshalDate`, `unmarshalDate`, with `encInt` and `binary.BigEndian.Uint32`.
* `unmarshalDate_marshalDate`: for every non-zero instant whose UTC day lies in
  `[-2 ^ 31, 2 ^ 31)`, the round trip gives midnight UTC of the truncated quotient of its
  milliseconds by the day.
* `marshalDate_before_epoch_next_day`: an instant before the epoch and off a day boundary comes
  back as midnight of the day after its own.
-/

namespace Gocql

open Go

/-! ### `time` -/

/-- A `time.Time`, by the instant it denotes: `t.UTC().Unix()` and `t.UTC().Nanosecond()`. -/
structure GoTime where
  unix : Int64
  nsec : Nat
  nsec_lt : nsec < 1000000000
  deriving DecidableEq

/-- `time.Time{}`: January 1 of year 1, 00:00:00 UTC. -/
def GoTime.zero : GoTime := ⟨-62135596800, 0, by decide⟩

/-- `t.IsZero()`. -/
def GoTime.isZero (t : GoTime) : Bool := t.unix == -62135596800 && t.nsec == 0

/-- What `time.Unix(sec, nsec)` does to a `nsec` outside `[0, 1e9)`: `n := nsec / 1e9;
sec += n; nsec -= n * 1e9`, then `nsec += 1e9; sec--` when `nsec` is still negative. -/
def unixNorm (sec nsec : Int64) : Int64 × Int64 :=
  if nsec < 0 ∨ 1000000000 ≤ nsec then
    if nsec - nsec / 1000000000 * 1000000000 < 0 then
      (sec + nsec / 1000000000 - 1, nsec - nsec / 1000000000 * 1000000000 + 1000000000)
    else (sec + nsec / 1000000000, nsec - nsec / 1000000000 * 1000000000)
  else (sec, nsec)

theorem unixNorm_nsec (sec nsec : Int64) :
    0 ≤ (unixNorm sec nsec).2.toInt ∧ (unixNorm sec nsec).2.toInt < 1000000000 := by
  have h₀ : (1000000000 : Int64).toInt = 1000000000 := by decide
  have hn₁ := Int64.le_toInt nsec
  have hn₂ := Int64.toInt_lt nsec
  unfold unixNorm
  by_cases hout : nsec < 0 ∨ 1000000000 ≤ nsec
  · rw [if_pos hout]
    -- `n * 1e9` fits, and `nsec - n * 1e9` is the truncated remainder, within `(-1e9, 1e9)`
    have hq := int64_toInt_div (a := nsec) (b := 1000000000) (by rw [h₀]; decide)
    rw [h₀, tdiv_eq_ite] at hq
    have hb : -2 ^ 63 ≤ (nsec / 1000000000).toInt * 1000000000 ∧
        (nsec / 1000000000).toInt * 1000000000 < 2 ^ 63 ∧
        -1000000000 < nsec.toInt - (nsec / 1000000000).toInt * 1000000000 ∧
        nsec.toInt - (nsec / 1000000000).toInt * 1000000000 < 1000000000 := by
      split at hq <;> omega
    have hm := int64_toInt_mul (a := nsec / 1000000000) (b := 1000000000) (by rw [h₀]; omega)
      (by rw [h₀]; omega)
    rw [h₀] at hm
    have hr := int64_toInt_sub (a := nsec) (b := nsec / 1000000000 * 1000000000) (by rw [hm]; omega)
      (by rw [hm]; omega)
    rw [hm] at hr
    generalize nsec - nsec / 1000000000 * 1000000000 = r at hr ⊢
    by_cases hneg : r < 0
    · rw [if_pos hneg]
      show 0 ≤ (r + 1000000000).toInt ∧ (r + 1000000000).toInt < 1000000000
      rw [Int64.lt_iff_toInt_lt, hr, Int64.toInt_zero] at hneg
      rw [int64_toInt_add (by rw [hr, h₀]; omega) (by rw [hr, h₀]; omega), hr, h₀]
      omega
    · rw [if_neg hneg]
      show 0 ≤ r.toInt ∧ r.toInt < 1000000000
      rw [Int64.lt_iff_toInt_lt, hr, Int64.toInt_zero] at hneg
      rw [hr]
      omega
  · rw [if_neg hout]
    show 0 ≤ nsec.toInt ∧ nsec.toInt < 1000000000
    rw [Int64.lt_iff_toInt_lt, Int64.le_iff_toInt_le, h₀, Int64.toInt_zero] at hout
    omega

/-- `time.Unix(sec, nsec)`. -/
def goUnix (sec nsec : Int64) : GoTime :=
  ⟨(unixNorm sec nsec).1, (unixNorm sec nsec).2.toInt.toNat, by
    have := unixNorm_nsec sec nsec
    omega⟩

/-- `time.UnixMilli(msec)`: `Unix(msec/1e3, (msec%1e3)*1e6)`. -/
def unixMilli (msec : Int64) : GoTime := goUnix (msec / 1000) (msec % 1000 * 1000000)

/-! ### The codec -/

/-- `millisecondsInADay`. -/
def millisecondsInADay : Int64 := 24 * 60 * 60 * 1000

/-- `binary.BigEndian.Uint32(b)`: the bounds check `_ = b[3]` first, so a short slice fails
there, then the big-endian value of the first four bytes. -/
def bigEndianUint32 {ε : Type} (b : List UInt8) : Outcome ε UInt32 := do
  let b₃ ← index b 3
  let b₂ ← index b 2
  let b₁ ← index b 1
  let b₀ ← index b 0
  pure (UInt32.ofNat (BigEndian.val [b₀, b₁, b₂, b₃]))

/-- The Go values `marshalDate` switches on, a `Marshaler` and a `string` apart; a value of any
other type is `other`. -/
inductive DateValue where
  | unset
  | int64 (v : Int64)
  | time (t : GoTime)
  | timePtr (p : Option GoTime)
  | nil
  | other

/-- The errors of the date codec, one constructor per message. -/
inductive DateError where
  /-- `can not marshal %T into %s` -/
  | cannotMarshal
  /-- `can not unmarshal %s into %T` -/
  | cannotUnmarshal
  deriving DecidableEq, Repr

/-- `x := timestamp/millisecondsInADay + int64(1<<31); return encInt(int32(x))`, the two lines
each arm of `marshalDate` ends with. -/
def encDay (timestamp : Int64) : List UInt8 :=
  encInt (timestamp / millisecondsInADay + (1 : Int64) <<< 31).toInt32

/-- `int64(v.UTC().Unix()*1e3) + int64(v.UTC().Nanosecond()/1e6)`. -/
def GoTime.timestamp (t : GoTime) : Int64 := t.unix * 1000 + Int64.ofNat (t.nsec / 1000000)

/-- `marshalDate(info, value)`: the zero time is the empty value, and a nil `*time.Time` is
dereferenced by `v.IsZero()`. -/
def marshalDate : DateValue → Outcome Empty (Except DateError GoBytes)
  | .unset => pure (.ok none)
  | .int64 v => pure (.ok (some (encDay v)))
  | .time t => pure (.ok (some (if t.isZero then [] else encDay t.timestamp)))
  | .timePtr p => do
    let t ← deref p
    pure (.ok (some (if t.isZero then [] else encDay t.timestamp)))
  | .nil => pure (.ok none)
  | .other => pure (.error .cannotMarshal)

/-- The destinations `unmarshalDate` stores into: a `*time.Time`, or a pointer of another type
(an `Unmarshaler` and a `*string` apart). -/
inductive DateDest where
  | time
  | other

/-- `unmarshalDate(info, data, value)`, with the `time.Time` it stores. -/
def unmarshalDate (data : List UInt8) : DateDest → Outcome Empty (Except DateError GoTime)
  | .time =>
    if data.length = 0 then pure (.ok GoTime.zero)
    else do
      let origin : UInt32 := (1 : UInt32) <<< 31
      let current ← bigEndianUint32 data
      let timestamp := (Int64.ofNat current.toNat - Int64.ofNat origin.toNat) * millisecondsInADay
      pure (.ok (unixMilli timestamp))
  | .other => pure (.error .cannotUnmarshal)

/-! ### Days -/

/-- The instant's whole milliseconds since the epoch. -/
def GoTime.millis (t : GoTime) : Int := t.unix.toInt * 1000 + t.nsec / 1000000

/-- The instant's UTC calendar day, counted from 1970-01-01. -/
def GoTime.utcDay (t : GoTime) : Int := t.unix.toInt / 86400

/-- 00:00:00 UTC of day `d`. -/
def midnight (d : Int) : GoTime := ⟨Int64.ofInt (d * 86400), 0, by decide⟩


theorem encInt_eq_appendInt (x : Int32) : encInt x = appendInt [] x.toInt := by
  simp only [encInt, appendInt, List.nil_append, Int.shiftRight_eq_div_pow, Nat.cast_pow, Nat.cast_ofNat]

/-- `Uint32` reads back the four bytes of `appendInt` as their value modulo `2 ^ 32`. -/
theorem bigEndianUint32_appendInt {ε : Type} (z : Int) :
    ∃ c, (bigEndianUint32 (appendInt [] z) : Outcome ε UInt32) = .ok c ∧ (c.toNat : Int) = z % 2 ^ 32 := by
  refine ⟨_, rfl, ?_⟩
  have hv := val_appendInt z
  have hlt := BigEndian.val_lt (appendInt [] z)
  rw [length_appendInt] at hlt
  simp only [UInt32.toNat_ofNat', appendInt, List.nil_append] at hv hlt ⊢
  rw [Nat.mod_eq_of_lt (by simpa using hlt)]
  exact hv

/-- A time whose UTC day is in range has its milliseconds computed without overflow. -/
theorem GoTime.timestamp_toInt {t : GoTime} (hlo : -2 ^ 31 ≤ t.utcDay) (hhi : t.utcDay < 2 ^ 31) :
    t.timestamp.toInt = t.millis := by
  have h₁ : (1000 : Int64).toInt = 1000 := by decide
  have hn := t.nsec_lt
  unfold GoTime.utcDay at hlo hhi
  have hm := int64_toInt_mul (a := t.unix) (b := 1000) (by rw [h₁]; omega) (by rw [h₁]; omega)
  have hf := int64_toInt_ofNat (n := t.nsec / 1000000) (by omega)
  rw [h₁] at hm
  unfold GoTime.timestamp GoTime.millis
  rw [int64_toInt_add (by rw [hm, hf]; omega) (by rw [hm, hf]; omega), hm, hf]
  omega

/-- The day `encDay` writes, read back with `Uint32`, is the truncated quotient biased by
`2 ^ 31`. -/
theorem bigEndianUint32_encDay {ε : Type} {timestamp : Int64}
    (hlo : -2 ^ 31 ≤ timestamp.toInt.tdiv 86400000) (hhi : timestamp.toInt.tdiv 86400000 < 2 ^ 31) :
    ∃ c, (bigEndianUint32 (encDay timestamp) : Outcome ε UInt32) = .ok c ∧
      (c.toNat : Int) = timestamp.toInt.tdiv 86400000 + 2 ^ 31 := by
  have hd : millisecondsInADay.toInt = 86400000 := by decide
  have hb : ((1 : Int64) <<< 31).toInt = 2 ^ 31 := by decide
  have hq := int64_toInt_div (a := timestamp) (b := millisecondsInADay) (by rw [hd]; decide)
  rw [hd] at hq
  have hx := int64_toInt_add (a := timestamp / millisecondsInADay) (b := (1 : Int64) <<< 31)
    (by rw [hq, hb]; omega) (by rw [hq, hb]; omega)
  rw [hq, hb] at hx
  obtain ⟨c, hc, hcv⟩ := bigEndianUint32_appendInt (ε := ε)
    (timestamp / millisecondsInADay + (1 : Int64) <<< 31).toInt32.toInt
  refine ⟨c, by rw [encDay, encInt_eq_appendInt]; exact hc, ?_⟩
  rw [hcv, Int64.toInt_toInt32, Int.bmod_def, hx]
  split <;> omega

/-- `time.UnixMilli` of a whole number of days is midnight of that day. -/
theorem unixMilli_of_days {timestamp : Int64} {d : Int} (h : timestamp.toInt = d * 86400000)
    (hlo : -2 ^ 31 ≤ d) (hhi : d ≤ 2 ^ 31) : unixMilli timestamp = midnight d := by
  have h₃ : (1000 : Int64).toInt = 1000 := by decide
  have h₆ : (1000000 : Int64).toInt = 1000000 := by decide
  have hsec := int64_toInt_div (a := timestamp) (b := 1000) (by rw [h₃]; decide)
  have hms : (timestamp % 1000).toInt = 0 := by
    rw [Int64.toInt_mod, h, h₃]
    exact Int.tmod_eq_zero_of_dvd ⟨d * 86400, by ring⟩
  have hzero : timestamp % 1000 * 1000000 = 0 := by
    rw [← Int64.toInt_inj, Int64.toInt_zero, int64_toInt_mul (by rw [hms, h₆]; omega) (by rw [hms, h₆]; omega),
      hms]
    rfl
  -- a zero nanosecond needs no normalisation
  have hnorm : unixNorm (timestamp / 1000) 0 = (timestamp / 1000, 0) := by
    unfold unixNorm
    rw [if_neg (by decide)]
  have hsec' : (timestamp / 1000).toInt = d * 86400 := by
    rw [hsec, h, h₃, tdiv_eq_ite]
    split <;> omega
  unfold unixMilli goUnix midnight
  simp only [hzero, hnorm, Int64.toInt_zero, Int.toNat_zero, GoTime.mk.injEq, and_true]
  have hs : Int64.size = 2 ^ 64 := rfl
  rw [← Int64.toInt_inj, hsec', Int64.toInt_ofInt, hs]
  exact (Int.bmod_eq_of_le_mul_two (by omega) (by omega)).symm


/-- The milliseconds of an instant fall in its UTC day. -/
theorem GoTime.millis_div_day (t : GoTime) : t.millis / 86400000 = t.utcDay := by
  have hn := t.nsec_lt
  unfold GoTime.millis GoTime.utcDay
  omega

/-- **The date round trip**: a non-zero instant whose UTC day is in `[-2 ^ 31, 2 ^ 31)` is
written as four bytes that `unmarshalDate` reads back as midnight UTC of the truncated quotient
of its milliseconds by the day. -/
theorem unmarshalDate_marshalDate {t : GoTime} (hz : t.isZero = false) (hlo : -2 ^ 31 ≤ t.utcDay)
    (hhi : t.utcDay < 2 ^ 31) :
    ∃ data, marshalDate (.time t) = .ok (.ok (some data)) ∧
      unmarshalDate data .time = .ok (.ok (midnight (t.millis.tdiv 86400000))) := by
  have hts := GoTime.timestamp_toInt hlo hhi
  have hday := t.millis_div_day
  -- the truncated quotient is the floor, or one more below the epoch, so it stays in range
  have hq : -2 ^ 31 ≤ t.millis.tdiv 86400000 ∧ t.millis.tdiv 86400000 < 2 ^ 31 := by
    rw [tdiv_eq_ite]
    split <;> omega
  obtain ⟨c, hc, hcv⟩ := @bigEndianUint32_encDay Empty t.timestamp
    (by rw [hts]; exact hq.1) (by rw [hts]; exact hq.2)
  rw [hts] at hcv
  have hd : millisecondsInADay.toInt = 86400000 := by decide
  have ho : (Int64.ofNat ((1 : UInt32) <<< 31).toNat).toInt = 2 ^ 31 := by decide
  have hcur := int64_toInt_ofNat (n := c.toNat) (by omega)
  have hsub := int64_toInt_sub (a := Int64.ofNat c.toNat) (b := Int64.ofNat ((1 : UInt32) <<< 31).toNat)
    (by rw [hcur, ho]; omega) (by rw [hcur, ho]; omega)
  rw [hcur, ho] at hsub
  have hms := int64_toInt_mul (a := Int64.ofNat c.toNat - Int64.ofNat ((1 : UInt32) <<< 31).toNat)
    (b := millisecondsInADay) (by rw [hsub, hd]; omega) (by rw [hsub, hd]; omega)
  rw [hsub, hd, hcv] at hms
  have hlen : (encDay t.timestamp).length ≠ 0 := by simp [encDay, encInt]
  refine ⟨encDay t.timestamp, by simp [marshalDate, hz], ?_⟩
  simp only [unmarshalDate, if_neg hlen, hc, Outcome.ok_bind]
  rw [unixMilli_of_days (d := t.millis.tdiv 86400000) (by rw [hms]; ring) hq.1 (by omega)]
  rfl

/-- 1970-01-02T00:00:00Z is day 1, written `0x80000001`. -/
example : marshalDate (.time ⟨86400, 0, by decide⟩) = .ok (.ok (some [0x80, 0, 0, 1])) := by
  rfl

theorem midnight_ne_succ {d : Int} (hlo : -2 ^ 31 ≤ d) (hhi : d < 2 ^ 31) : midnight (d + 1) ≠ midnight d := by
  intro h
  have hs : Int64.size = 2 ^ 64 := rfl
  have hu := congrArg (fun t : GoTime => t.unix.toInt) h
  simp only [midnight, Int64.toInt_ofInt, hs] at hu
  rw [Int.bmod_eq_of_le_mul_two (by omega) (by omega), Int.bmod_eq_of_le_mul_two (by omega) (by omega)] at hu
  omega

theorem marshalDate_before_epoch_next_day {t : GoTime} (hz : t.isZero = false) (hlo : -2 ^ 31 ≤ t.utcDay)
    (hneg : t.millis < 0) (hmid : t.millis % 86400000 ≠ 0) :
    ∃ data, marshalDate (.time t) = .ok (.ok (some data)) ∧
      unmarshalDate data .time = .ok (.ok (midnight (t.utcDay + 1))) ∧
      midnight (t.utcDay + 1) ≠ midnight t.utcDay := by
  have hday := t.millis_div_day
  have hhi : t.utcDay < 2 ^ 31 := by omega
  -- below the epoch and off a day boundary, truncation rounds up to the next day
  have hq : t.millis.tdiv 86400000 = t.utcDay + 1 := by
    rw [tdiv_eq_ite, if_neg (by omega)]
    omega
  obtain ⟨data, hm, hu⟩ := unmarshalDate_marshalDate hz hlo hhi
  rw [hq] at hu
  exact ⟨data, hm, hu, midnight_ne_succ hlo hhi⟩

/-- 1969-12-31T12:00:00Z. -/
theorem marshalDate_before_epoch_noon :
    (⟨-43200, 0, by decide⟩ : GoTime).isZero = false ∧ -2 ^ 31 ≤ (⟨-43200, 0, by decide⟩ : GoTime).utcDay ∧
      (⟨-43200, 0, by decide⟩ : GoTime).millis < 0 ∧ (⟨-43200, 0, by decide⟩ : GoTime).millis % 86400000 ≠ 0 ∧
      ∃ data, marshalDate (.time ⟨-43200, 0, by decide⟩) = .ok (.ok (some data)) ∧
        unmarshalDate data .time = .ok (.ok (midnight ((⟨-43200, 0, by decide⟩ : GoTime).utcDay + 1))) ∧
        midnight ((⟨-43200, 0, by decide⟩ : GoTime).utcDay + 1) ≠ midnight (⟨-43200, 0, by decide⟩ : GoTime).utcDay :=
  ⟨by decide, by decide, by decide, by decide,
    marshalDate_before_epoch_next_day (by decide) (by decide) (by decide) (by decide)⟩

end Gocql
