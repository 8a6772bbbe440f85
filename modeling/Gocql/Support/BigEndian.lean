import Mathlib.Data.Nat.Digits.Lemmas

/-!
# Support — big-endian byte strings

Byte strings read most significant byte first.  `val` is the unsigned value; `sval` is the
two's-complement value, `val` less `256 ^ n` when the leading byte has its top bit set; `ofNat n`
is the magnitude of `n` as bytes with no leading zero, the empty string for `0`.

A nonempty string is `Minimal` when its leading byte is not one that sign extension would put
back: a `0x00` before a byte whose top bit is clear, or a `0xFF` before a byte whose top bit is
set.  The two sign-extension lemmas (`sval_zero_cons`, `sval_ff_cons`) say that dropping such a
byte keeps the value.  `minimal_length_le` says a minimal string is no longer than any nonempty
string of the same value, and `minimal_unique` that it is the only minimal one.
-/

namespace BigEndian

/-! ### The unsigned value -/

/-- The unsigned value, most significant byte first. -/
def val (bs : List UInt8) : Nat := bs.foldl (fun acc b => acc * 256 + b.toNat) 0

theorem foldl_val (bs : List UInt8) (acc : Nat) :
    bs.foldl (fun acc b => acc * 256 + b.toNat) acc = acc * 256 ^ bs.length + val bs := by
  induction bs generalizing acc with
  | nil => simp [val]
  | cons b bs ih =>
      have h : val (b :: bs) = (0 * 256 + b.toNat) * 256 ^ bs.length + val bs := ih _
      rw [List.foldl_cons, ih, h, List.length_cons]
      ring

@[simp] theorem val_nil : val [] = 0 := rfl

theorem val_cons (b : UInt8) (bs : List UInt8) :
    val (b :: bs) = b.toNat * 256 ^ bs.length + val bs :=
  (foldl_val bs (0 * 256 + b.toNat)).trans (by ring)

theorem val_append (xs ys : List UInt8) :
    val (xs ++ ys) = val xs * 256 ^ ys.length + val ys := by
  rw [val, List.foldl_append, foldl_val]
  rfl

theorem val_lt (bs : List UInt8) : val bs < 256 ^ bs.length := by
  induction bs with
  | nil => simp
  | cons b bs ih =>
      rw [val_cons, List.length_cons, pow_succ]
      have hb : b.toNat ≤ 255 := by have := b.toNat_lt; omega
      nlinarith

/-- Two strings of one length with one unsigned value are equal. -/
theorem eq_of_val_eq : ∀ {bs cs : List UInt8}, bs.length = cs.length → val bs = val cs → bs = cs
  | [], [], _, _ => rfl
  | b :: bs, c :: cs, hl, hv => by
      simp only [List.length_cons, Nat.add_right_cancel_iff] at hl
      rw [val_cons, val_cons, hl] at hv
      have hbs := val_lt bs
      have hcs := val_lt cs
      rw [hl] at hbs
      have hpos : 0 < 256 ^ cs.length := by positivity
      have hd : b.toNat = c.toNat := by
        have h1 := congrArg (· / 256 ^ cs.length) hv
        rwa [Nat.mul_comm, Nat.mul_add_div hpos, Nat.mul_comm c.toNat, Nat.mul_add_div hpos,
          Nat.div_eq_of_lt hbs, Nat.div_eq_of_lt hcs] at h1
      have hr : val bs = val cs := by rw [hd] at hv; omega
      rw [UInt8.toNat_inj.mp hd, eq_of_val_eq hl hr]

/-! ### The two's-complement value -/

/-- The leading byte read as signed. -/
def sbyte (b : UInt8) : Int := if 0x80 ≤ b.toNat then (b.toNat : Int) - 256 else b.toNat

/-- The two's-complement value: `val`, less `256 ^ n` when the leading byte's top bit is set. -/
def sval : List UInt8 → Int
  | [] => 0
  | b :: bs => (val (b :: bs) : Int) - if 0x80 ≤ b.toNat then 256 ^ (bs.length + 1) else 0

theorem sval_cons (b : UInt8) (bs : List UInt8) :
    sval (b :: bs) = sbyte b * 256 ^ bs.length + val bs := by
  simp only [sval, val_cons, sbyte, pow_succ]
  split <;> push_cast <;> ring

theorem sbyte_bounds (b : UInt8) : -128 ≤ sbyte b ∧ sbyte b < 128 := by
  have := b.toNat_lt
  unfold sbyte
  split <;> omega

/-- A nonempty string of `n + 1` bytes holds a value in `[-128·256ⁿ, 128·256ⁿ)`. -/
theorem sval_bounds (b : UInt8) (bs : List UInt8) :
    -(128 * 256 ^ bs.length : Int) ≤ sval (b :: bs) ∧ sval (b :: bs) < 128 * 256 ^ bs.length := by
  rw [sval_cons]
  obtain ⟨h1, h2⟩ := sbyte_bounds b
  have hv : (val bs : Int) < 256 ^ bs.length := by exact_mod_cast val_lt bs
  have hP : (0 : Int) < 256 ^ bs.length := by positivity
  constructor <;> nlinarith

/-- The unsigned and the two's-complement value agree modulo `256 ^ n`. -/
theorem sval_eq_val_or (bs : List UInt8) :
    sval bs = val bs ∨ sval bs = (val bs : Int) - 256 ^ bs.length := by
  cases bs with
  | nil => simp [sval]
  | cons b bs =>
      simp only [sval, List.length_cons]
      split
      · exact .inr rfl
      · exact .inl (by simp)

/-- Two strings of one length with one two's-complement value are equal. -/
theorem eq_of_sval_eq {bs cs : List UInt8} (hl : bs.length = cs.length)
    (h : sval bs = sval cs) : bs = cs := by
  refine eq_of_val_eq hl ?_
  have hb : (val bs : Int) < 256 ^ bs.length := by exact_mod_cast val_lt bs
  have hc : (val cs : Int) < 256 ^ cs.length := by exact_mod_cast val_lt cs
  have hb0 : (0 : Int) ≤ val bs := by positivity
  have hc0 : (0 : Int) ≤ val cs := by positivity
  have h₁ := sval_eq_val_or bs
  have h₂ := sval_eq_val_or cs
  rw [← hl] at hc h₂
  generalize (256 : Int) ^ bs.length = P at *
  omega

/-- Dropping a `0x00` before a byte whose top bit is clear keeps the value. -/
theorem sval_zero_cons {b : UInt8} (hb : b.toNat < 0x80) (bs : List UInt8) :
    sval (0 :: b :: bs) = sval (b :: bs) := by
  simp only [sval_cons, sbyte, val_cons, List.length_cons, UInt8.toNat_zero, pow_succ]
  split <;> split <;> push_cast <;> omega

/-- Dropping a `0xFF` before a byte whose top bit is set keeps the value. -/
theorem sval_ff_cons {b : UInt8} (hb : 0x80 ≤ b.toNat) (bs : List UInt8) :
    sval (0xFF :: b :: bs) = sval (b :: bs) := by
  have h255 : (0xFF : UInt8).toNat = 255 := rfl
  simp only [sval_cons, sbyte, val_cons, List.length_cons, h255, pow_succ, if_pos hb]
  norm_num
  ring

/-- A leading zero byte makes the value unsigned. -/
theorem sval_zero_cons_val (bs : List UInt8) : sval (0 :: bs) = val bs := by
  simp [sval_cons, sbyte]

/-- A nonempty string whose unsigned value is `v` modulo `256ⁿ`, for `v` in the signed range
of `n` bytes, has the two's-complement value `v`. -/
theorem sval_eq_of_emod {b : UInt8} {bs : List UInt8} {v : Int}
    (hlo : -(128 * 256 ^ bs.length) ≤ v) (hhi : v < 128 * 256 ^ bs.length)
    (h : (val (b :: bs) : Int) = v % 256 ^ (bs.length + 1)) : sval (b :: bs) = v := by
  have hP : (0 : Int) < 256 ^ bs.length := by positivity
  have hM : (256 : Int) ^ (bs.length + 1) = 256 * 256 ^ bs.length := by ring
  rw [hM] at h
  -- the residue is `v` itself, or `v + 256ⁿ` for a negative `v`
  have hv : (val (b :: bs) : Int) = v ∨ (val (b :: bs) : Int) = v + 256 * 256 ^ bs.length := by
    rcases le_or_gt 0 v with h0 | h0
    · exact .inl (by rw [h, Int.emod_eq_of_lt h0 (by omega)])
    · exact .inr (by rw [h, ← Int.add_emod_right, Int.emod_eq_of_lt (by omega) (by omega)])
  obtain ⟨hs₁, hs₂⟩ := sval_bounds b bs
  have hs := sval_eq_val_or (b :: bs)
  rw [List.length_cons, hM] at hs
  generalize (256 : Int) ^ bs.length = P at *
  omega

/-! ### Minimal strings -/

/-- No leading byte that sign extension would restore. -/
def Minimal : List UInt8 → Prop
  | [] => False
  | [_] => True
  | b₀ :: b₁ :: _ => ¬ (b₀ = 0 ∧ b₁.toNat < 0x80) ∧ ¬ (b₀ = 0xFF ∧ 0x80 ≤ b₁.toNat)

instance : DecidablePred Minimal
  | [] => isFalse id
  | [_] => isTrue trivial
  | _ :: _ :: _ => inferInstanceAs (Decidable (¬ _ ∧ ¬ _))

/-- A leading byte that is neither `0x00` nor `0xFF` is never redundant. -/
theorem minimal_of_ne {b : UInt8} (h0 : b ≠ 0) (hff : b ≠ 0xFF) (bs : List UInt8) :
    Minimal (b :: bs) := by
  cases bs with
  | nil => trivial
  | cons b₁ _ => exact ⟨fun h => h0 h.1, fun h => hff h.1⟩

/-- A `0x00` before a byte with its top bit set is needed. -/
theorem minimal_zero_cons {b : UInt8} (hb : 0x80 ≤ b.toNat) (bs : List UInt8) :
    Minimal (0 :: b :: bs) :=
  ⟨fun h => absurd h.2 (by omega), fun h => absurd h.1 (by decide)⟩

/-- A `0xFF` before a byte with its top bit clear is needed. -/
theorem minimal_ff_cons {b : UInt8} (hb : b.toNat < 0x80) (bs : List UInt8) :
    Minimal (0xFF :: b :: bs) :=
  ⟨fun h => absurd h.1 (by decide), fun h => absurd h.2 (by omega)⟩

/-- A minimal string of `n + 2` bytes does not fit in `n + 1`. -/
theorem minimal_out_of_range {b₀ b₁ : UInt8} {bs : List UInt8} (h : Minimal (b₀ :: b₁ :: bs)) :
    sval (b₀ :: b₁ :: bs) < -(128 * 256 ^ bs.length) ∨
      128 * 256 ^ bs.length ≤ sval (b₀ :: b₁ :: bs) := by
  obtain ⟨h0, hff⟩ := h
  rw [sval_cons, val_cons, List.length_cons, pow_succ]
  push_cast
  have hv : (val bs : Int) < 256 ^ bs.length := by exact_mod_cast val_lt bs
  have hv0 : (0 : Int) ≤ val bs := by positivity
  have hP : (0 : Int) < 256 ^ bs.length := by positivity
  have hb₁ : b₁.toNat < 256 := b₁.toNat_lt
  have hb₀ : b₀.toNat < 256 := b₀.toNat_lt
  generalize (256 : Int) ^ bs.length = P at *
  by_cases e0 : b₀ = 0
  · -- a leading zero is followed by a byte with its top bit set
    have : 0x80 ≤ b₁.toNat := by by_contra hc; exact h0 ⟨e0, by omega⟩
    subst e0
    right
    have : (128 : Int) * P ≤ b₁.toNat * P := by
      exact mul_le_mul_of_nonneg_right (by exact_mod_cast this) hP.le
    norm_num [sbyte]
    linarith
  · by_cases eff : b₀ = 0xFF
    · -- a leading `0xFF` is followed by a byte with its top bit clear
      have : b₁.toNat < 0x80 := by by_contra hc; exact hff ⟨eff, by omega⟩
      subst eff
      left
      have : (b₁.toNat : Int) * P ≤ 127 * P := by
        exact mul_le_mul_of_nonneg_right (by exact_mod_cast (by omega : b₁.toNat ≤ 127)) hP.le
      have h255 : (0xFF : UInt8).toNat = 255 := rfl
      norm_num [sbyte, h255]
      linarith
    · have hne : b₀.toNat ≠ 0 := fun h => e0 (UInt8.toNat_inj.mp h)
      have hne' : b₀.toNat ≠ 255 := fun h => eff (UInt8.toNat_inj.mp h)
      have hb1P : (0 : Int) ≤ b₁.toNat * P := by positivity
      have hb1P' : (b₁.toNat : Int) * P ≤ 255 * P := by
        exact mul_le_mul_of_nonneg_right (by exact_mod_cast (by omega : b₁.toNat ≤ 255)) hP.le
      unfold sbyte
      split
      · left
        have : (b₀.toNat : Int) - 256 ≤ -2 := by omega
        nlinarith
      · right
        have : (1 : Int) ≤ b₀.toNat := by omega
        nlinarith

/-- **A minimal string is a shortest one.**  Any nonempty string of the same value is at least
as long. -/
theorem minimal_length_le {bs cs : List UInt8} (hb : Minimal bs) (hc : cs ≠ [])
    (h : sval cs = sval bs) : bs.length ≤ cs.length := by
  match bs, cs, hb, hc with
  | [_], c :: cs, _, _ => simp
  | b₀ :: b₁ :: bs, c :: cs, hb, _ =>
      by_contra hlt
      simp only [List.length_cons, not_le] at hlt
      have hmono : (256 : Int) ^ cs.length ≤ 256 ^ bs.length :=
        pow_le_pow_right₀ (by norm_num) (by omega)
      obtain ⟨hlo, hhi⟩ := sval_bounds c cs
      rcases minimal_out_of_range hb with hr | hr <;> rw [h] at hlo hhi <;> linarith

/-- Two minimal strings of one value are equal. -/
theorem minimal_unique {bs cs : List UInt8} (hb : Minimal bs) (hc : Minimal cs)
    (h : sval bs = sval cs) : bs = cs := by
  have hbne : bs ≠ [] := by rintro rfl; exact hb
  have hcne : cs ≠ [] := by rintro rfl; exact hc
  have h₁ := minimal_length_le hb hcne h.symm
  have h₂ := minimal_length_le hc hbne h
  exact eq_of_sval_eq (le_antisymm h₁ h₂) h

/-- The leading byte has its top bit set exactly when the value reaches `128 · 256ⁿ`. -/
theorem top_bit_iff (b : UInt8) (bs : List UInt8) :
    0x80 ≤ b.toNat ↔ 128 * 256 ^ bs.length ≤ val (b :: bs) := by
  rw [val_cons]
  have hv := val_lt bs
  have hP : 0 < 256 ^ bs.length := by positivity
  constructor
  · intro h
    nlinarith
  · intro h
    by_contra hc
    have : b.toNat * 256 ^ bs.length ≤ 127 * 256 ^ bs.length :=
      Nat.mul_le_mul_right _ (by omega)
    omega

/-! ### Magnitude bytes -/

/-- The magnitude of `n` as bytes: most significant first, no leading zero, empty for `0`. -/
def ofNat (n : Nat) : List UInt8 := ((Nat.digits 256 n).map UInt8.ofNat).reverse

theorem val_reverse_map (L : List Nat) (hL : ∀ d ∈ L, d < 256) :
    val ((L.map UInt8.ofNat).reverse) = Nat.ofDigits 256 L := by
  induction L with
  | nil => rfl
  | cons d L ih =>
      have hd : d < 256 := hL d (.head _)
      have hb : val [UInt8.ofNat d] = d := by
        rw [val_cons, val_nil, UInt8.toNat_ofNat']
        simp only [List.length_nil, pow_zero, mul_one, add_zero]
        omega
      rw [List.map_cons, List.reverse_cons, val_append, ih fun x hx => hL x (.tail _ hx),
        Nat.ofDigits_cons, hb, List.length_singleton, pow_one]
      ring

@[simp] theorem val_ofNat (n : Nat) : val (ofNat n) = n := by
  rw [ofNat, val_reverse_map _ fun d hd => Nat.digits_lt_base (by norm_num) hd,
    Nat.ofDigits_digits]

theorem lt_pow_length_ofNat (n : Nat) : n < 256 ^ (ofNat n).length := by
  simpa [ofNat] using Nat.lt_base_pow_length_digits (m := n) (by norm_num : 1 < 256)

theorem pow_length_ofNat_le {n : Nat} (hn : n ≠ 0) : 256 ^ (ofNat n).length ≤ 256 * n := by
  simpa [ofNat] using Nat.base_pow_length_digits_le 256 n (by norm_num) hn

/-- A value in `[256ʷ⁻¹, 256ʷ)` takes `w` magnitude bytes. -/
theorem length_ofNat_eq {v w : Nat} (hlo : 256 ^ w ≤ 256 * v) (hhi : v < 256 ^ w) :
    (ofNat v).length = w := by
  have hv : v ≠ 0 := by rintro rfl; simp at hlo
  have h₁ := lt_pow_length_ofNat v
  have h₂ := pow_length_ofNat_le hv
  have hup : (ofNat v).length < w + 1 := by
    rw [← Nat.pow_lt_pow_iff_right (by norm_num : 1 < 256), pow_succ]
    omega
  have hdown : w < (ofNat v).length + 1 := by
    rw [← Nat.pow_lt_pow_iff_right (by norm_num : 1 < 256), pow_succ]
    omega
  omega

/-- The magnitude bytes of a nonzero value start with a nonzero byte. -/
theorem ofNat_cons {n : Nat} (hn : n ≠ 0) : ∃ b bs, ofNat n = b :: bs ∧ b ≠ 0 := by
  have h₂ := pow_length_ofNat_le hn
  have hval := val_ofNat n
  cases h : ofNat n with
  | nil => rw [h] at hval; exact absurd hval.symm hn
  | cons b bs =>
      refine ⟨b, bs, rfl, ?_⟩
      rintro rfl
      rw [h, val_cons, UInt8.toNat_zero, zero_mul, zero_add] at hval
      rw [h, List.length_cons, pow_succ] at h₂
      have := val_lt bs
      omega

/-! ### Comparing strings byte by byte -/

/-- Two strings of one length, each element of the first at most the one of the second: the
first is at most the second in the lexicographic order. -/
theorem lex_le_of_forall₂ {α : Type} [LinearOrder α] :
    ∀ {l₁ l₂ : List α}, List.Forall₂ (· ≤ ·) l₁ l₂ → l₁ ≤ l₂
  | [], [], _ => le_refl _
  | a :: l₁, b :: l₂, .cons hab h => by
    rcases lt_or_eq_of_le hab with hlt | rfl
    · -- the first difference decides
      have hlex : a :: l₁ < b :: l₂ := List.Lex.rel hlt
      exact hlex.le
    · exact List.cons_le_cons a (lex_le_of_forall₂ h)

end BigEndian
