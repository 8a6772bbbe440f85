import Gocql.Uuid.Time

/-!
# UUID — text

`String()` writes the sixteen bytes as 32 lower-case hexadecimal digits in the 8-4-4-4-12
form; `ParseUUID` reads 32 digits of either case, skipping a hyphen wherever an even number of
digits has been read, and ors each digit into its nibble; the text and JSON codecs wrap the
two.  Go strings are their runes here, and the byte strings of the codecs the runes they hold.

* `string_eq_canonical`: `String()` is the canonical form of the bytes' digits.
* `parseUUIDLoop_ok`: what the loop accepts, and the nibbles it has placed, when it succeeds.
* `parseUUID_string`: a UUID's text parses back to the UUID.
* `string_parseUUID`: an accepted string prints back as the lower-case canonical form of its
  own digits.
-/

namespace Gocql

/-- The errors of the UUID codecs: `invalid UUID %q` of `ParseUUID`, with its input, and
`invalid JSON UUID %s` of `UnmarshalJSON`, with the trimmed text. -/
inductive UUIDError where
  | invalid (input : List Char)
  | invalidJSON (str : List Char)
  deriving DecidableEq

/-! ### `String()` -/

/-- `hexString` of `String()`: `"0123456789abcdef"`. -/
def hexString : List Char := ['0', '1', '2', '3', '4', '5', '6', '7', '8', '9', 'a', 'b', 'c', 'd', 'e', 'f']

/-- `offsets` of `String()`: where the two digits of each byte go. -/
def uuidOffsets : List Nat := [0, 2, 4, 6, 9, 11, 14, 16, 19, 21, 24, 26, 28, 30, 32, 34]

/-- `u.String()`: a 36-byte buffer, the digits of byte `i` at `offsets[i]` and after it, then
the four hyphens. -/
def UUID.string (u : UUID) : List Char :=
  let r := (List.finRange 16).foldl (fun (r : List Char) i =>
      (r.set uuidOffsets[i.val]! hexString[(u.get i >>> 4).toNat]!).set (uuidOffsets[i.val]! + 1)
        hexString[(u.get i &&& 0xF).toNat]!)
    (List.replicate 36 (Char.ofNat 0))
  (((r.set 8 '-').set 13 '-').set 18 '-').set 23 '-'

/-- The digit of a nibble, as `String()` looks it up. -/
def hexChar (n : UInt8) : Char := hexString[n.toNat]!

/-- The two nibbles of a byte, high first. -/
def nibbles (b : UInt8) : List UInt8 := [b >>> 4, b &&& 0xF]

/-- The canonical 8-4-4-4-12 form of a string of digits. -/
def canonical (ds : List Char) : List Char :=
  ds.take 8 ++ '-' :: (ds.drop 8).take 4 ++ '-' :: (ds.drop 12).take 4 ++ '-' :: (ds.drop 16).take 4 ++
    '-' :: ds.drop 20

/-! ### `ParseUUID` -/

/-- The value of a rune by the three digit cases of `ParseUUID`'s switch, `none` where none
applies. -/
def hexNibble (r : Char) : Option UInt8 :=
  if r ≥ '0' ∧ r ≤ '9' then some (UInt8.ofNat (r.toNat - '0'.toNat))
  else if r ≥ 'a' ∧ r ≤ 'f' then some (UInt8.ofNat (r.toNat - 'a'.toNat + 10))
  else if r ≥ 'A' ∧ r ≤ 'F' then some (UInt8.ofNat (r.toNat - 'A'.toNat + 10))
  else none

/-- `u[j/2] |= d << uint(4-j&1*4)`: `&` and `*` bind alike, from the left, so the shift is 4
for an even `j`, the high nibble, and 0 for an odd one. -/
def orNibble (u : UUID) (j : Nat) (hj : j < 32) (d : UInt8) : UUID :=
  u.set (j / 2) (u[j / 2] ||| d <<< (4 - (j &&& 1) * 4).toUInt8) (by omega)

/-- The loop of `ParseUUID` over the runes of `input`, with the UUID built so far and the
number `j` of digits read.  A hyphen is skipped when `j` is even; a digit is taken while
`j < 32`; anything else fails. -/
def parseUUIDLoop (input : List Char) : List Char → UUID → Nat → Except UUIDError (UUID × Nat)
  | [], u, j => .ok (u, j)
  | r :: rs, u, j =>
    if r = '-' ∧ j &&& 1 = 0 then parseUUIDLoop input rs u j
    else
      match hexNibble r with
      | some d => if hj : j < 32 then parseUUIDLoop input rs (orNibble u j hj d) (j + 1) else .error (.invalid input)
      | none => .error (.invalid input)

/-- `ParseUUID(input)`: the loop from the zero UUID, then exactly 32 digits. -/
def parseUUID (input : List Char) : Except UUIDError UUID :=
  match parseUUIDLoop input input (Vector.replicate 16 0) 0 with
  | .ok (u, j) => if j ≠ 32 then .error (.invalid input) else .ok u
  | .error e => .error e

/-! ### The text and JSON codecs -/

/-- `u.MarshalText()`. -/
def marshalText (u : UUID) : List Char := u.string

/-- `u.UnmarshalText(text)`: `*u, err = ParseUUID(string(text))`, so a failure leaves the zero
UUID. -/
def unmarshalText (_u : UUID) (text : List Char) : UUID × Option UUIDError :=
  match parseUUID text with
  | .ok v => (v, none)
  | .error e => (Vector.replicate 16 0, some e)

/-- `u.MarshalJSON()`: the text between double quotes. -/
def marshalJSON (u : UUID) : List Char := '\x22' :: u.string ++ ['\x22']

/-- `strings.Trim(s, cutset)` for a cutset of one rune. -/
def goTrim (s : List Char) (c : Char) : List Char :=
  ((s.dropWhile (· == c)).reverse.dropWhile (· == c)).reverse

/-- `len(s)`: the bytes of the UTF-8 encoding. -/
def goLen (s : List Char) : Nat := (s.map Char.utf8Size).sum

/-- `u.UnmarshalJSON(data)`: the text without its quotes, at most 36 bytes; `u` keeps its value
when either check fails. -/
def unmarshalJSON (u : UUID) (data : List Char) : UUID × Option UUIDError :=
  let str := goTrim data '\x22'
  if goLen str > 36 then (u, some (.invalidJSON str))
  else
    match parseUUID str with
    | .ok v => (v, none)
    | .error e => (u, some e)

/-! ### What `String()` writes -/

/-- A set past the head of a list, at a numeral. -/
theorem set_cons_pos {α : Type} {n : Nat} (h : 0 < n) (a b : α) (l : List α) :
    (a :: l).set n b = a :: l.set (n - 1) b := by
  obtain ⟨m, rfl⟩ : ∃ m, n = m + 1 := ⟨n - 1, by omega⟩
  rw [Nat.add_sub_cancel]
  rfl

theorem getElem!_cons_pos {α : Type} [Inhabited α] {n : Nat} (h : 0 < n) (a : α) (l : List α) :
    (a :: l)[n]! = l[n - 1]! := by
  obtain ⟨m, rfl⟩ : ∃ m, n = m + 1 := ⟨n - 1, by omega⟩
  simp

theorem finRange_sixteen : List.finRange 16 = [0, 1, 2, 3, 4, 5, 6, 7, 8, 9, 10, 11, 12, 13, 14, 15] := by
  decide

theorem toList_eq_map_get (u : UUID) : u.toList = (List.finRange 16).map u.get := by
  apply List.ext_getElem (by simp)
  intro i h₁ h₂
  simp [Vector.get]

/-- **`String()` is the canonical form** of the 32 digits of the bytes, two per byte: the
writes at `offsets` fill the buffer but for positions 8, 13, 18 and 23, which get the hyphens. -/
theorem string_eq_canonical (u : UUID) :
    u.string = canonical (u.toList.flatMap fun b => (nibbles b).map hexChar) := by
  rw [toList_eq_map_get, finRange_sixteen]
  -- the sixteen rounds at their numeral offsets, on the explicit buffer
  simp (disch := decide) only [UUID.string, finRange_sixteen, List.foldl_cons, List.foldl_nil, uuidOffsets,
    Fin.coe_ofNat_eq_mod, Nat.reduceMod, getElem!_cons_pos, List.getElem!_cons_zero, List.replicate_succ,
    List.replicate_zero, set_cons_pos, List.set_cons_zero, Nat.reduceSub, Nat.reduceAdd]
  rfl

/-! ### What `ParseUUID` reads -/

/-- The nibbles the loop ors into `u` from digit `j` on. -/
def placeNibbles : UUID → Nat → List UInt8 → UUID
  | u, _, [] => u
  | u, j, n :: ns => placeNibbles (if hj : j < 32 then orNibble u j hj n else u) (j + 1) ns

theorem placeNibbles_append : ∀ (ns ns' : List UInt8) (u : UUID) (j : Nat),
    placeNibbles u j (ns ++ ns') = placeNibbles (placeNibbles u j ns) (j + ns.length) ns'
  | [], _, _, _ => rfl
  | n :: ns, ns', u, j => by
    rw [List.cons_append, placeNibbles, placeNibbles, placeNibbles_append ns ns', List.length_cons,
      Nat.add_assoc, Nat.add_comm 1]

theorem hexNibble_hyphen : hexNibble '-' = none := by decide

theorem parseUUIDLoop_hyphen (input rs : List Char) (u : UUID) {j : Nat} (hj : j &&& 1 = 0) :
    parseUUIDLoop input ('-' :: rs) u j = parseUUIDLoop input rs u j := by
  rw [parseUUIDLoop, if_pos ⟨rfl, hj⟩]

theorem parseUUIDLoop_digit (input : List Char) {r : Char} (rs : List Char) (u : UUID) {j : Nat} {d : UInt8}
    (hr : hexNibble r = some d) (hj : j < 32) :
    parseUUIDLoop input (r :: rs) u j = parseUUIDLoop input rs (orNibble u j hj d) (j + 1) := by
  have hne : r ≠ '-' := by
    rintro rfl
    rw [hexNibble_hyphen] at hr
    cases hr
  rw [parseUUIDLoop, if_neg (fun h => hne h.1)]
  simp only [hr, dif_pos hj]

/-- A run of digits, read while fewer than 32 digits are in: each is ored into its nibble. -/
theorem parseUUIDLoop_digits (input rest : List Char) : ∀ (ds : List Char) (ns : List UInt8) (u : UUID) (j : Nat),
    ds.map hexNibble = ns.map some → j + ds.length ≤ 32 →
    parseUUIDLoop input (ds ++ rest) u j = parseUUIDLoop input rest (placeNibbles u j ns) (j + ds.length)
  | [], [], _, _, _, _ => rfl
  | [], _ :: _, _, _, hns, _ => nomatch hns
  | _ :: _, [], _, _, hns, _ => nomatch hns
  | d :: ds, n :: ns, u, j, hns, hlen => by
    rw [List.map_cons, List.map_cons, List.cons.injEq] at hns
    rw [List.length_cons] at hlen
    have hj : j < 32 := by omega
    rw [List.cons_append, parseUUIDLoop_digit input _ u hns.1 hj,
      parseUUIDLoop_digits input rest ds ns _ (j + 1) hns.2 (by omega), placeNibbles, dif_pos hj, List.length_cons,
      Nat.add_assoc, Nat.add_comm 1]

/-- **What the loop accepts**: when it succeeds, every rune but the hyphens is a digit, the
count is the number of digits, and the UUID is the zero one with their nibbles placed. -/
theorem parseUUIDLoop_ok (input : List Char) : ∀ (s : List Char) (u : UUID) (j : Nat) {u' : UUID} {j' : Nat},
    parseUUIDLoop input s u j = .ok (u', j') →
    ∃ ns, (s.filter (· != '-')).map hexNibble = ns.map some ∧ j' = j + ns.length ∧ u' = placeNibbles u j ns
  | [], u, j, u', j', h => by
    rw [parseUUIDLoop, Except.ok.injEq, Prod.mk.injEq] at h
    obtain ⟨rfl, rfl⟩ := h
    exact ⟨[], rfl, rfl, rfl⟩
  | r :: rs, u, j, u', j', h => by
    by_cases hskip : r = '-' ∧ j &&& 1 = 0
    · -- a hyphen after an even number of digits: skipped
      rw [parseUUIDLoop, if_pos hskip] at h
      obtain ⟨ns, hns, hj', hu'⟩ := parseUUIDLoop_ok input rs u j h
      refine ⟨ns, ?_, hj', hu'⟩
      rw [List.filter_cons_of_neg (by simp [hskip.1])]
      exact hns
    · rw [parseUUIDLoop, if_neg hskip] at h
      cases hr : hexNibble r with
      | none => simp only [hr] at h; cases h
      | some d =>
        by_cases hj : j < 32
        · simp only [hr, dif_pos hj] at h
          obtain ⟨ns, hns, hj', hu'⟩ := parseUUIDLoop_ok input rs _ (j + 1) h
          have hne : r ≠ '-' := by
            rintro rfl
            rw [hexNibble_hyphen] at hr
            cases hr
          refine ⟨d :: ns, ?_, by rw [hj', List.length_cons]; omega, ?_⟩
          · rw [List.filter_cons_of_pos (by simp [hne]), List.map_cons, List.map_cons, hr, hns]
          · rw [hu', placeNibbles, dif_pos hj]
        · simp only [hr, dif_neg hj] at h
          cases h

/-! ### Nibbles and bytes -/

/-- Pairs of nibbles, high first, as bytes. -/
def pairUp : List UInt8 → List UInt8
  | a :: b :: rest => (a <<< 4 ||| b) :: pairUp rest
  | _ => []

/-- Splitting a byte into its nibbles and joining them gives the byte back. -/
theorem nibbles_join (b : UInt8) : (b >>> 4) <<< 4 ||| (b &&& 0xF) = b := by
  revert b
  decide +kernel

theorem pairUp_flatMap_nibbles : ∀ bs : List UInt8, pairUp (bs.flatMap nibbles) = bs
  | [] => rfl
  | b :: bs => by
    rw [List.flatMap_cons, nibbles, List.cons_append, List.cons_append, List.nil_append, pairUp, nibbles_join,
      pairUp_flatMap_nibbles bs]

/-- Two nibbles joined into a byte split back into themselves. -/
theorem nibbles_pair {a b : UInt8} (ha : a.toNat < 16) (hb : b.toNat < 16) : nibbles (a <<< 4 ||| b) = [a, b] := by
  have h16 : (2 : Nat) ^ ((4 : UInt8).toNat % 8) = 16 := by decide
  have hs : (a <<< 4).toNat = a.toNat * 16 := by
    rw [UInt8.toNat_shiftLeft, Nat.shiftLeft_eq, h16]
    exact Nat.mod_eq_of_lt (by omega)
  have hv : (a <<< 4 ||| b).toNat = a.toNat * 16 + b.toNat := by
    rw [UInt8.toNat_or, hs, or_eq_add_of_low 4 (by omega) (by omega)]
  unfold nibbles
  rw [List.cons.injEq, List.cons.injEq]
  refine ⟨UInt8.toNat_inj.mp ?_, UInt8.toNat_inj.mp ?_, rfl⟩
  · rw [UInt8.toNat_shiftRight, hv, Nat.shiftRight_eq_div_pow, h16]
    omega
  · rw [UInt8.toNat_and, hv, show (0xF : UInt8).toNat = 2 ^ 4 - 1 from rfl, Nat.and_two_pow_sub_one_eq_mod]
    omega

/-- An even string of nibbles joined in pairs splits back into itself. -/
theorem flatMap_nibbles_pairUp : ∀ ns : List UInt8, (∀ n ∈ ns, n.toNat < 16) → ns.length % 2 = 0 →
    (pairUp ns).flatMap nibbles = ns
  | [], _, _ => rfl
  | [_], _, h => by simp at h
  | a :: b :: rest, hlt, hlen => by
    rw [pairUp, List.flatMap_cons, nibbles_pair (hlt a (by simp)) (hlt b (by simp)),
      flatMap_nibbles_pairUp rest (fun n hn => hlt n (by simp [hn])) (by simp at hlen; omega)]
    rfl

/-- **The loop builds the bytes of its nibbles**: from a UUID whose bytes past `pre` are zero,
nibbles placed from digit `2 * |pre|` on join in pairs after `pre`. -/
theorem toList_placeNibbles : ∀ (ns pre : List UInt8) (m : Nat) (u : UUID),
    u.toList = pre ++ List.replicate m 0 → ns.length = 2 * m →
    (placeNibbles u (2 * pre.length) ns).toList = pre ++ pairUp ns
  | [], pre, m, u, hu, hlen => by
    have hm : m = 0 := by simp at hlen; omega
    rw [placeNibbles, hu, hm, List.replicate_zero]
    rfl
  | [_], _, _, _, _, hlen => by simp at hlen; omega
  | a :: b :: rest, pre, m, u, hu, hlen => by
    obtain ⟨m', rfl⟩ : ∃ m', m = m' + 1 := ⟨m - 1, by simp at hlen; omega⟩
    have hlen16 : pre.length + (m' + 1) = 16 := by
      have := congrArg List.length hu
      simpa using this.symm
    have hk : 2 * pre.length < 32 := by omega
    have hk' : 2 * pre.length + 1 < 32 := by omega
    -- byte `|pre|` is zero, gets the high nibble, then the low one
    have h0 : u[pre.length] = 0 := by
      rw [← Vector.getElem_toList (by simp; omega)]
      simp [hu]
    have hset : ∀ (v : UUID) (x : UInt8), v.toList = pre ++ List.replicate (m' + 1) 0 →
        (v.set pre.length x (by omega)).toList = (pre ++ [x]) ++ List.replicate m' 0 := by
      intro v x hv
      rw [Vector.toList_set, hv, List.set_append_right _ _ (le_refl _), Nat.sub_self, List.replicate_succ,
        List.set_cons_zero, List.append_assoc, List.singleton_append]
    have hhi : orNibble u (2 * pre.length) hk a = u.set pre.length (a <<< 4) (by omega) := by
      unfold orNibble
      have h1 : 2 * pre.length / 2 = pre.length := by omega
      have h2 : (2 * pre.length) &&& 1 = 0 := by rw [Nat.and_one_is_mod]; omega
      simp only [h1, h2, h0, UInt8.zero_or]
      rfl
    have hlo : orNibble (u.set pre.length (a <<< 4) (by omega)) (2 * pre.length + 1) hk' b =
        (u.set pre.length (a <<< 4) (by omega)).set pre.length (a <<< 4 ||| b) (by omega) := by
      unfold orNibble
      have h1 : (2 * pre.length + 1) / 2 = pre.length := by omega
      have h2 : (2 * pre.length + 1) &&& 1 = 1 := by rw [Nat.and_one_is_mod]; omega
      simp only [h1, h2, Vector.getElem_set_self]
      rw [show (4 - 1 * 4 : Nat).toUInt8 = 0 from rfl, UInt8.shiftLeft_zero]
    have hv : ((u.set pre.length (a <<< 4) (by omega)).set pre.length (a <<< 4 ||| b) (by omega)).toList =
        (pre ++ [a <<< 4 ||| b]) ++ List.replicate m' 0 := by
      rw [Vector.toList_set, Vector.toList_set, hu, List.set_set, List.set_append_right _ _ (le_refl _),
        Nat.sub_self, List.replicate_succ, List.set_cons_zero, List.append_assoc, List.singleton_append]
    have ih := toList_placeNibbles rest (pre ++ [a <<< 4 ||| b]) m' _ hv (by simp at hlen; omega)
    rw [List.length_append, List.length_singleton, Nat.mul_add, Nat.mul_one] at ih
    rw [placeNibbles, dif_pos hk, placeNibbles, dif_pos hk', hhi, hlo, ih, pairUp, List.append_assoc,
      List.singleton_append]

/-! ### Digits -/

/-- The sixteen digits of `String()` read back as their nibbles. -/
theorem hexNibble_hexChar_table :
    ∀ n : Fin 16, hexNibble (hexChar (UInt8.ofNat n.val)) = some (UInt8.ofNat n.val) := by
  decide +kernel

theorem hexNibble_hexChar {n : UInt8} (hn : n.toNat < 16) : hexNibble (hexChar n) = some n := by
  have h := hexNibble_hexChar_table ⟨n.toNat, hn⟩
  rwa [UInt8.ofNat_toNat] at h

/-- The digits of the ASCII runes: a nibble, written back as the rune in lower case. -/
theorem hexNibble_table : ∀ k : Fin 128, ((hexNibble (Char.ofNat k.val)).all fun n =>
    n.toNat < 16 && hexChar n == (Char.ofNat k.val).toLower) = true := by
  decide +kernel

/-- A digit lies below `'g'`, so among the ASCII runes. -/
theorem toNat_lt_of_hexNibble {r : Char} {n : UInt8} (h : hexNibble r = some n) : r.toNat < 128 := by
  have hle : r ≤ 'f' ∨ r ≤ 'F' ∨ r ≤ '9' := by
    unfold hexNibble at h
    split_ifs at h with h₁ h₂ h₃
    · exact .inr (.inr h₁.2)
    · exact .inl h₂.2
    · exact .inr (.inl h₃.2)
  simp only [Char.le_def, UInt32.le_iff_toNat_le] at hle
  show r.val.toNat < 128
  have : ('f' : Char).val.toNat = 102 := rfl
  have : ('F' : Char).val.toNat = 70 := rfl
  have : ('9' : Char).val.toNat = 57 := rfl
  omega

/-- **A digit's nibble prints as the digit in lower case.** -/
theorem hexNibble_spec {r : Char} {n : UInt8} (h : hexNibble r = some n) :
    n.toNat < 16 ∧ hexChar n = r.toLower := by
  have ht := hexNibble_table ⟨r.toNat, toNat_lt_of_hexNibble h⟩
  simp only [Char.ofNat_toNat, h, Option.all_some, Bool.and_eq_true, decide_eq_true_eq, beq_iff_eq] at ht
  exact ht

/-- Digits and their nibbles, rune by rune: the nibbles print as the digits in lower case. -/
theorem map_toLower : ∀ (ds : List Char) (ns : List UInt8), ds.map hexNibble = ns.map some →
    (∀ n ∈ ns, n.toNat < 16) ∧ ds.map Char.toLower = ns.map hexChar
  | [], [], _ => ⟨(fun _ h => nomatch h), rfl⟩
  | [], _ :: _, h => nomatch h
  | _ :: _, [], h => nomatch h
  | d :: ds, n :: ns, h => by
    rw [List.map_cons, List.map_cons, List.cons.injEq] at h
    obtain ⟨hlt, hd⟩ := hexNibble_spec h.1
    obtain ⟨hall, hmap⟩ := map_toLower ds ns h.2
    refine ⟨fun m hm => ?_, by rw [List.map_cons, List.map_cons, hd, hmap]⟩
    rcases List.mem_cons.mp hm with rfl | hm
    · exact hlt
    · exact hall m hm

theorem nibbles_lt (b : UInt8) : ∀ n ∈ nibbles b, n.toNat < 16 := by
  have hb := b.toNat_lt
  intro n hn
  simp only [nibbles, List.mem_cons, List.not_mem_nil, or_false] at hn
  rcases hn with rfl | rfl
  · rw [UInt8.toNat_shiftRight, show (4 : UInt8).toNat % 8 = 4 from rfl, Nat.shiftRight_eq_div_pow]
    omega
  · rw [UInt8.toNat_and, show (0xF : UInt8).toNat = 2 ^ 4 - 1 from rfl, Nat.and_two_pow_sub_one_eq_mod]
    omega

/-! ### The round trips -/

/-- The five groups of the canonical form put back together. -/
theorem take_drop_groups {α : Type} (l : List α) :
    l.take 8 ++ ((l.drop 8).take 4 ++ ((l.drop 12).take 4 ++ ((l.drop 16).take 4 ++ l.drop 20))) = l := by
  have h20 : l.drop 20 = (l.drop 16).drop 4 := by rw [List.drop_drop]
  have h16 : l.drop 16 = (l.drop 12).drop 4 := by rw [List.drop_drop]
  have h12 : l.drop 12 = (l.drop 8).drop 4 := by rw [List.drop_drop]
  rw [h20, List.take_append_drop, h16, List.take_append_drop, h12, List.take_append_drop, List.take_append_drop]

/-- **The loop reads the canonical form**: 32 digits in the 8-4-4-4-12 form place all their
nibbles, each hyphen coming after an even number of digits. -/
theorem parseUUIDLoop_canonical (input : List Char) {D : List Char} {N : List UInt8}
    (hDN : D.map hexNibble = N.map some) (hlen : D.length = 32) (u : UUID) :
    parseUUIDLoop input (canonical D) u 0 = .ok (placeNibbles u 0 N, 32) := by
  have group : ∀ a b, (List.take b (List.drop a D)).map hexNibble = (List.take b (List.drop a N)).map some := by
    intro a b
    rw [List.map_take, List.map_drop, hDN, List.map_take, List.map_drop]
  have hNlen : N.length = 32 := by
    have := congrArg List.length hDN
    simpa [hlen] using this.symm
  have h₁ := group 0 8
  have h₅ : (D.drop 20).map hexNibble = (N.drop 20).map some := by rw [List.map_drop, hDN, List.map_drop]
  rw [List.drop_zero, List.drop_zero] at h₁
  unfold canonical
  simp only [List.append_assoc, List.cons_append]
  -- four groups of digits, each followed by a hyphen after an even count, then the last group
  rw [parseUUIDLoop_digits input _ _ _ u 0 h₁ (by simp [hlen]), parseUUIDLoop_hyphen _ _ _ (by simp [hlen]),
    parseUUIDLoop_digits input _ _ _ _ _ (group 8 4) (by simp [hlen]), parseUUIDLoop_hyphen _ _ _ (by simp [hlen]),
    parseUUIDLoop_digits input _ _ _ _ _ (group 12 4) (by simp [hlen]), parseUUIDLoop_hyphen _ _ _ (by simp [hlen]),
    parseUUIDLoop_digits input _ _ _ _ _ (group 16 4) (by simp [hlen]), parseUUIDLoop_hyphen _ _ _ (by simp [hlen]),
    ← List.append_nil (D.drop 20), parseUUIDLoop_digits input _ _ _ _ _ h₅ (by simp [hlen])]
  rw [parseUUIDLoop]
  conv_rhs => rw [← take_drop_groups N]
  rw [placeNibbles_append, placeNibbles_append, placeNibbles_append, placeNibbles_append]
  simp [hlen, hNlen]

/-- **A UUID's text parses back to the UUID**: `ParseUUID(u.String()) = u`. -/
theorem parseUUID_string (u : UUID) : parseUUID u.string = .ok u := by
  have hN : ∀ n ∈ u.toList.flatMap nibbles, n.toNat < 16 := by
    intro n hn
    obtain ⟨b, -, hb⟩ := List.mem_flatMap.mp hn
    exact nibbles_lt b n hb
  have hDN : ((u.toList.flatMap nibbles).map hexChar).map hexNibble = (u.toList.flatMap nibbles).map some := by
    rw [List.map_map]
    exact List.map_congr_left fun n hn => hexNibble_hexChar (hN n hn)
  have hlen : ((u.toList.flatMap nibbles).map hexChar).length = 32 := by
    simp [List.length_flatMap, nibbles]
  have hplace : placeNibbles (Vector.replicate 16 0) 0 (u.toList.flatMap nibbles) = u := by
    apply Vector.toList_inj.mp
    have h := toList_placeNibbles (u.toList.flatMap nibbles) [] 16 (Vector.replicate 16 0) rfl
      (by simp [List.length_flatMap, nibbles])
    rw [List.length_nil, Nat.mul_zero, List.nil_append, pairUp_flatMap_nibbles] at h
    exact h
  rw [string_eq_canonical, ← List.map_flatMap]
  unfold parseUUID
  rw [parseUUIDLoop_canonical _ hDN hlen, hplace]
  rfl

/-- **An accepted string prints back in lower case**: when `ParseUUID` accepts `s`, the
`String()` of its UUID is the canonical form of the digits of `s`, each in lower case. -/
theorem string_parseUUID {s : List Char} {u : UUID} (h : parseUUID s = .ok u) :
    u.string = canonical ((s.filter (· != '-')).map Char.toLower) := by
  unfold parseUUID at h
  rcases hl : parseUUIDLoop s s (Vector.replicate 16 0) 0 with e | ⟨v, j⟩
  · rw [hl] at h
    cases h
  · rw [hl] at h
    simp only at h
    by_cases hj : j = 32
    · rw [if_neg (not_not.mpr hj)] at h
      cases h
      obtain ⟨ns, hns, hj', hv⟩ := parseUUIDLoop_ok s s _ 0 hl
      obtain ⟨hlt, hmap⟩ := map_toLower _ ns hns
      have hlen : ns.length = 32 := by omega
      -- the 32 nibbles join into the bytes, which split back into them
      have htoList : u.toList = pairUp ns := by
        have h' := toList_placeNibbles ns [] 16 (Vector.replicate 16 0) rfl (by omega)
        rw [List.length_nil, Nat.mul_zero, List.nil_append, ← hv] at h'
        exact h'
      rw [string_eq_canonical, htoList, ← List.map_flatMap, flatMap_nibbles_pairUp ns hlt (by omega), hmap]
    · rw [if_pos hj] at h
      cases h

theorem unmarshalText_marshalText (u v : UUID) : unmarshalText v (marshalText u) = (u, none) := by
  unfold unmarshalText marshalText
  rw [parseUUID_string]

/-! ### JSON -/

theorem mem_canonical {c : Char} {D : List Char} (h : c ∈ canonical D) : c = '-' ∨ c ∈ D := by
  unfold canonical at h
  simp only [List.mem_append, List.mem_cons] at h
  rcases h with ((((h | h | h) | h | h) | h | h) | h | h)
  all_goals first
    | exact .inl h
    | exact .inr (List.mem_of_mem_take h)
    | exact .inr (List.mem_of_mem_drop (List.mem_of_mem_take h))
    | exact .inr (List.mem_of_mem_drop h)

/-- The sixteen digits are one byte each, and none is a double quote. -/
theorem hexChar_table : ∀ n : Fin 16,
    (hexChar (UInt8.ofNat n.val)).utf8Size = 1 ∧ hexChar (UInt8.ofNat n.val) ≠ '\x22' := by
  decide +kernel

/-- The runes of `String()`: hyphens and digits, one byte each, no double quote. -/
theorem string_runes (u : UUID) : ∀ c ∈ u.string, c.utf8Size = 1 ∧ c ≠ '\x22' := by
  intro c hc
  rw [string_eq_canonical] at hc
  rcases mem_canonical hc with rfl | hc
  · decide
  · obtain ⟨b, -, hb⟩ := List.mem_flatMap.mp hc
    obtain ⟨n, hn, rfl⟩ := List.mem_map.mp hb
    have h := hexChar_table ⟨n.toNat, nibbles_lt b n hn⟩
    rwa [UInt8.ofNat_toNat] at h

theorem length_string (u : UUID) : u.string.length = 36 := by
  rw [string_eq_canonical]
  simp [canonical, List.length_flatMap, nibbles]

/-- A nonempty string whose first rune is not `c` loses nothing to `dropWhile (· == c)`. -/
theorem dropWhile_of_head {S T : List Char} {c : Char} (hS : S ≠ []) (h : ∀ r ∈ S, r ≠ c) :
    (S ++ T).dropWhile (· == c) = S ++ T := by
  obtain ⟨r, S', rfl⟩ := List.exists_cons_of_ne_nil hS
  rw [List.cons_append, List.dropWhile_cons_of_neg (by simpa using h r (by simp))]

/-- **`UnmarshalJSON` reads back what `MarshalJSON` writes.** -/
theorem unmarshalJSON_marshalJSON (u v : UUID) : unmarshalJSON v (marshalJSON u) = (u, none) := by
  have hne : u.string ≠ [] := fun h => by simpa [h] using length_string u
  have hq : ∀ r ∈ u.string, r ≠ '\x22' := fun r hr => (string_runes u r hr).2
  -- the quotes come off, and the text is 36 bytes
  have htrim : goTrim (marshalJSON u) '\x22' = u.string := by
    unfold goTrim marshalJSON
    rw [List.cons_append, List.dropWhile_cons_of_pos (by simp), dropWhile_of_head hne hq, List.reverse_append,
      List.reverse_singleton, List.singleton_append, List.dropWhile_cons_of_pos (by simp),
      ← List.append_nil u.string.reverse,
      dropWhile_of_head (by simpa using hne) (fun r hr => hq r (List.mem_reverse.mp hr)), List.append_nil,
      List.reverse_reverse]
  have hlen : goLen u.string = 36 := by
    unfold goLen
    rw [List.map_congr_left (fun r hr => (string_runes u r hr).1), List.map_const', List.sum_replicate,
      length_string]
    rfl
  unfold unmarshalJSON
  simp only [htrim, hlen]
  rw [if_neg (by decide), parseUUID_string]

/-! ### The text codecs -/

/-- **UUID text round trips**: `ParseUUID` reads back `String()`, `UnmarshalText` reads back
`MarshalText` and `UnmarshalJSON` reads back `MarshalJSON`; and a string `ParseUUID` accepts
prints back as the lower-case canonical form of its own 32 digits. -/
theorem uuid_text_roundTrips :
    (∀ u : UUID, parseUUID u.string = .ok u) ∧
    (∀ u v : UUID, unmarshalText v (marshalText u) = (u, none)) ∧
    (∀ u v : UUID, unmarshalJSON v (marshalJSON u) = (u, none)) ∧
    (∀ (s : List Char) (u : UUID), parseUUID s = .ok u →
      u.string = canonical ((s.filter (· != '-')).map Char.toLower)) :=
  ⟨parseUUID_string, unmarshalText_marshalText, unmarshalJSON_marshalJSON, fun _ _ h => string_parseUUID h⟩

/-- A mixed-case string is accepted, and prints back in lower case. -/
theorem uuid_mixed_case_prints_lower :
    parseUUID "550E8400-e29b-41D4-a716-446655440000".toList =
        .ok #v[0x55, 0x0e, 0x84, 0x00, 0xe2, 0x9b, 0x41, 0xd4, 0xa7, 0x16, 0x44, 0x66, 0x55, 0x44, 0x00, 0x00] ∧
      UUID.string #v[0x55, 0x0e, 0x84, 0x00, 0xe2, 0x9b, 0x41, 0xd4, 0xa7, 0x16, 0x44, 0x66, 0x55, 0x44, 0x00, 0x00] =
        canonical (("550E8400-e29b-41D4-a716-446655440000".toList.filter (· != '-')).map Char.toLower) :=
  have h : parseUUID "550E8400-e29b-41D4-a716-446655440000".toList =
      .ok #v[0x55, 0x0e, 0x84, 0x00, 0xe2, 0x9b, 0x41, 0xd4, 0xa7, 0x16, 0x44, 0x66, 0x55, 0x44, 0x00, 0x00] := by
    decide +kernel
  ⟨h, uuid_text_roundTrips.2.2.2 _ _ h⟩

end Gocql
