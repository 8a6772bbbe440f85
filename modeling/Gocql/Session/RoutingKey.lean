import Gocql.Marshal.Composite

/-!
# Session — routing keys

`createRoutingKey` (`session.go`) builds the partition key a token-aware policy hashes: for one
partition-key column the value marshalled with the column's type, for several the Cassandra
`CompositeType` encoding, each component as `[uint16 length][bytes][0x00]`.  The value of
column `i` is `values[routingKeyInfo.indexes[i]]`, and nothing checks the indexes against the
values the caller bound, nor the length against `MaxUint16`.

* `createRoutingKey`, with `routingKeyLoop`, the loop over the components, and
  `routingKeyComponent`, the bytes of one.
* `createRoutingKey_single`: one column's key is `Marshal(types[0], values[indexes[0]])`.
* `routingKeyLoop_ok`, `createRoutingKey_composite`: when each component's value is there and
  marshals, the key is `compositeKey` of the components, with the length of each taken modulo
  `2 ^ 16` by `uint16(len(encoded))`.
* `splitComposite_compositeKey`: components below `2 ^ 16` bytes split back into themselves;
  `length_lt_of_splitComposite`: a split gives components below `2 ^ 16` bytes only;
  `createRoutingKey_spec`: the key of values in range, for one column and for several.
* `createRoutingKey_unchecked`: an index past the values panics, and a component of `2 ^ 16`
  bytes or more is framed with a wrapped length and returned as a key, which does not split back
  into the components.
-/

namespace Gocql

open Go

/-- `routingKeyInfo`, with the two slices `createRoutingKey` reads: the positions of the
partition-key columns among the bound values, and their types.  `Session.routingKeyInfo` makes
both of the partition key's length. -/
structure RoutingKeyInfo where
  indexes : List Int
  types : List TypeInfo
  lengths : indexes.length = types.length

/-- `binary.BigEndian.PutUint16`. -/
def putUint16 (v : UInt16) : List UInt8 := [(v >>> 8).toUInt8, v.toUInt8]

theorem putUint16_val (v : UInt16) :
    ∃ hi lo, putUint16 v = [hi, lo] ∧ hi.toNat * 256 + lo.toNat = v.toNat := by
  refine ⟨_, _, rfl, ?_⟩
  have hv := v.toNat_lt
  simp only [UInt16.toNat_toUInt8, UInt16.toNat_shiftRight]
  have h8 : (8 : UInt16).toNat % 16 = 8 := rfl
  rw [h8, Nat.shiftRight_eq_div_pow]
  omega

/-- One component of a composite key: `uint16(len(encoded))` big-endian, the bytes, `0x00`. -/
def routingKeyComponent (encoded : GoBytes) : List UInt8 :=
  putUint16 (UInt16.ofNat (encoded.getD []).length) ++ encoded.getD [] ++ [0]

/-- The composite key of the components' encodings, as the loop writes it. -/
def compositeKey (encs : List GoBytes) : List UInt8 := (encs.map routingKeyComponent).flatten

section Create

variable {κ ν εm εu : Type} [DecidableEq κ] [DecidableEq ν] (L : LeafCodec κ ν εm εu)

/-- The loop of `createRoutingKey` over the components, each a type and an index into the
values, writing into `buf`. -/
def routingKeyLoop (values : List (GoVal κ ν)) :
    List (TypeInfo × Int) → List UInt8 → Outcome Empty (Except (MarshalFailure εm) GoBytes)
  | [], buf => pure (.ok (some buf))
  | (typ, i) :: rest, buf => do
    let value ← index values i
    match marshal L typ value with
    | .error err => pure (.error err)
    | .ok encoded => routingKeyLoop values rest (buf ++ routingKeyComponent encoded)

/-- `createRoutingKey(routingKeyInfo, values)`.  The loop reads `types[i]` for each
`i` of `indexes`, which the two slices' common length keeps in range. -/
def createRoutingKey (routingKeyInfo : Option RoutingKeyInfo) (values : List (GoVal κ ν)) :
    Outcome Empty (Except (MarshalFailure εm) GoBytes) :=
  match routingKeyInfo with
  | none => pure (.ok none)
  | some info =>
    if info.indexes.length = 1 then do
      let typ ← index info.types 0
      let i ← index info.indexes 0
      let value ← index values i
      pure (marshal L typ value)
    else routingKeyLoop L values (info.types.zip info.indexes) []

/-- Each component's value is in the values and marshals to the bytes given. -/
def MarshalsTo (values : List (GoVal κ ν)) : List (TypeInfo × Int) → List GoBytes → Prop :=
  List.Forall₂ fun c e => ∃ v, (index values c.2 : Outcome Empty (GoVal κ ν)) = .ok v ∧ marshal L c.1 v = .ok e

/-- **The loop, when every component marshals**, appends their composite key. -/
theorem routingKeyLoop_ok {values : List (GoVal κ ν)} :
    ∀ {comps : List (TypeInfo × Int)} {encs : List GoBytes} (buf : List UInt8),
      MarshalsTo L values comps encs →
        routingKeyLoop L values comps buf = .ok (.ok (some (buf ++ compositeKey encs)))
  | [], [], buf, .nil => by simp [routingKeyLoop, compositeKey]
  | (typ, i) :: rest, e :: encs, buf, .cons ⟨v, hv, hm⟩ hrest => by
    rw [routingKeyLoop, hv, Outcome.ok_bind]
    simp only [hm]
    rw [routingKeyLoop_ok _ hrest]
    simp only [compositeKey, List.map_cons, List.flatten_cons, List.append_assoc]

/-- An index past the values, at the first component, panics before anything is marshalled. -/
theorem createRoutingKey_first_crash (info : RoutingKeyInfo) (values : List (GoVal κ ν)) {i : Int}
    (hi : info.indexes.head? = some i) (hout : ¬ (0 ≤ i ∧ i < values.length)) :
    createRoutingKey L (some info) values = .crash (.indexOutOfRange i values.length) := by
  have hcrash : (index values i : Outcome Empty (GoVal κ ν)) = .crash (.indexOutOfRange i values.length) := by
    rw [index, dif_neg hout]
  obtain ⟨rest, hidx⟩ : ∃ rest, info.indexes = i :: rest := by
    cases h : info.indexes with
    | nil => rw [h] at hi; cases hi
    | cons j rest => rw [h, List.head?_cons, Option.some.injEq] at hi; exact ⟨rest, by rw [hi]⟩
  obtain ⟨typ, types, htypes⟩ : ∃ typ types, info.types = typ :: types := by
    have hlen := info.lengths
    cases h : info.types with
    | nil => rw [h, hidx] at hlen; cases hlen
    | cons typ types => exact ⟨typ, types, rfl⟩
  dsimp only [createRoutingKey]
  split
  · case isTrue _ =>
    rw [htypes, hidx, index_zero_cons, Outcome.ok_bind, index_zero_cons, Outcome.ok_bind, hcrash,
      Outcome.crash_bind]
  · case isFalse _ =>
    rw [htypes, hidx, List.zip_cons_cons, routingKeyLoop, hcrash, Outcome.crash_bind]

/-- **A composite key never fails on its lengths**: with two components or more (or none), when
each component marshals, the key is their composite key, whatever their sizes. -/
theorem createRoutingKey_composite (info : RoutingKeyInfo) (values : List (GoVal κ ν))
    {encs : List GoBytes} (hk : info.indexes.length ≠ 1)
    (hm : MarshalsTo L values (info.types.zip info.indexes) encs) :
    createRoutingKey L (some info) values = .ok (.ok (some (compositeKey encs))) := by
  dsimp only [createRoutingKey]
  rw [if_neg hk, routingKeyLoop_ok L [] hm, List.nil_append]

/-- A single-column key is the value marshalled with the column's type. -/
theorem createRoutingKey_single (info : RoutingKeyInfo) (values : List (GoVal κ ν)) {i : Nat}
    {typ : TypeInfo} (hidx : info.indexes = [(i : Int)]) (htyp : info.types = [typ])
    (hi : i < values.length) :
    createRoutingKey L (some info) values = .ok (marshal L typ (values.get ⟨i, hi⟩)) := by
  dsimp only [createRoutingKey]
  rw [if_pos (by rw [hidx]; rfl), htyp, hidx, index_zero_cons, Outcome.ok_bind, index_zero_cons,
    Outcome.ok_bind, index_of_lt hi, Outcome.ok_bind]
  rfl

end Create

/-! ### Splitting a composite key -/

/-- A `CompositeType` value split into its components: a two-byte big-endian length, that many
bytes, and the end-of-component byte `0`, until the bytes run out. -/
def splitComposite (b : List UInt8) : Option (List (List UInt8)) :=
  match b with
  | [] => some []
  | hi :: lo :: rest =>
    if rest[hi.toNat * 256 + lo.toNat]? = some 0 then
      (splitComposite (rest.drop (hi.toNat * 256 + lo.toNat + 1))).map
        (rest.take (hi.toNat * 256 + lo.toNat) :: ·)
    else none
  | [_] => none
termination_by b.length
decreasing_by simp only [List.length_drop, List.length_cons]; omega

/-- One component of fewer than `2 ^ 16` bytes comes back first, and the split goes on after it. -/
theorem splitComposite_component {e : List UInt8} (he : e.length < 2 ^ 16) (more : List UInt8) :
    splitComposite (routingKeyComponent (some e) ++ more) = (splitComposite more).map (e :: ·) := by
  obtain ⟨hi, lo, hput, hval⟩ := putUint16_val (UInt16.ofNat e.length)
  have hn : hi.toNat * 256 + lo.toNat = e.length := by
    rw [hval, UInt16.toNat_ofNat', Nat.mod_eq_of_lt he]
  simp only [routingKeyComponent, Option.getD_some, hput, List.cons_append, List.nil_append,
    List.append_assoc]
  rw [splitComposite, hn, List.getElem?_append_right (Nat.le_refl _), Nat.sub_self,
    List.getElem?_cons_zero, if_pos rfl, List.take_left, List.drop_append, List.drop_eq_nil_of_le (by omega), List.nil_append,
    Nat.add_sub_cancel_left, List.drop_one, List.tail_cons]

/-- The composite key of components below `2 ^ 16` bytes splits back into them. -/
theorem splitComposite_compositeKey :
    ∀ {encs : List GoBytes}, (∀ e ∈ encs, (e.getD []).length < 2 ^ 16) →
      splitComposite (compositeKey encs) = some (encs.map (·.getD []))
  | [], _ => by simp [compositeKey, splitComposite]
  | e :: encs, hlen => by
    have hcomp : routingKeyComponent e = routingKeyComponent (some (e.getD [])) := rfl
    rw [compositeKey, List.map_cons, List.flatten_cons, hcomp,
      splitComposite_component (hlen e List.mem_cons_self), ← compositeKey,
      splitComposite_compositeKey fun e' he' => hlen e' (List.mem_cons_of_mem e he')]
    rfl

/-- Two bytes of length frame fewer than `2 ^ 16` bytes: every component of a split is shorter. -/
theorem length_lt_of_splitComposite (b : List UInt8) :
    ∀ {es : List (List UInt8)}, splitComposite b = some es → ∀ e ∈ es, e.length < 2 ^ 16 := by
  fun_induction splitComposite b with
  | case1 => intro es h e he; cases h; cases he
  | case2 hi lo rest hzero ih =>
    intro es h e he
    obtain ⟨es', hsplit, rfl⟩ := Option.map_eq_some_iff.mp h
    rcases List.mem_cons.mp he with rfl | he'
    · have hhi := hi.toNat_lt
      have hlo := lo.toNat_lt
      have htake := List.length_take_le (hi.toNat * 256 + lo.toNat) rest
      omega
    · exact ih hsplit e he'
  | case3 hi lo rest hzero => intro es h; cases h
  | case4 => intro es h; cases h

/-! ### The key and its split -/

section Keys

variable {κ ν εm εu : Type} [DecidableEq κ] [DecidableEq ν] (L : LeafCodec κ ν εm εu)

/-- **What `createRoutingKey` builds** from values it can index: for one column, the value
marshalled with the column's type; for several, when each component marshals to fewer than
`2 ^ 16` bytes, a composite key that splits back into the components. -/
theorem createRoutingKey_spec (info : RoutingKeyInfo) (values : List (GoVal κ ν)) :
    (∀ (i : Nat) (typ : TypeInfo) (hi : i < values.length), info.indexes = [(i : Int)] →
      info.types = [typ] → createRoutingKey L (some info) values = .ok (marshal L typ (values.get ⟨i, hi⟩))) ∧
    ∀ encs : List GoBytes, info.indexes.length ≠ 1 → MarshalsTo L values (info.types.zip info.indexes) encs →
      (∀ e ∈ encs, (e.getD []).length < 2 ^ 16) →
        ∃ key, createRoutingKey L (some info) values = .ok (.ok (some key)) ∧
          splitComposite key = some (encs.map (·.getD [])) :=
  ⟨fun _ _ hi hidx htyp => createRoutingKey_single L info values hidx htyp hi,
    fun _ hk hm hlen => ⟨_, createRoutingKey_composite L info values hk hm, splitComposite_compositeKey hlen⟩⟩

end Keys

/-! ### What the code does not check -/

section Unchecked

variable {κ ν εm εu : Type} [DecidableEq κ] [DecidableEq ν] (L : LeafCodec κ ν εm εu)

/-- **`createRoutingKey` checks neither the indexes nor the lengths.**  An index past the values
at the first component panics with `index out of range`, not an error; and a composite key
with a component of `2 ^ 16` bytes or more is returned with no error, framed with the length
modulo `2 ^ 16`, so that it does not split back into its components. -/
theorem createRoutingKey_unchecked :
    (∀ (info : RoutingKeyInfo) (values : List (GoVal κ ν)) (i : Int),
      info.indexes.head? = some i → ¬ (0 ≤ i ∧ i < values.length) →
        createRoutingKey L (some info) values = .crash (.indexOutOfRange i values.length)) ∧
    (∀ (info : RoutingKeyInfo) (values : List (GoVal κ ν)) (encs : List GoBytes),
      info.indexes.length ≠ 1 → MarshalsTo L values (info.types.zip info.indexes) encs →
        (∃ e ∈ encs, 2 ^ 16 ≤ (e.getD []).length) →
          createRoutingKey L (some info) values = .ok (.ok (some (compositeKey encs))) ∧
            splitComposite (compositeKey encs) ≠ some (encs.map (·.getD []))) := by
  refine ⟨fun info values i hi hout => createRoutingKey_first_crash L info values hi hout,
    fun info values encs hk hm hbig => ⟨createRoutingKey_composite L info values hk hm, ?_⟩⟩
  intro hsplit
  obtain ⟨e, he, hlong⟩ := hbig
  have hshort := length_lt_of_splitComposite _ hsplit (e.getD []) (List.mem_map_of_mem he)
  omega

end Unchecked

/-- `marshalVarchar` and `unmarshalVarchar` on the Go type they take as it is, `[]byte`: the
bytes themselves, nil for nil. -/
def bytesLeaf : LeafCodec Unit GoBytes Empty Empty where
  marshal _ v := .ok v
  unmarshal _ data _ := .ok data
  goType c := if c = .blob then some () else none
  zero _ := none
  string := ()
  ofString b := some b

/-- A `blob` column on protocol 4. -/
def blobInfo : TypeInfo := .native ⟨protoVersion4, .blob, []⟩

theorem marshal_blobInfo (v : GoBytes) : marshal bytesLeaf blobInfo (.leaf v) = .ok v := rfl

/-- The first index past no values panics; a blob of `2 ^ 16` bytes beside another is framed as
one of length 0 and returned as the key. -/
theorem createRoutingKey_past_values_and_wrapped :
    createRoutingKey bytesLeaf (some ⟨[0], [blobInfo], rfl⟩) [] = .crash (.indexOutOfRange 0 0) ∧
    createRoutingKey bytesLeaf (some ⟨[0, 1], [blobInfo, blobInfo], rfl⟩)
        [.leaf (some (List.replicate (2 ^ 16) 0)), .leaf (some [1])] =
      .ok (.ok (some (compositeKey [some (List.replicate (2 ^ 16) 0), some [1]]))) ∧
    splitComposite (compositeKey [some (List.replicate (2 ^ 16) 0), some [1]]) ≠
      some [List.replicate (2 ^ 16) 0, [1]] := by
  have hm : MarshalsTo bytesLeaf [.leaf (some (List.replicate (2 ^ 16) 0)), .leaf (some [1])]
      ([blobInfo, blobInfo].zip [0, 1]) [some (List.replicate (2 ^ 16) 0), some [1]] :=
    .cons ⟨_, rfl, marshal_blobInfo _⟩ (.cons ⟨_, rfl, marshal_blobInfo _⟩ .nil)
  have hbig : ∃ e : GoBytes, e ∈ [some (List.replicate (2 ^ 16) 0), some [1]] ∧
      2 ^ 16 ≤ (e.getD []).length :=
    ⟨_, List.mem_cons_self, by rw [Option.getD_some, List.length_replicate]⟩
  obtain ⟨hkey, hsplit⟩ := (createRoutingKey_unchecked bytesLeaf).2 ⟨[0, 1], [blobInfo, blobInfo], rfl⟩ _ _
    (by decide) hm hbig
  exact ⟨(createRoutingKey_unchecked bytesLeaf).1 _ [] 0 rfl (by decide), hkey, hsplit⟩

/-- Two blob columns, a null one and two bytes: the key splits back into them, the null one
empty. -/
theorem createRoutingKey_null_and_pair :
    ∃ key, createRoutingKey bytesLeaf (some ⟨[0, 1], [blobInfo, blobInfo], rfl⟩) [.leaf none, .leaf (some [1, 2])] =
        .ok (.ok (some key)) ∧ splitComposite key = some [[], [1, 2]] := by
  have hm : MarshalsTo bytesLeaf [.leaf none, .leaf (some [1, 2])] ([blobInfo, blobInfo].zip [0, 1]) [none, some [1, 2]] :=
    .cons ⟨_, rfl, marshal_blobInfo _⟩ (.cons ⟨_, rfl, marshal_blobInfo _⟩ .nil)
  exact (createRoutingKey_spec bytesLeaf ⟨[0, 1], [blobInfo, blobInfo], rfl⟩ _).2 _ (by decide) hm (by decide)

end Gocql
