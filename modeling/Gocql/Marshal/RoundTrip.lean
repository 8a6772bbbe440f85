import Gocql.Marshal.Decode

/-!
# Marshal — round trips of composite values

What `Marshal` writes of a list, a set or a map, `Unmarshal` reads back into a fresh value of
the same Go type, nested to any depth: the sizes `writeCollectionSize` writes are the sizes
`readCollectionSize` reads, each element keeps its bytes, a nil slice or map stays null and an
empty one a zero count.

* `readCollectionSize_write`, `readCollectionElem_item`: the length prefixes read back.
* `unmarshalList_marshalList`, `unmarshalMap_marshalMap`: the collection loops read back what
  they wrote, element by element.
* `Encodes`: the values this holds for — leaves the native codec round-trips, nil pointers,
  slices and maps, lists, arrays and maps of such values with distinct keys and with null
  elements only from protocol 3 on, and tuples into structs whose fields are none of them nil
  and have the Go types `goType` makes; `Encodes.roundTrip` is the round trip, and
  `composite_roundTrip` adds the size limit of protocol 2.
* `tuple_roundTrip_fails`: the two conditions on tuples are needed.  A nil slice in a tuple's
  struct is written as an empty value, not as null, and reads back as a list with no count;
  and a struct field of a Go type the element's codec round-trips, but not the one `goType`
  makes, is refused by `Set`.
-/

namespace Gocql

open Go

/-! ### Length prefixes -/

theorem val_appendInt (n : Int) : (BigEndian.val (appendInt [] n) : Int) = n % 2 ^ 32 := by
  simp only [appendInt, List.nil_append, BigEndian.val_cons, BigEndian.val_nil, List.length_cons,
    List.length_nil]
  push_cast
  simp only [goByte_toNat]
  norm_num
  omega

theorem sval_appendInt {n : Int} (hlo : -2 ^ 31 ≤ n) (hhi : n ≤ maxInt32) :
    BigEndian.sval (appendInt [] n) = n := by
  have h := val_appendInt n
  unfold maxInt32 at hhi
  unfold appendInt at h ⊢
  exact BigEndian.sval_eq_of_emod (by norm_num; omega) (by norm_num; omega) (by simpa using h)

theorem val_shortBytes {n : Int} (hlo : 0 ≤ n) (hhi : n ≤ maxUint16) :
    (BigEndian.val [goByte (n / 2 ^ 8), goByte n] : Int) = n := by
  unfold maxUint16 at hhi
  simp only [BigEndian.val_cons, BigEndian.val_nil, List.length_cons, List.length_nil]
  push_cast
  simp only [goByte_toNat]
  norm_num
  omega

theorem length_appendInt (n : Int) : (appendInt [] n).length = 4 := rfl

section Prefixes

variable {εm εu : Type}

/-- A size `writeCollectionSize` wrote reads back, with the bytes it took. -/
theorem readCollectionSize_write {proto : UInt8} {n : Int} {b : List UInt8}
    (h : (writeCollectionSize proto n : Except (MarshalFailure εm) (List UInt8)) = .ok b)
    (hlo : -1 ≤ n) (hnull : proto ≤ protoVersion2 → 0 ≤ n) (rest : List UInt8) :
    (readCollectionSize proto (b ++ rest) : Except (UnmarshalFailure εu) (Int × Nat)) =
      .ok (n, b.length) := by
  unfold writeCollectionSize at h
  unfold readCollectionSize
  split at h
  · rename_i hp
    split at h
    · cases h
    · rename_i hhi
      cases h
      have hlen : 4 ≤ (appendInt [] n ++ rest).length := by
        rw [List.length_append, length_appendInt]; omega
      rw [if_pos hp, if_neg (Nat.not_lt.mpr hlen), List.take_left' (length_appendInt n),
        sval_appendInt (by omega) (Int.not_lt.mp hhi), length_appendInt]
  · rename_i hp
    split at h
    · cases h
    · rename_i hhi
      cases h
      have h0 := hnull (UInt8.not_lt.mp hp)
      have htake : List.take 2 ([goByte (n / 2 ^ 8), goByte n] ++ rest) =
          [goByte (n / 2 ^ 8), goByte n] := List.take_left' rfl
      rw [if_neg hp, if_neg (by simp), htake, val_shortBytes h0 (Int.not_lt.mp hhi)]
      rfl

/-- Up to protocol 2 a size is a [short]: a count or a length past 65535 is refused, not cut
to its low bits. -/
theorem writeCollectionSize_short_tooLarge {proto : UInt8} {n : Int}
    (hp : proto ≤ protoVersion2) (hn : maxUint16 < n) :
    (writeCollectionSize proto n : Except (MarshalFailure εm) (List UInt8)) =
      .error .collectionTooLarge := by
  unfold writeCollectionSize
  rw [if_neg (UInt8.not_lt.mpr hp), if_pos hn]

/-- An element `marshalCollectionItem` wrote reads back: its bytes, or null from protocol 3 on. -/
theorem readCollectionElem_item {proto : UInt8} {item : GoBytes} {b : List UInt8}
    (h : (marshalCollectionItem proto item : Except (MarshalFailure εm) (List UInt8)) = .ok b)
    (hnull : proto ≤ protoVersion2 → item.isSome) (eof : UnmarshalFailure εu)
    (rest : List UInt8) :
    readCollectionElem proto eof (b ++ rest) = .ok (item, rest) := by
  unfold marshalCollectionItem at h
  obtain ⟨size, hsize, hb⟩ := bind_eq_ok h
  cases hb
  unfold readCollectionElem
  cases item with
  | some d =>
    have hlen : ((if (some d).isNone ∧ protoVersion2 < proto then -1 else
        ((some d).getD []).length : Int)) = d.length := by simp
    rw [hlen] at hsize
    rw [List.append_assoc, readCollectionSize_write hsize (by omega) (fun _ => by omega)]
    simp only [Option.getD_some, except_ok_bind, Nat.cast_nonneg, if_true, List.drop_left,
      Int.toNat_natCast, List.take_left, List.drop_left, List.length_append]
    rw [if_neg (by omega)]
    rfl
  | none =>
    -- null is `-1`, which only protocol 3 on writes
    have hp : protoVersion2 < proto := by
      by_contra hle
      exact absurd (hnull (UInt8.not_lt.mp hle)) (by simp)
    have hlen : ((if (none : GoBytes).isNone ∧ protoVersion2 < proto then -1 else
        ((none : GoBytes).getD []).length : Int)) = -1 := by simp [hp]
    rw [hlen] at hsize
    rw [List.append_assoc, readCollectionSize_write hsize le_rfl
      (fun hle => absurd hp (UInt8.not_lt.mpr hle))]
    simp only [except_ok_bind, Int.reduceLE, if_false, List.drop_left]
    rfl

/-- A `[bytes]` of `appendInt` and the bytes reads back, if its length is an `int32`. -/
theorem readBytes_appendInt {d : List UInt8} (hd : (d.length : Int) ≤ maxInt32)
    (rest : List UInt8) :
    (Marshal.readBytes (appendInt [] d.length ++ (d ++ rest)) :
      Except (UnmarshalFailure εu) (GoBytes × List UInt8)) = .ok (some d, rest) := by
  have hlen : ¬ (appendInt [] d.length ++ (d ++ rest)).length < 4 := by
    simp only [List.length_append, length_appendInt]; omega
  unfold Marshal.readBytes
  rw [if_neg hlen, List.take_left' (length_appendInt _), List.drop_left' (length_appendInt _),
    sval_appendInt (by omega) hd, if_neg (by omega),
    if_neg (by simp only [List.length_append]; omega)]
  simp only [Int.toNat_natCast, List.take_left, List.drop_left]

/-- A tuple element `marshalTuple` wrote reads back. -/
theorem readTupleElem_appendInt {d : List UInt8} (hd : (d.length : Int) ≤ maxInt32)
    (rest : List UInt8) :
    (readTupleElem (some (appendInt [] d.length ++ (d ++ rest))) :
      Except (UnmarshalFailure εu) (GoBytes × GoBytes)) = .ok (some d, some rest) := by
  have hlen : 4 ≤ (appendInt [] d.length ++ (d ++ rest)).length := by
    simp only [List.length_append, length_appendInt]; omega
  simp only [readTupleElem, if_pos hlen, readBytes_appendInt hd, except_ok_bind]
  rfl

end Prefixes

/-! ### The collection loops -/

section Loops

variable {κ ν εm εu : Type}

/-- An element encoder and decoder agree on `v`, as an element of a collection of protocol
`proto`: what `enc` makes of it `dec` makes back into it, and it is not null up to protocol 2,
which has no null element. -/
def ElemRoundTrips (enc : GoVal κ ν → Except (MarshalFailure εm) GoBytes)
    (dec : GoBytes → GoType κ → Except (UnmarshalFailure εu) (GoVal κ ν)) (proto : UInt8)
    (e : GoType κ) (v : GoVal κ ν) : Prop :=
  ∀ d, enc v = .ok d → dec d e = .ok v ∧ (proto ≤ protoVersion2 → d.isSome)

/-- The loop of `unmarshalList` reads back the elements the loop of `marshalList` wrote. -/
theorem unmarshalListElems_marshalListItems
    {enc : GoVal κ ν → Except (MarshalFailure εm) GoBytes}
    {dec : GoBytes → GoType κ → Except (UnmarshalFailure εu) (GoVal κ ν)} {proto : UInt8}
    {e : GoType κ} :
    ∀ {vs : List (GoVal κ ν)} {body : List UInt8}, marshalListItems enc proto vs = .ok body →
      (∀ v ∈ vs, ElemRoundTrips enc dec proto e v) →
      ∀ rest, unmarshalListElems dec proto e vs.length (body ++ rest) = .ok vs
  | [], _, _, _, _ => rfl
  | v :: vs, body, h, hvs, rest => by
    simp only [marshalListItems] at h
    obtain ⟨item, hitem, h₁⟩ := bind_eq_ok h
    obtain ⟨bytes, hbytes, h₂⟩ := bind_eq_ok h₁
    obtain ⟨more, hmore, h₃⟩ := bind_eq_ok h₂
    cases h₃
    obtain ⟨hdec, hnull⟩ := hvs v List.mem_cons_self item hitem
    have ih := unmarshalListElems_marshalListItems hmore
      (fun w hw => hvs w (List.mem_cons_of_mem v hw)) rest
    simp only [List.length_cons, unmarshalListElems, List.append_assoc,
      readCollectionElem_item hbytes hnull, except_ok_bind, hdec, ih]
    rfl

/-- What `marshalList` writes of the elements `vs` of a slice or an array: their count, then
each of them. -/
theorem marshalList_elems {enc : GoVal κ ν → Except (MarshalFailure εm) GoBytes}
    {proto : UInt8} {v : GoVal κ ν} {e : GoType κ} {vs : List (GoVal κ ν)} {d : GoBytes}
    (hv : v = .slice e (some vs) ∨ v = .array e vs) (h : marshalList enc proto v = .ok d) :
    ∃ size body, (writeCollectionSize proto vs.length :
        Except (MarshalFailure εm) (List UInt8)) = .ok size ∧
      marshalListItems enc proto vs = .ok body ∧ d = some (size ++ body) := by
  have h' : (do
      let size ← writeCollectionSize proto vs.length
      let body ← marshalListItems enc proto vs
      pure (some (size ++ body)) : Except (MarshalFailure εm) GoBytes) = .ok d := by
    rcases hv with rfl | rfl <;> exact h
  obtain ⟨size, hsize, h₁⟩ := bind_eq_ok h'
  obtain ⟨body, hbody, h₂⟩ := bind_eq_ok h₁
  cases h₂
  exact ⟨size, body, hsize, hbody, rfl⟩

/-- The count and the elements of a list, as `marshalList` wrote them, read back. -/
theorem readCollection_marshalList
    {enc : GoVal κ ν → Except (MarshalFailure εm) GoBytes}
    {dec : GoBytes → GoType κ → Except (UnmarshalFailure εu) (GoVal κ ν)} {proto : UInt8}
    {e : GoType κ} {vs : List (GoVal κ ν)} {size body : List UInt8}
    (hsize : (writeCollectionSize proto vs.length : Except (MarshalFailure εm) (List UInt8)) =
      .ok size)
    (hbody : marshalListItems enc proto vs = .ok body)
    (hvs : ∀ v ∈ vs, ElemRoundTrips enc dec proto e v) :
    (readCollectionSize proto (size ++ body) : Except (UnmarshalFailure εu) (Int × Nat)) =
        .ok (vs.length, size.length) ∧
      unmarshalListElems dec proto e vs.length ((size ++ body).drop size.length) = .ok vs := by
  have hloop := unmarshalListElems_marshalListItems hbody hvs []
  rw [List.append_nil] at hloop
  exact ⟨readCollectionSize_write hsize (by omega) (fun _ => by omega) body,
    by rw [List.drop_left]; exact hloop⟩

/-- `unmarshalList` reads back into a slice the elements `marshalList` wrote. -/
theorem unmarshalList_marshalList
    {enc : GoVal κ ν → Except (MarshalFailure εm) GoBytes}
    {dec : GoBytes → GoType κ → Except (UnmarshalFailure εu) (GoVal κ ν)} {proto : UInt8}
    {e : GoType κ} {vs : List (GoVal κ ν)} {d : GoBytes}
    (h : marshalList enc proto (.slice e (some vs)) = .ok d)
    (hvs : ∀ v ∈ vs, ElemRoundTrips enc dec proto e v) :
    unmarshalList dec proto d (.slice e) = .ok (.slice e (some vs)) := by
  obtain ⟨size, body, hsize, hbody, rfl⟩ := marshalList_elems (Or.inl rfl) h
  obtain ⟨hread, hloop⟩ := readCollection_marshalList hsize hbody hvs
  simp only [unmarshalList, hread, except_ok_bind, Int.toNat_natCast, hloop]
  rw [if_neg (by omega)]
  rfl

/-- `unmarshalList` reads back into an array of the same length the elements `marshalList`
wrote. -/
theorem unmarshalList_marshalList_array
    {enc : GoVal κ ν → Except (MarshalFailure εm) GoBytes}
    {dec : GoBytes → GoType κ → Except (UnmarshalFailure εu) (GoVal κ ν)} {proto : UInt8}
    {e : GoType κ} {vs : List (GoVal κ ν)} {d : GoBytes}
    (h : marshalList enc proto (.array e vs) = .ok d)
    (hvs : ∀ v ∈ vs, ElemRoundTrips enc dec proto e v) :
    unmarshalList dec proto d (.array vs.length e) = .ok (.array e vs) := by
  obtain ⟨size, body, hsize, hbody, rfl⟩ := marshalList_elems (Or.inr rfl) h
  obtain ⟨hread, hloop⟩ := readCollection_marshalList hsize hbody hvs
  simp only [unmarshalList, hread, except_ok_bind, hloop]
  rw [if_neg (by simp)]
  rfl

/-- Up to protocol 2, `marshalList` refuses a slice of more than 65535 elements. -/
theorem marshalList_short_tooLarge (enc : GoVal κ ν → Except (MarshalFailure εm) GoBytes)
    {proto : UInt8} (e : GoType κ) {vs : List (GoVal κ ν)} (hp : proto ≤ protoVersion2)
    (hn : maxUint16 < vs.length) :
    marshalList enc proto (.slice e (some vs)) = .error .collectionTooLarge := by
  simp only [marshalList, writeCollectionSize_short_tooLarge hp hn]
  rfl

variable [DecidableEq κ] [DecidableEq ν]

/-- `SetMapIndex` with a key no entry has adds the entry at the end. -/
theorem setMapIndex_fresh {m : List (GoVal κ ν × GoVal κ ν)} {k : GoVal κ ν} (v : GoVal κ ν)
    (h : ∀ e ∈ m, GoVal.beq e.1 k = false) : setMapIndex m k v = m ++ [(k, v)] := by
  unfold setMapIndex
  rw [if_neg]
  simp only [List.any_eq_true, not_exists, not_and, Bool.not_eq_true]
  exact h

/-- The loop of `unmarshalMap` reads back, after the entries `acc` it holds, the entries the
loop of `marshalMap` wrote, as long as no two keys are equal. -/
theorem unmarshalMapEntries_marshalMapEntries
    {encKey encElem : GoVal κ ν → Except (MarshalFailure εm) GoBytes}
    {decKey decElem : GoBytes → GoType κ → Except (UnmarshalFailure εu) (GoVal κ ν)}
    {proto : UInt8} {kt vt : GoType κ} :
    ∀ {es : List (GoVal κ ν × GoVal κ ν)} {body : List UInt8},
      marshalMapEntries encKey encElem proto es = .ok body →
      (∀ kv ∈ es, ElemRoundTrips encKey decKey proto kt kv.1 ∧
        ElemRoundTrips encElem decElem proto vt kv.2) →
      ∀ acc, ((acc ++ es).map Prod.fst).Pairwise (fun a b => GoVal.beq a b = false) →
      ∀ rest, unmarshalMapEntries decKey decElem proto kt vt es.length (body ++ rest) acc =
        .ok (acc ++ es)
  | [], _, _, _, acc, _, _ => by simp only [List.length_nil, unmarshalMapEntries, List.append_nil]
  | (k, v) :: es, body, h, hes, acc, hd, rest => by
    simp only [marshalMapEntries] at h
    obtain ⟨key, hkey, h₁⟩ := bind_eq_ok h
    obtain ⟨keyBytes, hkeyBytes, h₂⟩ := bind_eq_ok h₁
    obtain ⟨val, hval, h₃⟩ := bind_eq_ok h₂
    obtain ⟨valBytes, hvalBytes, h₄⟩ := bind_eq_ok h₃
    obtain ⟨more, hmore, h₅⟩ := bind_eq_ok h₄
    cases h₅
    obtain ⟨hK, hV⟩ := hes (k, v) List.mem_cons_self
    obtain ⟨hk, hknull⟩ := hK key hkey
    obtain ⟨hv, hvnull⟩ := hV val hval
    -- the key is none of those read before, so `SetMapIndex` appends it
    have hfresh : ∀ e ∈ acc, GoVal.beq e.1 k = false := by
      rw [List.map_append, List.pairwise_append] at hd
      exact fun e he => hd.2.2 e.1 (List.mem_map_of_mem he) k List.mem_cons_self
    have hd' : ((acc ++ [(k, v)] ++ es).map Prod.fst).Pairwise
        (fun a b => GoVal.beq a b = false) := by
      rwa [List.append_assoc, List.singleton_append]
    have ih := unmarshalMapEntries_marshalMapEntries hmore
      (fun kv hkv => hes kv (List.mem_cons_of_mem _ hkv)) (acc ++ [(k, v)]) hd' rest
    simp only [List.length_cons, unmarshalMapEntries, List.append_assoc,
      readCollectionElem_item hkeyBytes hknull, except_ok_bind, hk,
      readCollectionElem_item hvalBytes hvnull, hv, setMapIndex_fresh v hfresh]
    rw [ih, List.append_assoc, List.singleton_append]

/-- `unmarshalMap` reads back the map `marshalMap` wrote, if its keys are distinct. -/
theorem unmarshalMap_marshalMap
    {encKey encElem : GoVal κ ν → Except (MarshalFailure εm) GoBytes}
    {decKey decElem : GoBytes → GoType κ → Except (UnmarshalFailure εu) (GoVal κ ν)}
    {proto : UInt8} {kt vt : GoType κ} {es : List (GoVal κ ν × GoVal κ ν)} {d : GoBytes}
    (h : marshalMap encKey encElem proto (.map kt vt (some es)) = .ok d)
    (hes : ∀ kv ∈ es, ElemRoundTrips encKey decKey proto kt kv.1 ∧
      ElemRoundTrips encElem decElem proto vt kv.2)
    (hd : (es.map Prod.fst).Pairwise (fun a b => GoVal.beq a b = false)) :
    unmarshalMap decKey decElem proto d (.map kt vt) = .ok (.map kt vt (some es)) := by
  simp only [marshalMap] at h
  obtain ⟨size, hsize, h₁⟩ := bind_eq_ok h
  obtain ⟨body, hbody, h₂⟩ := bind_eq_ok h₁
  cases h₂
  have hread : (readCollectionSize proto (size ++ body) :
      Except (UnmarshalFailure εu) (Int × Nat)) = .ok (es.length, size.length) :=
    readCollectionSize_write hsize (by omega) (fun _ => by omega) body
  have hloop := unmarshalMapEntries_marshalMapEntries hbody hes [] (by simpa using hd) []
  rw [List.append_nil, List.nil_append] at hloop
  simp only [unmarshalMap, hread, except_ok_bind, List.drop_left, Int.toNat_natCast, hloop]
  rw [if_neg (by omega)]
  rfl

end Loops

/-! ### Values that round trip -/

section Encodes

variable {κ ν εm εu : Type}

/-- An element whose own round trip gives null data exactly for a nil value round-trips as an
element, given that it is not null up to protocol 2. -/
theorem elemRoundTrips_of {enc : GoVal κ ν → Except (MarshalFailure εm) GoBytes}
    {dec : GoBytes → GoType κ → Except (UnmarshalFailure εu) (GoVal κ ν)} {proto : UInt8}
    {e : GoType κ} {v : GoVal κ ν}
    (h : ∀ d, enc v = .ok d → dec d e = .ok v ∧ d.isNone = v.isNilRef)
    (hnull : v.isNilRef → protoVersion2 < proto) : ElemRoundTrips enc dec proto e v := by
  intro d hd
  obtain ⟨hdec, hnone⟩ := h d hd
  refine ⟨hdec, fun hp => ?_⟩
  cases hv : v.isNilRef with
  | false => rw [hv] at hnone; cases d <;> simp_all
  | true => exact absurd (hnull hv) (UInt8.not_lt.mpr hp)

/-- The start of `Marshal` on a value that is not a pointer goes on with the value. -/
theorem marshalPrelude_ok {n : NativeType} {value v : GoVal κ ν}
    {k : GoVal κ ν → Except (MarshalFailure εm) GoBytes} {d : GoBytes}
    (hv : value.deref = some v) (h : marshalPrelude n value k = .ok d) : k v = .ok d := by
  unfold marshalPrelude at h
  split at h
  · cases h
  · rw [hv] at h
    exact h

/-- On a nil pointer, `Marshal` writes null. -/
theorem marshalPrelude_nil {n : NativeType} {value : GoVal κ ν}
    {k : GoVal κ ν → Except (MarshalFailure εm) GoBytes} {d : GoBytes}
    (hv : value.deref = none) (h : marshalPrelude n value k = .ok d) : d = none := by
  unfold marshalPrelude at h
  split at h
  · cases h
  · rw [hv] at h
    cases h
    rfl

variable [DecidableEq κ] [DecidableEq ν] (L : LeafCodec κ ν εm εu)

omit [DecidableEq κ] [DecidableEq ν] in
theorem isNilPtr_of_isNilRef {v : GoVal κ ν} (h : v.isNilRef = false) : v.isNilPtr = false := by
  cases v with
  | ptr _ target => cases target <;> simp_all [GoVal.isNilRef, GoVal.isNilPtr]
  | _ => rfl

omit [DecidableEq κ] [DecidableEq ν] in
/-- `goType` makes no pointer type. -/
theorem goType_ne_ptr {info : TypeInfo} {g : GoType κ}
    (h : goType L info = .ok g) (s : GoType κ) : g ≠ .ptr s := by
  have hnative : ∀ n, goTypeNative L n = .ok g → g ≠ .ptr s := by
    intro n hn
    unfold goTypeNative at hn
    split at hn <;> cases hn
    intro hg
    cases hg
  cases info with
  | native n => exact hnative n h
  | collection n key elem =>
    simp only [goType] at h
    split at h
    · obtain ⟨e, -, h₁⟩ := bind_eq_ok h
      cases h₁
      intro hg
      cases hg
    · split at h
      · obtain ⟨k, -, h₁⟩ := bind_eq_ok h
        obtain ⟨e, -, h₂⟩ := bind_eq_ok h₁
        cases h₂
        intro hg
        cases hg
      · exact hnative n h
  | tuple n elems =>
    simp only [goType] at h
    split at h
    · cases h
      intro hg
      cases hg
    · exact hnative n h
  | udt n keyspace name elements =>
    simp only [goType] at h
    split at h
    · cases h
      intro hg
      cases hg
    · exact hnative n h

omit [DecidableEq ν] in
/-- A tuple element stored into a slot of its own type, not a pointer, is stored as it is. -/
theorem storeTupleElem_self {g : GoType κ} (hg : ∀ s, g ≠ .ptr s) (p : GoBytes)
    (v : GoVal κ ν) :
    (storeTupleElem g g p v : Except (UnmarshalFailure εu) (GoVal κ ν)) = .ok v := by
  unfold storeTupleElem
  split
  · exact absurd rfl (hg _)
  · simp only [GoType.assignable, GoType.beq_self, Bool.true_or, if_true]

/-- What the tuple loops need of an element `e` stored in a struct field of type `g` with value
`v`: `g` is the type `goType` makes for `e`, `v` is no nil pointer, and `v` round-trips into a
`g` through non-null data short enough for the `int32` length `marshalTuple` writes. -/
def TupleElemRoundTrips (e : TypeInfo) (g : GoType κ) (v : GoVal κ ν) : Prop :=
  goType L e = .ok g ∧ v.isNilPtr = false ∧
    ∀ d, marshal L e v = .ok d →
      unmarshal L e d g = .ok v ∧ ∃ bs, d = some bs ∧ (bs.length : Int) ≤ maxInt32

/-- The loop of `unmarshalTuple` into a struct reads back the elements the loop of
`marshalTuple` wrote of its fields. -/
theorem unmarshalTupleElems_marshalTupleItems :
    ∀ {elems : List TypeInfo} {fs : List (List UInt8 × List UInt8 × GoType κ)}
      {vals : List (GoVal κ ν)} {body : List UInt8},
      marshalTupleItems L GoVal.isNilPtr elems vals = .ok body →
      fs.length = elems.length → vals.length = elems.length →
      (∀ x ∈ elems.zip (fs.zip vals), TupleElemRoundTrips L x.1 x.2.1.2.2 x.2.2) →
      ∀ rest, unmarshalTupleElems L elems (fs.map fun f => f.2.2) (some (body ++ rest)) =
        .ok vals
  | [], _, [], _, _, _, _, _, _ => rfl
  | [], _, _ :: _, _, _, _, hvals, _, _ => by simp at hvals
  | _ :: _, [], _, _, _, hfs, _, _, _ => by simp at hfs
  | _ :: _, _ :: _, [], _, _, _, hvals, _, _ => by simp at hvals
  | e :: es, f :: fs, v :: vs, body, h, hfs, hvals, hx, rest => by
    obtain ⟨hg, hnp, hrt⟩ := hx (e, f, v) List.mem_cons_self
    simp only [marshalTupleItems, hnp, Bool.false_eq_true, if_false, pure_bind] at h
    obtain ⟨data, hdata, h₁⟩ := bind_eq_ok h
    obtain ⟨more, hmore, h₂⟩ := bind_eq_ok h₁
    cases h₂
    obtain ⟨hdec, bs, rfl, hbs⟩ := hrt data hdata
    have ih := unmarshalTupleElems_marshalTupleItems hmore (by simpa using hfs)
      (by simpa using hvals) (fun x hx' => hx x (List.mem_cons_of_mem _ hx')) rest
    simp only [List.map_cons, unmarshalTupleElems, Option.getD_some, List.append_assoc,
      readTupleElem_appendInt hbs, except_ok_bind, hg, hdec, storeTupleElem_self (goType_ne_ptr L hg),
      ih]
    rfl

/-- A tuple of at least one element is written as at least one length. -/
theorem marshalTupleItems_ne_nil {isNull : GoVal κ ν → Bool} {e : TypeInfo}
    {es : List TypeInfo} {v : GoVal κ ν} {vs : List (GoVal κ ν)} {body : List UInt8}
    (h : marshalTupleItems L isNull (e :: es) (v :: vs) = .ok body) : body ≠ [] := by
  simp only [marshalTupleItems, pure_bind] at h
  split at h
  · obtain ⟨more, -, h₁⟩ := bind_eq_ok h
    cases h₁
    simp [appendInt]
  · obtain ⟨data, -, h₁⟩ := bind_eq_ok h
    obtain ⟨more, -, h₂⟩ := bind_eq_ok h₁
    cases h₂
    simp [appendInt]

/-- The values of a CQL type `info`, of Go type `t`, that `Unmarshal` gives back from what
`Marshal` writes of them: leaves the native codec round-trips to non-null data; nil pointers;
nil and non-nil slices and arrays of a list or a set; nil and non-nil maps of a map with no
two keys equal; and, within a collection, null elements only from protocol 3 on. -/
inductive Encodes : TypeInfo → GoType κ → GoVal κ ν → Prop
  | leaf {n : NativeType} {k : κ} {x : ν} (hn : n.typ ∈ leafTypes)
      (hx : ∀ d, L.marshal n x = .ok d → L.unmarshal n d k = .ok x ∧ d.isSome) :
      Encodes (.native n) (.leaf k) (.leaf x)
  | nilPtr (info : TypeInfo) (s : GoType κ) : Encodes info (.ptr s) (.ptr s none)
  | nilList {n : NativeType} {key : Option TypeInfo} {elem : TypeInfo} (e : GoType κ)
      (hn : n.typ = .list ∨ n.typ = .set) :
      Encodes (.collection n key elem) (.slice e) (.slice e none)
  | list {n : NativeType} {key : Option TypeInfo} {elem : TypeInfo} {e : GoType κ}
      {vs : List (GoVal κ ν)} (hn : n.typ = .list ∨ n.typ = .set)
      (hvs : ∀ v ∈ vs, Encodes elem e v)
      (hnull : ∀ v ∈ vs, v.isNilRef → protoVersion2 < n.proto) :
      Encodes (.collection n key elem) (.slice e) (.slice e (some vs))
  | array {n : NativeType} {key : Option TypeInfo} {elem : TypeInfo} {e : GoType κ}
      {vs : List (GoVal κ ν)} (hn : n.typ = .list ∨ n.typ = .set)
      (hvs : ∀ v ∈ vs, Encodes elem e v)
      (hnull : ∀ v ∈ vs, v.isNilRef → protoVersion2 < n.proto) :
      Encodes (.collection n key elem) (.array vs.length e) (.array e vs)
  | nilMap {n : NativeType} {key : Option TypeInfo} {elem : TypeInfo} (kt vt : GoType κ)
      (hn : n.typ = .map) :
      Encodes (.collection n key elem) (.map kt vt) (.map kt vt none)
  | map {n : NativeType} {key elem : TypeInfo} {kt vt : GoType κ}
      {es : List (GoVal κ ν × GoVal κ ν)} (hn : n.typ = .map)
      (hkeys : ∀ kv ∈ es, Encodes key kt kv.1) (hvals : ∀ kv ∈ es, Encodes elem vt kv.2)
      (hnull : ∀ kv ∈ es, (kv.1.isNilRef || kv.2.isNilRef) → protoVersion2 < n.proto)
      (hdistinct : (es.map Prod.fst).Pairwise (fun a b => GoVal.beq a b = false)) :
      Encodes (.collection n (some key) elem) (.map kt vt) (.map kt vt (some es))
  | tuple {n : NativeType} {elems : List TypeInfo}
      {fs : List (List UInt8 × List UInt8 × GoType κ)} {vals : List (GoVal κ ν)}
      (hn : n.typ = .tuple) (hne : elems ≠ [])
      (hfs : fs.length = elems.length) (hvals : vals.length = elems.length)
      (hg : ∀ x ∈ elems.zip (fs.zip vals), goType L x.1 = .ok x.2.1.2.2)
      (hvs : ∀ x ∈ elems.zip (fs.zip vals), Encodes x.1 x.2.1.2.2 x.2.2)
      (hnil : ∀ x ∈ elems.zip (fs.zip vals), x.2.2.isNilRef = false)
      (hsize : ∀ x ∈ elems.zip (fs.zip vals), ∀ bs, marshal L x.1 x.2.2 = .ok (some bs) →
        (bs.length : Int) ≤ maxInt32) :
      Encodes (.tuple n elems) (.struct fs) (.struct fs vals)

theorem not_mem_leafTypes_of_list {c : CqlType} (h : c = .list ∨ c = .set) : c ∉ leafTypes :=
  not_mem_leafTypes_of_composite (h.elim Or.inl fun h => Or.inr (Or.inl h))

theorem not_mem_leafTypes_of_map {c : CqlType} (h : c = .map) : c ∉ leafTypes :=
  not_mem_leafTypes_of_composite (Or.inr (Or.inr (Or.inl h)))

theorem not_list_of_map {c : CqlType} (h : c = .map) : ¬ (c = .list ∨ c = .set) := by
  rw [h]; decide

theorem not_list_of_tuple {c : CqlType} (h : c = .tuple) : ¬ (c = .list ∨ c = .set) := by
  rw [h]; decide

theorem not_map_of_tuple {c : CqlType} (h : c = .tuple) : c ≠ .map := by
  rw [h]; decide

/-- Into a pointer, null data is a nil pointer, whatever the type. -/
theorem unmarshal_null_ptr (info : TypeInfo) (s : GoType κ) :
    (unmarshal L info none (.ptr s) : Except (UnmarshalFailure εu) (GoVal κ ν)) =
      .ok (.ptr s none) := by
  cases info <;> rfl

/-- **Round trip**: what `Marshal` writes of a value `Encodes` admits, `Unmarshal` reads back
into a fresh value of its type, and the data is null exactly for a nil pointer, slice or
map. -/
theorem Encodes.roundTrip {info : TypeInfo} {t : GoType κ} {v : GoVal κ ν}
    (h : Encodes L info t v) :
    ∀ d, marshal L info v = .ok d → unmarshal L info d t = .ok v ∧ d.isNone = v.isNilRef := by
  induction h with
  | @leaf n k x hn hx =>
    intro d hd
    have hd' := marshalPrelude_ok rfl hd
    simp only [marshalSwitch, if_pos hn, marshalLeaf] at hd'
    have hm : L.marshal n x = .ok d := by
      split at hd'
      · rename_i hm
        cases hd'
        exact hm
      · cases hd'
    obtain ⟨hu, hsome⟩ := hx d hm
    refine ⟨?_, ?_⟩
    · simp only [unmarshal, unmarshalPtr, unmarshalSwitch, if_pos hn, unmarshalLeaf, hu]
    · cases d <;> simp_all [GoVal.isNilRef]
  | nilPtr info s =>
    intro d hd
    have hnil : d = none := by
      cases info <;> exact marshalPrelude_nil rfl hd
    subst hnil
    exact ⟨unmarshal_null_ptr L info s, rfl⟩
  | nilList e hn =>
    intro d hd
    have hd' := marshalPrelude_ok rfl hd
    simp only [marshalSwitch, if_neg (not_mem_leafTypes_of_list hn), if_pos hn,
      marshalList] at hd'
    cases hd'
    refine ⟨?_, rfl⟩
    simp only [unmarshal, unmarshalPtr, unmarshalSwitch, if_neg (not_mem_leafTypes_of_list hn),
      if_pos hn, unmarshalList]
  | @list n key elem e vs hn hvs hnull ih =>
    intro d hd
    have hd' := marshalPrelude_ok rfl hd
    simp only [marshalSwitch, if_neg (not_mem_leafTypes_of_list hn), if_pos hn] at hd'
    obtain ⟨size, body, -, -, rfl⟩ := marshalList_elems (Or.inl rfl) hd'
    refine ⟨?_, rfl⟩
    simp only [unmarshal, unmarshalPtr, unmarshalSwitch, if_neg (not_mem_leafTypes_of_list hn),
      if_pos hn]
    exact unmarshalList_marshalList hd' fun v hv => elemRoundTrips_of (ih v hv) (hnull v hv)
  | @array n key elem e vs hn hvs hnull ih =>
    intro d hd
    have hd' := marshalPrelude_ok rfl hd
    simp only [marshalSwitch, if_neg (not_mem_leafTypes_of_list hn), if_pos hn] at hd'
    obtain ⟨size, body, -, -, rfl⟩ := marshalList_elems (Or.inr rfl) hd'
    refine ⟨?_, rfl⟩
    simp only [unmarshal, unmarshalPtr, unmarshalSwitch, if_neg (not_mem_leafTypes_of_list hn),
      if_pos hn]
    exact unmarshalList_marshalList_array hd' fun v hv => elemRoundTrips_of (ih v hv) (hnull v hv)
  | nilMap kt vt hn =>
    intro d hd
    have hlist := not_list_of_map hn
    have hd' := marshalPrelude_ok rfl hd
    simp only [marshalSwitch, if_neg (not_mem_leafTypes_of_map hn), if_neg hlist, if_pos hn,
      marshalMap] at hd'
    cases hd'
    refine ⟨?_, rfl⟩
    simp only [unmarshal, unmarshalPtr, unmarshalSwitch, if_neg (not_mem_leafTypes_of_map hn),
      if_neg hlist, if_pos hn, unmarshalMap]
  | @map n key elem kt vt es hn hkeys hvals hnull hdistinct ihk ihv =>
    intro d hd
    have hlist := not_list_of_map hn
    have hd' := marshalPrelude_ok rfl hd
    simp only [marshalSwitch, if_neg (not_mem_leafTypes_of_map hn), if_neg hlist,
      if_pos hn] at hd'
    have hes : ∀ kv ∈ es, ElemRoundTrips (marshalKey L (some key)) (unmarshalKey L (some key))
        n.proto kt kv.1 ∧ ElemRoundTrips (marshal L elem) (unmarshal L elem) n.proto vt kv.2 :=
      fun kv hkv => ⟨elemRoundTrips_of (ihk kv hkv) fun h => hnull kv hkv (by simp [h]),
        elemRoundTrips_of (ihv kv hkv) fun h => hnull kv hkv (by simp [h])⟩
    refine ⟨?_, ?_⟩
    · simp only [unmarshal, unmarshalPtr, unmarshalSwitch, if_neg (not_mem_leafTypes_of_map hn),
        if_neg hlist, if_pos hn]
      exact unmarshalMap_marshalMap hd' hes hdistinct
    · simp only [marshalMap] at hd'
      obtain ⟨size, -, h₁⟩ := bind_eq_ok hd'
      obtain ⟨body, -, h₂⟩ := bind_eq_ok h₁
      cases h₂
      rfl
  | @tuple n elems fs vals hn hne hfs hvals hg hvs hnil hsize ih =>
    intro d hd
    have hleaf := not_mem_leafTypes_of_composite (Or.inr (Or.inr (Or.inr (Or.inl hn))))
    have hd' := marshalPrelude_ok rfl hd
    simp only [marshalSwitch, if_neg hleaf, if_neg (not_list_of_tuple hn),
      if_neg (not_map_of_tuple hn), if_pos hn, marshalTuple, hfs, ne_eq, not_true_eq_false,
      if_false] at hd'
    obtain ⟨body, hbody, h₁⟩ := bind_eq_ok hd'
    cases h₁
    -- each field round-trips to non-null data, which is what the tuple loops need
    have hx : ∀ x ∈ elems.zip (fs.zip vals), TupleElemRoundTrips L x.1 x.2.1.2.2 x.2.2 := by
      intro x hx
      refine ⟨hg x hx, isNilPtr_of_isNilRef (hnil x hx), fun d hd => ?_⟩
      obtain ⟨hdec, hnone⟩ := ih x hx d hd
      rw [hnil x hx] at hnone
      obtain ⟨bs, rfl⟩ := Option.isSome_iff_exists.mp (by simpa using hnone)
      exact ⟨hdec, bs, rfl, hsize x hx bs hd⟩
    have hsome : appendedBuf body = some body := by
      obtain ⟨e, es, rfl⟩ := List.exists_cons_of_ne_nil hne
      obtain ⟨v, vs, rfl⟩ := List.exists_cons_of_length_eq_add_one hvals
      simp [appendedBuf, marshalTupleItems_ne_nil L hbody]
    have hloop := unmarshalTupleElems_marshalTupleItems L hbody hfs hvals hx []
    rw [List.append_nil] at hloop
    rw [hsome]
    refine ⟨?_, rfl⟩
    simp only [unmarshal, unmarshalPtr, unmarshalSwitch, if_neg hleaf, if_neg (not_list_of_tuple hn),
      if_neg (not_map_of_tuple hn), if_pos hn, unmarshalTuple, hfs, ne_eq, not_true_eq_false,
      if_false, hloop]
    rfl

/-- **Composite values round trip, within the protocol's sizes**: what `Marshal` writes of a
value `Encodes` admits, `Unmarshal` reads back, null exactly for a nil pointer, slice or map;
and up to protocol 2 a list of more than 65535 elements is refused, not written with its count
cut to the low bits. -/
theorem composite_roundTrip :
    (∀ {info : TypeInfo} {t : GoType κ} {v : GoVal κ ν}, Encodes L info t v →
      ∀ d, marshal L info v = .ok d → unmarshal L info d t = .ok v ∧ d.isNone = v.isNilRef) ∧
    ∀ (enc : GoVal κ ν → Except (MarshalFailure εm) GoBytes) (proto : UInt8) (e : GoType κ)
      (vs : List (GoVal κ ν)), proto ≤ protoVersion2 → maxUint16 < vs.length →
        marshalList enc proto (.slice e (some vs)) = .error .collectionTooLarge :=
  ⟨fun h => Encodes.roundTrip L h, fun enc _ e _ hp hn => marshalList_short_tooLarge enc e hp hn⟩

end Encodes

/-! ### The bigint codec -/

theorem bytesToInt64_encBigInt (x : Int64) : bytesToInt64 (encBigInt x) = x := by
  apply Int64.toInt_inj.mp
  rw [bytesToInt64, orBytes_zero, Int64.toInt_ofNat', val_encBigInt, Int64.size,
    show ((2 : Int) ^ 64) = ((18446744073709551616 : Nat) : Int) by norm_num, Int.emod_bmod]
  exact Int64.toInt_bmod_size x

/-- An `int64` round-trips through a `bigint` column. -/
theorem encodes_bigInt {n : NativeType} (hn : n.typ = .bigInt) (x : Int64) :
    Encodes bigIntLeaf (.native n) (.leaf .int64) (.leaf (.int64 x)) := by
  refine Encodes.leaf (by rw [hn]; decide) fun d hd => ?_
  simp only [bigIntLeaf, hn, if_true, marshalBigInt, Except.mapError] at hd
  cases hd
  simp only [bigIntLeaf, hn, if_true, Option.getD_some, unmarshalBigInt, unmarshalIntlike,
    decBigInt, bytesToInt64_encBigInt]
  exact ⟨rfl, rfl⟩

/-- A `list<bigint>` of two `int64`s round-trips through the composite codec. -/
theorem listBigInt_roundTrip :
    Encodes bigIntLeaf listBigInt (.slice (.leaf .int64)) (.slice (.leaf .int64) (some [.leaf (.int64 1), .leaf (.int64 2)])) ∧
      ∀ d, marshal bigIntLeaf listBigInt (.slice (.leaf .int64) (some [.leaf (.int64 1), .leaf (.int64 2)])) = .ok d →
        unmarshal bigIntLeaf listBigInt d (.slice (.leaf .int64)) =
            .ok (.slice (.leaf .int64) (some [.leaf (.int64 1), .leaf (.int64 2)])) ∧
          d.isNone = (GoVal.slice (.leaf .int64) (some [.leaf (.int64 1), .leaf (.int64 2)]) : GoVal IntDest GoValue).isNilRef :=
  have h : Encodes bigIntLeaf listBigInt (.slice (.leaf .int64))
      (.slice (.leaf .int64) (some [.leaf (.int64 1), .leaf (.int64 2)])) :=
    .list (.inl rfl)
      (fun v hv => by
        rcases List.mem_pair.mp hv with rfl | rfl
        · exact encodes_bigInt rfl 1
        · exact encodes_bigInt rfl 2)
      (fun v hv hnil => by
        rcases List.mem_pair.mp hv with rfl | rfl <;> cases hnil)
  ⟨h, (composite_roundTrip bigIntLeaf).1 h⟩

/-! ### Tuples -/

/-- A tuple of one `list<bigint>`. -/
def tupleListBigInt : TypeInfo := .tuple ⟨4, .tuple, []⟩ [listBigInt]

/-- A nil slice in a one-field tuple struct is written as an empty element, `[0, 0, 0, 0]`,
and reading it back fails for want of a count.  An `int32` round-trips through a `bigint`
column; as the field of a `tuple<bigint>` it is written, but reading it back panics in `Set`,
as the new value is the `int64` that `goType` makes. -/
theorem tuple_roundTrip_fails :
    marshal bigIntLeaf tupleListBigInt
        (.struct [(strBytes "A", [], .slice (.leaf .int64))] [.slice (.leaf .int64) none]) =
      .ok (some [0, 0, 0, 0]) ∧
    unmarshal bigIntLeaf tupleListBigInt (some [0, 0, 0, 0])
        (.struct [(strBytes "A", [], .slice (.leaf .int64))]) = .error .listEOF ∧
    marshal bigIntLeaf (.native ⟨4, .bigInt, []⟩) (.leaf (.int32 7)) =
      .ok (some [0, 0, 0, 0, 0, 0, 0, 7]) ∧
    unmarshal bigIntLeaf (.native ⟨4, .bigInt, []⟩) (some [0, 0, 0, 0, 0, 0, 0, 7])
        (.leaf .int32) = .ok (.leaf (.int32 7)) ∧
    marshal bigIntLeaf tupleBigInt (.struct [(strBytes "A", [], .leaf .int32)] [.leaf (.int32 7)]) =
      .ok (some [0, 0, 0, 8, 0, 0, 0, 0, 0, 0, 0, 7]) ∧
    unmarshal bigIntLeaf tupleBigInt (some [0, 0, 0, 8, 0, 0, 0, 0, 0, 0, 0, 7])
        (.struct [(strBytes "A", [], .leaf .int32)]) = .error (.panic .notAssignable) := by
  refine ⟨?_, ?_, ?_, ?_, ?_, ?_⟩ <;> rfl

end Gocql
