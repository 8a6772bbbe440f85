import Gocql.Marshal.Composite

/-!
# Marshal — decoding malformed data

`Unmarshal` reads counts and lengths from data that comes from the server, and a decoder should
answer malformed data with an error, never a panic.  `unmarshalMap` checks its
count and every element length against the data; `unmarshalList` checks the element lengths but
hands a negative count to `reflect.MakeSlice`, and `readBytes`, which the tuple and UDT decoders
use, slices `p[:size]` without comparing `size` with the data.

* `UnmarshalFailure.OfData`: the failures data alone can cause — the errors, and those two
  panics.
* `TypeInfo.WellFormed`: the shapes of type the frame parser builds.
* `unmarshal_goType_ofData`: into the Go type `goType` makes, `Unmarshal` of a well-formed type
  fails on any data only with an error or one of those two panics;
  `unmarshal_malformed_panics` shows each of them.
-/

namespace Gocql

open Go

/-- The failures malformed data alone can cause: the errors, a negative count given to
`MakeSlice`, and a slice `p[:size]` past the `n` bytes there are. -/
def UnmarshalFailure.OfData {ε : Type} : UnmarshalFailure ε → Prop
  | .panic .makeSliceNegativeLen => True
  | .panic (.runtime (.sliceBoundsOutOfRange _ size n)) => n < size
  | .panic _ => False
  | _ => True

/-! ### Length prefixes -/

section Sizes

variable {ε : Type}

theorem errorsIn_readCollectionSize (proto : UInt8) (data : List UInt8) :
    ErrorsIn UnmarshalFailure.OfData (readCollectionSize (ε := ε) proto data) := by
  unfold readCollectionSize
  split
  · split <;> trivial
  · split <;> trivial

theorem errorsIn_readCollectionElem (proto : UInt8) (eof : UnmarshalFailure ε)
    (heof : eof.OfData) (data : List UInt8) :
    ErrorsIn UnmarshalFailure.OfData (readCollectionElem proto eof data) := by
  unfold readCollectionElem
  refine (errorsIn_readCollectionSize proto data).bind fun ⟨m, p⟩ _ => ?_
  dsimp only
  split
  · split
    · exact heof
    · trivial
  · trivial

/-- `readBytes` with its four bytes of size there panics only past the end of the data. -/
theorem errorsIn_readBytes {p : List UInt8} (h : 4 ≤ p.length) :
    ErrorsIn UnmarshalFailure.OfData (Marshal.readBytes (ε := ε) p) := by
  unfold Marshal.readBytes
  rw [if_neg (Nat.not_lt.mpr h)]
  dsimp only
  split
  · trivial
  · split
    · rename_i hlt
      exact hlt
    · trivial

theorem errorsIn_readTupleElem (data : GoBytes) :
    ErrorsIn UnmarshalFailure.OfData (readTupleElem (ε := ε) data) := by
  cases data with
  | none => trivial
  | some d =>
    simp only [readTupleElem]
    split
    · rename_i h4
      exact (errorsIn_readBytes h4).bind fun _ _ => trivial
    · trivial
end Sizes

/-! ### The decoders -/

section Codec

variable {κ ν εm εu : Type} (L : LeafCodec κ ν εm εu)

theorem errorsIn_unmarshalLeaf (n : NativeType) (data : GoBytes) (t : GoType κ) :
    ErrorsIn UnmarshalFailure.OfData (unmarshalLeaf L n data t) := by
  cases t with
  | leaf k =>
    simp only [unmarshalLeaf]
    split <;> trivial
  | _ => trivial

theorem errorsIn_unmarshalListElems
    {dec : GoBytes → GoType κ → Except (UnmarshalFailure εu) (GoVal κ ν)} {proto : UInt8}
    {e : GoType κ} (hdec : ∀ d, ErrorsIn UnmarshalFailure.OfData (dec d e)) :
    ∀ (n : Nat) (data : List UInt8),
      ErrorsIn UnmarshalFailure.OfData (unmarshalListElems dec proto e n data)
  | 0, _ => trivial
  | n + 1, data => by
    simp only [unmarshalListElems]
    refine (errorsIn_readCollectionElem proto .listEOF trivial data).bind fun ⟨d, rest⟩ _ => ?_
    refine (hdec d).bind fun _ _ => ?_
    exact (errorsIn_unmarshalListElems hdec n rest).bind fun _ _ => trivial

theorem errorsIn_unmarshalList
    {dec : GoBytes → GoType κ → Except (UnmarshalFailure εu) (GoVal κ ν)} {proto : UInt8}
    {e : GoType κ} (hdec : ∀ d, ErrorsIn UnmarshalFailure.OfData (dec d e)) (data : GoBytes) :
    ErrorsIn UnmarshalFailure.OfData (unmarshalList dec proto data (.slice e)) := by
  cases data with
  | none => trivial
  | some data =>
    simp only [unmarshalList]
    refine (errorsIn_readCollectionSize proto data).bind fun ⟨n, p⟩ _ => ?_
    dsimp only
    split
    · trivial
    · exact (errorsIn_unmarshalListElems hdec _ _).bind fun _ _ => trivial

theorem errorsIn_goTypeNative (n : NativeType) :
    ErrorsIn (@UnmarshalFailure.OfData εu) (goTypeNative L n) := by
  unfold goTypeNative
  split <;> trivial

/-- The native codecs have Go types only for native type codes. -/
def LeafCodec.NativeOnly : Prop :=
  ∀ c k, L.goType c = some k → c ∈ leafTypes

/-- The shapes of `TypeInfo` the frame parser builds: a native type of no composite code, a
list or set without a key type, a map with one, and tuples and UDTs under their own codes. -/
inductive TypeInfo.WellFormed : TypeInfo → Prop
  | native {n : NativeType} :
      n.typ ∉ [CqlType.list, .set, .map, .tuple, .udt] → WellFormed (.native n)
  | list {n : NativeType} {elem : TypeInfo} :
      n.typ = .list ∨ n.typ = .set → WellFormed elem → WellFormed (.collection n none elem)
  | map {n : NativeType} {key elem : TypeInfo} :
      n.typ = .map → WellFormed key → WellFormed elem → WellFormed (.collection n (some key) elem)
  | tuple {n : NativeType} {elems : List TypeInfo} :
      n.typ = .tuple → (∀ e ∈ elems, WellFormed e) → WellFormed (.tuple n elems)
  | udt {n : NativeType} {keyspace name : List UInt8} {elements : List (List UInt8 × TypeInfo)} :
      n.typ = .udt → (∀ f ∈ elements, WellFormed f.2) → WellFormed (.udt n keyspace name elements)

/-- `goType` of a well-formed type fails only with an error. -/
theorem errorsIn_goType {info : TypeInfo} (hw : info.WellFormed) :
    ErrorsIn (@UnmarshalFailure.OfData εu) (goType L info) := by
  induction hw with
  | native _ => exact errorsIn_goTypeNative L _
  | list hn _ ih =>
    simp only [goType, if_pos hn]
    exact ih.bind fun _ _ => trivial
  | map hn _ _ ihk ihe =>
    have hl : ¬ (CqlType.map = .list ∨ CqlType.map = .set) := by decide
    simp only [goType, hn, if_neg hl, if_true]
    exact ihk.bind fun _ _ => ihe.bind fun _ _ => trivial
  | tuple hn _ _ => simp only [goType, hn, if_true]; trivial
  | udt hn _ _ => simp only [goType, hn, if_true]; trivial

variable [DecidableEq κ] [DecidableEq ν]

theorem errorsIn_unmarshalMapEntries
    {decKey decElem : GoBytes → GoType κ → Except (UnmarshalFailure εu) (GoVal κ ν)}
    {proto : UInt8} {kt vt : GoType κ}
    (hkey : ∀ d, ErrorsIn UnmarshalFailure.OfData (decKey d kt))
    (helem : ∀ d, ErrorsIn UnmarshalFailure.OfData (decElem d vt)) :
    ∀ (n : Nat) (data : List UInt8) (m : List (GoVal κ ν × GoVal κ ν)),
      ErrorsIn UnmarshalFailure.OfData (unmarshalMapEntries decKey decElem proto kt vt n data m)
  | 0, _, _ => trivial
  | n + 1, data, m => by
    simp only [unmarshalMapEntries]
    refine (errorsIn_readCollectionElem proto .mapEOF trivial data).bind fun ⟨kd, rest⟩ _ => ?_
    refine (hkey kd).bind fun k _ => ?_
    refine (errorsIn_readCollectionElem proto .mapEOF trivial rest).bind fun ⟨vd, rest'⟩ _ => ?_
    refine (helem vd).bind fun v _ => ?_
    exact errorsIn_unmarshalMapEntries hkey helem n rest' _

theorem errorsIn_unmarshalMap
    {decKey decElem : GoBytes → GoType κ → Except (UnmarshalFailure εu) (GoVal κ ν)}
    {proto : UInt8} {kt vt : GoType κ}
    (hkey : ∀ d, ErrorsIn UnmarshalFailure.OfData (decKey d kt))
    (helem : ∀ d, ErrorsIn UnmarshalFailure.OfData (decElem d vt)) (data : GoBytes) :
    ErrorsIn UnmarshalFailure.OfData (unmarshalMap decKey decElem proto data (.map kt vt)) := by
  cases data with
  | none => trivial
  | some data =>
    simp only [unmarshalMap]
    refine (errorsIn_readCollectionSize proto data).bind fun ⟨n, p⟩ _ => ?_
    dsimp only
    split
    · trivial
    · exact (errorsIn_unmarshalMapEntries hkey helem _ _ _).bind fun _ _ => trivial

omit [DecidableEq ν] in
/-- A tuple element stored into an `interface{}` slot is stored as it is. -/
theorem storeTupleElem_iface (g : GoType κ) (p : GoBytes) (v : GoVal κ ν) :
    (storeTupleElem .iface g p v : Except (UnmarshalFailure εu) (GoVal κ ν)) = .ok v := by
  simp [storeTupleElem, GoType.assignable, GoType.beq_self]

/-- What the induction over a well-formed type carries for each element type. -/
def DecodesFromData (e : TypeInfo) : Prop :=
  e.WellFormed ∧ ∀ {g : GoType κ} (d : GoBytes), goType L e = .ok g →
    ErrorsIn (@UnmarshalFailure.OfData εu) (unmarshal L e d g)

theorem errorsIn_unmarshalTupleElems :
    ∀ (es : List TypeInfo), (∀ e ∈ es, DecodesFromData L e) → ∀ (k : Nat) (data : GoBytes),
      ErrorsIn UnmarshalFailure.OfData
        (unmarshalTupleElems L es (List.replicate k .iface) data)
  | [], _, _, _ => trivial
  | _ :: _, _, 0, _ => trivial
  | e :: es, hes, k + 1, data => by
    obtain ⟨hw, hdec⟩ := hes e List.mem_cons_self
    simp only [unmarshalTupleElems, List.replicate_succ]
    refine (errorsIn_readTupleElem data).bind fun ⟨p, rest⟩ _ => ?_
    refine (errorsIn_goType L hw).bind fun g hg => ?_
    refine (hdec p hg).bind fun v _ => ?_
    rw [storeTupleElem_iface]
    exact (errorsIn_unmarshalTupleElems es (fun e' h' => hes e' (List.mem_cons_of_mem e h'))
      k rest).bind fun _ _ => trivial

theorem errorsIn_unmarshalUDTMap :
    ∀ (fs : List (List UInt8 × TypeInfo)), (∀ f ∈ fs, DecodesFromData L f.2) →
      ∀ (id : Nat) (data : GoBytes) (m : List (GoVal κ ν × GoVal κ ν)),
        ErrorsIn UnmarshalFailure.OfData (unmarshalUDTMap L fs id data m)
  | [], _, _, _, _ => trivial
  | (name, e) :: fs, hfs, id, data, m => by
    obtain ⟨-, hdec⟩ := hfs (name, e) List.mem_cons_self
    simp only [unmarshalUDTMap]
    split
    · trivial
    · split
      · trivial
      · rename_i _ hshort
        split
        · trivial
        · rename_i g hg
          refine (errorsIn_readBytes (Nat.not_lt.mp hshort)).bind fun ⟨p, rest⟩ _ => ?_
          refine (hdec p hg).bind fun v _ => ?_
          exact errorsIn_unmarshalUDTMap fs (fun f h => hfs f (List.mem_cons_of_mem _ h)) _ _ _

theorem not_mem_leafTypes_of_composite {c : CqlType}
    (h : c = .list ∨ c = .set ∨ c = .map ∨ c = .tuple ∨ c = .udt) : c ∉ leafTypes := by
  rcases h with rfl | rfl | rfl | rfl | rfl <;> decide

/-- **`Unmarshal` into the Go type of a well-formed CQL type panics on no data but for the two
unchecked lengths**: a negative list count, given to `MakeSlice`, and a `[bytes]` size past the
end of a tuple's or UDT's data. -/
theorem unmarshal_goType_ofData (hL : L.NativeOnly) {info : TypeInfo} (hw : info.WellFormed) :
    DecodesFromData L info := by
  refine ⟨hw, ?_⟩
  induction hw with
  | native hn =>
    intro t data h
    simp only [goType, goTypeNative] at h
    split at h
    · rename_i k hk
      cases h
      simp only [unmarshal, unmarshalPtr, unmarshalSwitch]
      rw [if_pos (hL _ _ hk)]
      exact errorsIn_unmarshalLeaf L _ _ _
    · cases h
  | @list n elem hn _ ih =>
    intro t data h
    simp only [goType, if_pos hn] at h
    obtain ⟨e, he, hpure⟩ := bind_eq_ok h
    cases hpure
    have hleaf : n.typ ∉ leafTypes :=
      not_mem_leafTypes_of_composite (hn.elim Or.inl (fun h => Or.inr (Or.inl h)))
    simp only [unmarshal, unmarshalPtr, unmarshalSwitch]
    rw [if_neg hleaf, if_pos hn]
    exact errorsIn_unmarshalList (fun d => ih d he) data
  | @map n key elem hn _ _ ihk ihe =>
    intro t data h
    have hl : ¬ (n.typ = .list ∨ n.typ = .set) := by rw [hn]; decide
    simp only [goType, hn, if_true, goTypeKey] at h
    obtain ⟨k, hk, h'⟩ := bind_eq_ok h
    obtain ⟨e, he, hpure⟩ := bind_eq_ok h'
    cases hpure
    simp only [unmarshal, unmarshalPtr, unmarshalSwitch]
    rw [if_neg (not_mem_leafTypes_of_composite (by simp [hn])), if_neg hl,
      if_pos hn]
    exact errorsIn_unmarshalMap (fun d => ihk d hk) (fun d => ihe d he) data
  | @tuple n elems hn hws ih =>
    intro t data h
    simp only [goType, hn, if_true] at h
    cases h
    have hl : ¬ (n.typ = .list ∨ n.typ = .set) := by rw [hn]; decide
    have hm : n.typ ≠ .map := by rw [hn]; decide
    simp only [unmarshal, unmarshalPtr, unmarshalSwitch]
    rw [if_neg (not_mem_leafTypes_of_composite (by simp [hn])), if_neg hl,
      if_neg hm, if_pos hn]
    exact (errorsIn_unmarshalTupleElems L elems (fun e he => ⟨hws e he, ih e he⟩) _ data).bind
      fun _ _ => trivial
  | @udt n keyspace name elements hn hws ih =>
    intro t data h
    simp only [goType, hn, if_true] at h
    cases h
    have hl : ¬ (n.typ = .list ∨ n.typ = .set) := by rw [hn]; decide
    have hm : n.typ ≠ .map := by rw [hn]; decide
    have ht : n.typ ≠ .tuple := by rw [hn]; decide
    simp only [unmarshal, unmarshalPtr, unmarshalSwitch]
    rw [if_neg (not_mem_leafTypes_of_composite (by simp [hn])), if_neg hl,
      if_neg hm, if_neg ht, if_pos hn]
    simp only [unmarshalUDT, GoType.beq_self, if_true]
    cases data with
    | none => trivial
    | some d =>
      exact (errorsIn_unmarshalUDTMap L elements (fun f hf => ⟨hws f hf, ih f hf⟩) 0 _ _).bind
        fun _ _ => trivial
end Codec

/-! ### Malformed data -/

/-- `list<bigint>`, `tuple<bigint>` and a UDT with one `bigint` field `x`, of protocol 4. -/
def listBigInt : TypeInfo := .collection ⟨4, .list, []⟩ none (.native ⟨4, .bigInt, []⟩)
def tupleBigInt : TypeInfo := .tuple ⟨4, .tuple, []⟩ [.native ⟨4, .bigInt, []⟩]
def udtBigInt : TypeInfo :=
  .udt ⟨4, .udt, []⟩ (strBytes "ks") (strBytes "point") [(strBytes "x", .native ⟨4, .bigInt, []⟩)]

theorem unmarshal_malformed_panics :
    unmarshal bigIntLeaf listBigInt (some [0xFF, 0xFF, 0xFF, 0xFF]) (.slice (.leaf .int64)) =
        .error (.panic .makeSliceNegativeLen) ∧
      unmarshal bigIntLeaf tupleBigInt (some [0, 0, 0, 8, 1])
          (.struct [(strBytes "X", [], .leaf .int64)]) =
        .error (.panic (.runtime (.sliceBoundsOutOfRange 0 8 1))) ∧
      unmarshal bigIntLeaf udtBigInt (some [0, 0, 0, 8, 1])
          (.struct [(strBytes "X", strBytes "x", .leaf .int64)]) =
        .error (.panic (.runtime (.sliceBoundsOutOfRange 0 8 1))) := by
  refine ⟨?_, ?_, ?_⟩ <;> rfl

/-- With the `bigint` codec, `Unmarshal` of the UDT panics on no data but for the unchecked
size. -/
theorem unmarshal_udtBigInt_ofData :
    bigIntLeaf.NativeOnly ∧ udtBigInt.WellFormed ∧ DecodesFromData bigIntLeaf udtBigInt := by
  have hL : bigIntLeaf.NativeOnly := by
    intro c k h
    by_cases hc : c = .bigInt
    · subst hc
      decide
    · simp [bigIntLeaf, hc] at h
  have hw : udtBigInt.WellFormed := by
    refine .udt rfl fun f hf => ?_
    simp only [List.mem_cons, List.mem_nil_iff, or_false] at hf
    rw [hf]
    exact .native (by decide)
  exact ⟨hL, hw, unmarshal_goType_ofData bigIntLeaf hL hw⟩

end Gocql
