import Gocql.Frame.Parse
import Gocql.Marshal.RoundTrip

/-!
# Session — scanning a row into its destinations

A row of a result is a `[bytes]` for each column.  `Iter.Scan(dest...)` reads the columns from
the frame one at a time and unmarshals each into the destinations `dest`; the `Scanner` of an
`Iter` reads the whole row into `is.cols` in `Next`, and unmarshals from there in `Scan`.  A
tuple column is unmarshalled into as many destinations as it has elements, so `dest` has
`actualColCount` entries, and a cursor `i` into `dest` moves on by what `scanColumn` returns.

* `scanColumn`: one column into `dest[i:]`; a nil first destination takes one, whatever the
  column's width.
* `Iter.scan` (`Iter.Scan`), `IterScanner.next` and `IterScanner.scan` (`Next` and `Scan` of the
  scanner), with `iterScanColumns`, `scannerReadCols` and `scannerScanColumns` their loops.
* `scanLoop`: the loop over the columns on a row read beforehand, the cursor moved on by what
  `scanColumn` took (`codeStep`), or by the column's width (`widthStep`): the scan by widths,
  column `k` into `dest[off_k:off_k+w_k]` with `off_k` the widths before it.

`iterScanner.Scan` reads `is.cols[i]` with `i` the cursor in `dest`, not the column's index, so
a tuple column wider than one shifts the columns after it; and a nil first destination of a
wider tuple leaves the rest of its destinations to the next column.  `iterScan_rowBytes` and
`scannerScan_rowBytes` give when each path is the scan by widths; `iterScan_paths` states what
the two paths and the scan by widths do on a row.
-/

namespace Gocql

open Go

/-! ### Scan failures and what a scan stores -/

/-- The errors of a scan, each a message of the source, and the panics of its loops, which
nothing recovers, as the codecs' panics. -/
inductive ScanFailure (ε : Type) where
  /-- `gocql: Scan called without calling Next` -/
  | scanWithoutNext
  /-- `gocql: not enough columns to scan into: have %d want %d` -/
  | notEnoughColumns (got want : Int)
  /-- the error of `readColumn` -/
  | readColumn (e : FrameError)
  /-- the error of `Unmarshal` -/
  | unmarshal (e : UnmarshalFailure ε)
  /-- the failed assertion `col.TypeInfo.(TupleTypeInfo)` -/
  | typeAssertion
  /-- `dest[0]`, `dest[i:]`, `dest[:count]` or `is.cols[i]` out of range -/
  | runtime (r : RuntimeError)
  deriving DecidableEq, Repr

/-- What a scan stored: for each `Unmarshal` into a destination that returned, the index of the
destination in `dest` and the value stored, in order. -/
abbrev Stores (κ ν : Type) := List (Nat × GoVal κ ν)

/-- Stores into `dest[i:]`, as stores into `dest`. -/
def shiftStores {κ ν : Type} (i : Nat) (s : Stores κ ν) : Stores κ ν :=
  s.map fun jv => (i + jv.1, jv.2)

/-- The destinations a column is scanned into, as `readCol` counts them into `actualColCount`:
a tuple's elements, one otherwise. -/
def ColumnInfo.width (col : ColumnInfo) : Nat :=
  match col.typeInfo with
  | .tuple _ elems => elems.length
  | _ => 1

/-- The first destination is nil: `dest[0] == nil`. -/
def firstNil {κ : Type} : List (Option (GoType κ)) → Bool
  | none :: _ => true
  | _ => false

/-- A row as the server writes it: a `[bytes]` for each column. -/
def rowBytes (ps : List GoBytes) : List UInt8 := ps.flatMap (appendBytes [])

section Scan

variable {κ ν εm εu : Type} [DecidableEq κ] [DecidableEq ν] (L : LeafCodec κ ν εm εu)

/-! ### One column -/

/-- `scanColumn(p, col, dest)`: the destinations it took, what it stored, and its error.  A nil
first destination skips the column, taking one; a tuple is unmarshalled into `dest[:count]`
and takes `count`, anything else into `dest[0]`. -/
def scanColumn (p : GoBytes) (col : ColumnInfo) :
    List (Option (GoType κ)) → Nat × Stores κ ν × Option (ScanFailure εu)
  | [] => (0, [], some (.runtime (.indexOutOfRange 0 0)))
  | none :: _ => (1, [], none)
  | some t :: rest =>
    if col.typeInfo.type = .tuple then
      match col.typeInfo with
      | .tuple _ elems =>
        -- `dest[:count]`, within the capacity of `dest`, taken to be its length
        if rest.length + 1 < elems.length then
          (0, [], some (.runtime (.sliceBoundsOutOfRange 0 elems.length (rest.length + 1))))
        else
          let r := unmarshalIfaces L col.typeInfo p ((some t :: rest).take elems.length)
          match r.2 with
          | some e => (0, r.1, some (.unmarshal e))
          | none => (elems.length, r.1, none)
      | _ => (0, [], some .typeAssertion)
    else
      match unmarshal L col.typeInfo p t with
      | .ok v => (1, [(0, v)], none)
      | .error e => (0, [], some (.unmarshal e))

/-- The call `scanColumn(p, col, dest[i:])` of both loops, its stores indexed in `dest`. -/
def scanColumnAt (p : GoBytes) (col : ColumnInfo) (dest : List (Option (GoType κ))) (i : Nat) :
    Nat × Stores κ ν × Option (ScanFailure εu) :=
  if dest.length < i then
    (0, [], some (.runtime (.sliceBoundsOutOfRange i dest.length dest.length)))
  else
    let r := scanColumn L p col (dest.drop i)
    (r.1, shiftStores i r.2.1, r.2.2)

/-! ### `Iter.Scan` -/

/-- The fields of an `Iter` a scan reads and sets, with no page after this one (`iter.next` is
nil): its error, the row it is at, the rows of the page, and the result's metadata. -/
structure Iter (ε : Type) where
  err : Option (ScanFailure ε)
  pos : Int
  numRows : Int
  metadata : ResultMetadata

/-- The loop of `Iter.Scan`: each column read from the frame (`iter.readColumn()`, which is
`readBytesInternal`), then scanned into `dest[i:]`, and `i` moved on by what it took.  What was
stored, and the error that ended the loop. -/
def iterScanColumns (dest : List (Option (GoType κ))) :
    List ColumnInfo → Nat → Framer (Stores κ ν × Option (ScanFailure εu))
  | [], _ => pure ([], none)
  | col :: cols, i => do
    match ← readBytesInternal with
    | .error e => pure ([], some (.readColumn e))
    | .ok colBytes =>
      let c := scanColumnAt L colBytes col dest i
      match c.2.2 with
      | some e => pure (c.2.1, some e)
      | none => do
        let r ← iterScanColumns dest cols (i + c.1)
        pure (c.2.1 ++ r.1, r.2)

/-- `Iter.Scan(dest...)`: whether a row was scanned, the iterator after, and what was stored. -/
def Iter.scan (iter : Iter εu) (dest : List (Option (GoType κ))) :
    Framer (Bool × Iter εu × Stores κ ν) :=
  if iter.err.isSome then pure (false, iter, [])
  else if iter.numRows ≤ iter.pos then pure (false, iter, [])
  else if (dest.length : Int) ≠ iter.metadata.actualColCount then
    pure (false,
      { iter with err := some (.notEnoughColumns dest.length iter.metadata.actualColCount) }, [])
  else do
    let r ← iterScanColumns L dest iter.metadata.columns 0
    match r.2 with
    | some e => pure (false, { iter with err := some e }, r.1)
    | none => pure (true, { iter with pos := iter.pos + 1 }, r.1)

/-! ### The scanner -/

/-- `iterScanner`: the iterator, the bytes of the row's columns, and whether a row was read. -/
structure IterScanner (ε : Type) where
  iter : Iter ε
  cols : List GoBytes
  valid : Bool

/-- `iter.Scanner()`: a nil slice for each column, and no row. -/
def Iter.scanner (iter : Iter εu) : IterScanner εu :=
  ⟨iter, List.replicate iter.metadata.columns.length none, false⟩

/-- The loop of `iterScanner.Next`: `is.cols[i]` read in turn; at an error the columns from it
on keep what they held. -/
def scannerReadCols : List GoBytes → Framer (List GoBytes × Option FrameError)
  | [] => pure ([], none)
  | old :: olds => do
    match ← readBytesInternal with
    | .error e => pure (old :: olds, some e)
    | .ok col => do
      let r ← scannerReadCols olds
      pure (col :: r.1, r.2)

/-- `iterScanner.Next()`: whether a row was read, and the scanner after. -/
def IterScanner.next (s : IterScanner εu) : Framer (Bool × IterScanner εu) :=
  if s.iter.err.isSome then pure (false, s)
  else if s.iter.numRows ≤ s.iter.pos then pure (false, s)
  else do
    let r ← scannerReadCols s.cols
    match r.2 with
    | some e => pure (false, { s with iter := { s.iter with err := some (.readColumn e) }, cols := r.1 })
    | none => pure (true, ⟨{ s.iter with pos := s.iter.pos + 1 }, r.1, true⟩)

/-- The loop of `iterScanner.Scan`: column by column, scanned from `is.cols[i]` into `dest[i:]`,
with `i` the cursor in `dest`. -/
def scannerScanColumns (cols : List GoBytes) (dest : List (Option (GoType κ))) :
    List ColumnInfo → Nat → Stores κ ν × Option (ScanFailure εu)
  | [], _ => ([], none)
  | col :: cs, i =>
    match cols[i]? with
    | none => ([], some (.runtime (.indexOutOfRange i cols.length)))
    | some p =>
      let c := scanColumnAt L p col dest i
      match c.2.2 with
      | some e => (c.2.1, some e)
      | none =>
        let r := scannerScanColumns cols dest cs (i + c.1)
        (c.2.1 ++ r.1, r.2)

/-- `iterScanner.Scan(dest...)`: what was stored, the error, and the scanner after. -/
def IterScanner.scan (s : IterScanner εu) (dest : List (Option (GoType κ))) :
    Stores κ ν × Option (ScanFailure εu) × IterScanner εu :=
  if !s.valid then ([], some .scanWithoutNext, s)
  else if (dest.length : Int) ≠ s.iter.metadata.actualColCount then
    -- returned before `is.valid = false`: the row stays valid
    ([], some (.notEnoughColumns dest.length s.iter.metadata.actualColCount), s)
  else
    let r := scannerScanColumns L s.cols dest s.iter.metadata.columns 0
    (r.1, r.2, { s with valid := false })

/-! ### The loop on a row read beforehand -/

/-- The loop of both scans on the bytes of the columns read beforehand: column by column into
`dest[i:]`, the cursor moved on by `step col n`, `n` what `scanColumn` took. -/
def scanLoop (step : ColumnInfo → Nat → Nat) (dest : List (Option (GoType κ))) :
    List (ColumnInfo × GoBytes) → Nat → Stores κ ν × Option (ScanFailure εu)
  | [], _ => ([], none)
  | (col, p) :: cs, i =>
    let c := scanColumnAt L p col dest i
    match c.2.2 with
    | some e => (c.2.1, some e)
    | none =>
      let r := scanLoop step dest cs (i + step col c.1)
      (c.2.1 ++ r.1, r.2)

end Scan

/-- The code's cursor: on by what `scanColumn` took. -/
def codeStep (_ : ColumnInfo) (n : Nat) : Nat := n

/-- The cursor of the scan by widths: on by the column's width, whatever it took. -/
def widthStep (col : ColumnInfo) (_ : Nat) : Nat := col.width

/-- Every column whose first destination is nil is one wide, so that skipping it skips its
width: from `off`, column by column, moved on by the widths. -/
def skipsAligned {κ : Type} (dest : List (Option (GoType κ))) : List ColumnInfo → Nat → Bool
  | [], _ => true
  | col :: cs, off =>
    (!firstNil (dest.drop off) || col.width == 1) && skipsAligned dest cs (off + col.width)


/-! ### Reading a row -/

/-- A `[bytes]` whose length is an `int32` reads back with `readBytesInternal`. -/
theorem readBytesInternal_appendBytes {p : GoBytes} (hp : ((p.getD []).length : Int) ≤ maxInt32)
    (rest : List UInt8) : readBytesInternal (appendBytes [] p ++ rest) = .ok (.ok p, rest) := by
  cases p with
  | none =>
    have hbuf : appendBytes [] none ++ rest = 255 :: 255 :: 255 :: 255 :: rest := rfl
    rw [hbuf, readBytesInternal, Prog.bind_apply_of_ok (readInt_cons _ _ _ _ rest)]
    rfl
  | some d =>
    obtain ⟨b₀, b₁, b₂, b₃, hb⟩ : ∃ b₀ b₁ b₂ b₃, appendInt [] d.length = [b₀, b₁, b₂, b₃] :=
      ⟨_, _, _, _, rfl⟩
    have hsize : BigEndian.sval [b₀, b₁, b₂, b₃] = d.length :=
      hb ▸ sval_appendInt (by omega) hp
    have hbuf : appendBytes [] (some d) ++ rest = b₀ :: b₁ :: b₂ :: b₃ :: (d ++ rest) := by
      simp [appendBytes, hb]
    have h₀ : ¬ ((d.length : Int) < 0) := by omega
    have h₁ : ¬ (((d ++ rest).length : Int) < d.length) := by simp
    rw [hbuf, readBytesInternal, Prog.bind_apply_of_ok (readInt_cons _ _ _ _ _), hsize]
    have h₂ : (d.length : Int) ≤ (d ++ rest).length := by simp
    simp only [h₀, if_false, Prog.get_bind, h₁, slice_zero (Int.natCast_nonneg _) h₂,
      Prog.lift_ok_bind, slice_length (Int.natCast_nonneg _) h₂, Prog.set_bind]
    simp

theorem rowBytes_cons_append (p : GoBytes) (ps : List GoBytes) (rest : List UInt8) :
    rowBytes (p :: ps) ++ rest = appendBytes [] p ++ (rowBytes ps ++ rest) := by
  simp [rowBytes]

/-! ### What the metadata counts -/

/-- `readCol` adds a column's width less one to `actualColCount`. -/
theorem readCol_actualColCount {proto : UInt8} {globalSpec : Bool} {keyspace table : List UInt8}
    {a a' : Int} {col : ColumnInfo} {buf buf' : List UInt8}
    (h : readCol proto globalSpec keyspace table a buf = .ok ((col, a'), buf')) :
    a' = a + col.width - 1 := by
  unfold readCol at h
  obtain ⟨⟨ks, tbl⟩, s₁, -, h⟩ := Prog.bind_eq_ok h
  obtain ⟨name, s₂, -, h⟩ := Prog.bind_eq_ok h
  obtain ⟨b, s₃, -, h⟩ := Prog.bind_eq_ok h
  obtain ⟨info, s₄, -, h⟩ := Prog.bind_eq_ok h
  -- the last step returns the column it read and the count
  simp only [Prog.pure_apply, Outcome.ok.injEq, Prod.mk.injEq] at h
  obtain ⟨⟨rfl, rfl⟩, -⟩ := h
  cases info <;> simp [ColumnInfo.width]

/-- The column loop reads `n` columns and adds their widths less one each. -/
theorem readCols_actualColCount {proto : UInt8} {globalSpec : Bool} {keyspace table : List UInt8} :
    ∀ (n : Nat) {a a' : Int} {cols : List ColumnInfo} {buf buf' : List UInt8},
      readCols proto globalSpec keyspace table n a buf = .ok ((cols, a'), buf') →
      cols.length = n ∧ a' = a + ((cols.map ColumnInfo.width).sum : Nat) - cols.length := by
  intro n
  induction n with
  | zero =>
    intro a a' cols buf buf' h
    simp only [readCols, Prog.pure_apply, Outcome.ok.injEq, Prod.mk.injEq] at h
    obtain ⟨⟨rfl, rfl⟩, -⟩ := h
    simp
  | succ n ih =>
    intro a a' cols buf buf' h
    unfold readCols at h
    obtain ⟨⟨col, a₁⟩, s₁, hcol, h⟩ := Prog.bind_eq_ok h
    obtain ⟨⟨cs, a₂⟩, s₂, hcols, h⟩ := Prog.bind_eq_ok h
    simp only [Prog.pure_apply, Outcome.ok.injEq, Prod.mk.injEq] at h
    obtain ⟨⟨rfl, rfl⟩, -⟩ := h
    -- the first column's count, then the rest's
    have h₁ := readCol_actualColCount hcol
    obtain ⟨hlen, h₂⟩ := ih hcols
    refine ⟨by simp [hlen], ?_⟩
    simp only [List.map_cons, List.sum_cons, List.length_cons, h₂, h₁]
    push_cast
    ring

/-- The request metadata of a prepared statement counts, in `actualColCount`, the columns'
widths in place of the columns. -/
theorem parsePreparedMetadata_actualColCount {proto : UInt8} {buf buf' : List UInt8}
    {m : PreparedMetadata} (h : parsePreparedMetadata proto buf = .ok (m, buf')) :
    m.result.actualColCount =
      m.result.colCount + ((m.result.columns.map ColumnInfo.width).sum : Nat) -
        m.result.columns.length := by
  unfold parsePreparedMetadata at h
  obtain ⟨flags, s₁, -, h⟩ := Prog.bind_eq_ok h
  obtain ⟨colCount, s₂, -, h⟩ := Prog.bind_eq_ok h
  obtain ⟨_, s₃, -, h⟩ := Prog.bind_eq_ok h
  obtain ⟨pkey, s₄, -, h⟩ := Prog.bind_eq_ok h
  obtain ⟨paging, s₅, -, h⟩ := Prog.bind_eq_ok h
  split at h
  · -- no metadata: no columns, and the count as sent
    simp only [Prog.pure_apply, Outcome.ok.injEq, Prod.mk.injEq] at h
    obtain ⟨rfl, -⟩ := h
    simp
  · obtain ⟨⟨ks, tbl⟩, s₆, -, h⟩ := Prog.bind_eq_ok h
    obtain ⟨⟨cols, a⟩, s₇, hcols, h⟩ := Prog.bind_eq_ok h
    simp only [Prog.pure_apply, Outcome.ok.injEq, Prod.mk.injEq] at h
    obtain ⟨rfl, -⟩ := h
    exact (readCols_actualColCount _ hcols).2

section Lemmas

variable {κ ν εm εu : Type} [DecidableEq κ] [DecidableEq ν] (L : LeafCodec κ ν εm εu)

/-! ### The destinations a column takes -/

/-- A column of a well-formed type that is not a tuple by its type code is one wide. -/
theorem width_of_type_ne_tuple {col : ColumnInfo} (hw : col.typeInfo.WellFormed)
    (h : col.typeInfo.type ≠ .tuple) : col.width = 1 := by
  obtain ⟨ks, tbl, name, info⟩ := col
  cases hw with
  | tuple hn _ => exact absurd hn h
  | native _ | list _ _ | map _ _ _ | udt _ _ => rfl

/-- What `scanColumn` takes when it returns no error: one at a nil first destination, the
column's width otherwise. -/
theorem scanColumn_width {p : GoBytes} {col : ColumnInfo} {d : List (Option (GoType κ))}
    {n : Nat} {s : Stores κ ν} (hw : col.typeInfo.WellFormed)
    (h : scanColumn L p col d = (n, s, none)) :
    n = if firstNil d then 1 else col.width := by
  match d, h with
  | [], h => simp [scanColumn] at h
  | none :: _, h =>
    simp only [scanColumn, Prod.mk.injEq] at h
    simp [firstNil, ← h.1]
  | some t :: d', h =>
    simp only [firstNil, Bool.false_eq_true, if_false]
    simp only [scanColumn] at h
    split at h
    · -- a tuple by its type code: `count` destinations, or an error
      split at h
      · rename_i elems htuple
        split at h
        · simp at h
        · split at h
          · simp at h
          · simp only [Prod.mk.injEq] at h
            rw [← h.1, ColumnInfo.width, htuple]
      · simp at h
    · rename_i hne
      split at h
      · simp only [Prod.mk.injEq] at h
        rw [← h.1, width_of_type_ne_tuple hw hne]
      · simp at h

theorem scanColumnAt_width {p : GoBytes} {col : ColumnInfo} {dest : List (Option (GoType κ))}
    {i n : Nat} {s : Stores κ ν} (hw : col.typeInfo.WellFormed)
    (h : scanColumnAt L p col dest i = (n, s, none)) :
    n = if firstNil (dest.drop i) then 1 else col.width := by
  unfold scanColumnAt at h
  split at h
  · simp at h
  · rcases hc : scanColumn L p col (dest.drop i) with ⟨n', s', e'⟩
    simp only [hc, Prod.mk.injEq] at h
    obtain ⟨rfl, -, rfl⟩ := h
    exact scanColumn_width L hw hc

/-! ### Where a column stores -/

/-- The tuple loop stores into `v[i:]`, at one index for each element. -/
theorem unmarshalTupleTargets_index :
    ∀ (es : List TypeInfo) (ts : List (Option (GoType κ))) (data : GoBytes) (i len : Nat),
      ∀ jv ∈ (unmarshalTupleTargets L es ts data i len : Stores κ ν × _).1,
        i ≤ jv.1 ∧ jv.1 < i + es.length := by
  intro es
  induction es with
  | nil => intro _ _ _ _ jv hjv; simp [unmarshalTupleTargets] at hjv
  | cons e es ih =>
    intro ts data i len jv hjv
    simp only [unmarshalTupleTargets] at hjv
    split at hjv
    · simp at hjv
    · split at hjv
      · simp at hjv
      · simp at hjv
      · split at hjv
        · simp at hjv
        · -- the element stored at `i`, and the rest after it
          rcases List.mem_cons.mp hjv with rfl | hmem
          · simp
          · have := ih _ _ _ _ jv hmem
            simp only [List.length_cons]
            omega

/-- `scanColumn` stores only into the first `width` destinations. -/
theorem scanColumn_stores_lt {p : GoBytes} {col : ColumnInfo} (hw : col.typeInfo.WellFormed) :
    ∀ (d : List (Option (GoType κ))),
      ∀ jv ∈ (scanColumn L p col d : Nat × Stores κ ν × _).2.1, jv.1 < col.width
  | [], jv, hjv => by simp [scanColumn] at hjv
  | none :: _, jv, hjv => by simp [scanColumn] at hjv
  | some t :: rest, jv, hjv => by
    simp only [scanColumn] at hjv
    split at hjv
    · rename_i htype
      split at hjv
      · rename_i n elems htuple
        split at hjv
        · simp at hjv
        · -- `Unmarshal` into `dest[:count]`: the tuple loop from `0`
          have hn : n.typ = .tuple := by rw [htuple] at htype; exact htype
          have hidx : ∀ jv ∈ (unmarshalIfaces L col.typeInfo p
              ((some t :: rest).take elems.length) : Stores κ ν × _).1, jv.1 < elems.length := by
            intro jv hjv
            rw [htuple, unmarshalIfaces, if_pos hn] at hjv
            simpa using (unmarshalTupleTargets_index L _ _ _ _ _ jv hjv).2
          rw [ColumnInfo.width, htuple]
          split at hjv <;> exact hidx jv hjv
      · simp at hjv
    · rename_i hne
      split at hjv
      · simp only [List.mem_singleton] at hjv
        rw [hjv, width_of_type_ne_tuple hw hne]
        exact Nat.one_pos
      · simp at hjv

/-- `scanColumn(p, col, dest[i:])` stores only into `dest[i:i+width]`. -/
theorem scanColumnAt_stores {p : GoBytes} {col : ColumnInfo} {dest : List (Option (GoType κ))}
    {i : Nat} (hw : col.typeInfo.WellFormed) :
    ∀ jv ∈ (scanColumnAt L p col dest i : Nat × Stores κ ν × _).2.1,
      i ≤ jv.1 ∧ jv.1 < i + col.width := by
  intro jv hjv
  unfold scanColumnAt at hjv
  split at hjv
  · simp at hjv
  · simp only [shiftStores, List.mem_map] at hjv
    obtain ⟨jv', hjv', rfl⟩ := hjv
    have := scanColumn_stores_lt L hw _ jv' hjv'
    simp only
    omega

/-- `scanColumn(p, col, dest[i:])` with the column's destinations inside `dest` indexes and
slices `dest` within range. -/
theorem scanColumnAt_ne_runtime {p : GoBytes} {col : ColumnInfo} {dest : List (Option (GoType κ))}
    {i : Nat} (h₀ : 0 < col.width) (hle : i + col.width ≤ dest.length) (r : RuntimeError) :
    (scanColumnAt L p col dest i : Nat × Stores κ ν × _).2.2 ≠ some (.runtime r) := by
  have hi : ¬ dest.length < i := by omega
  rw [scanColumnAt, if_neg hi]
  -- `dest[i:]` holds the column's destinations, at least one
  obtain ⟨d, rest, hdrop⟩ : ∃ d rest, dest.drop i = d :: rest :=
    List.exists_cons_of_length_pos (by simp; omega)
  have hlen : col.width ≤ rest.length + 1 := by
    have := congrArg List.length hdrop
    simp only [List.length_drop, List.length_cons] at this
    omega
  simp only [hdrop]
  cases d with
  | none => simp [scanColumn]
  | some t =>
    simp only [scanColumn]
    split
    · split
      · rename_i n elems htuple
        simp only [ColumnInfo.width, htuple] at hlen
        rw [if_neg (by omega)]
        split <;> simp
      · simp
    · split <;> simp

/-! ### The loops on a row -/

/-- The loop of `Iter.Scan` on a row the server wrote is the loop of the code on its columns;
the frame is left past the row when no column failed. -/
theorem iterScanColumns_rowBytes (dest : List (Option (GoType κ))) (rest : List UInt8) :
    ∀ (columns : List ColumnInfo) (ps : List GoBytes) (i : Nat), columns.length = ps.length →
      (∀ p ∈ ps, ((p.getD []).length : Int) ≤ maxInt32) →
      ∃ buf, iterScanColumns L dest columns i (rowBytes ps ++ rest) =
          .ok (scanLoop L codeStep dest (columns.zip ps) i, buf) ∧
        ((scanLoop L codeStep dest (columns.zip ps) i).2 = none → buf = rest) := by
  intro columns
  induction columns with
  | nil =>
    intro ps i hlen _
    obtain rfl : ps = [] := List.length_eq_zero_iff.mp hlen.symm
    exact ⟨rest, rfl, fun _ => rfl⟩
  | cons col cols ih =>
    intro ps i hlen hfit
    obtain ⟨p, ps, rfl⟩ := List.exists_cons_of_length_eq_add_one hlen.symm
    have hp := hfit p (List.mem_cons_self ..)
    rw [rowBytes_cons_append, iterScanColumns, Prog.bind_apply_of_ok (readBytesInternal_appendBytes hp _),
      List.zip_cons_cons, scanLoop]
    rcases hc : scanColumnAt L p col dest i with ⟨n, s, _ | e⟩
    · -- the column returned: the rest of the row, from the cursor it moved to
      obtain ⟨buf, hrun, hbuf⟩ :=
        ih ps (i + n) (by simpa using hlen) (fun q hq => hfit q (List.mem_cons_of_mem _ hq))
      refine ⟨buf, ?_, hbuf⟩
      simp only [hc, codeStep]
      rw [Prog.bind_apply_of_ok hrun]
      rfl
    · refine ⟨rowBytes ps ++ rest, ?_, fun h => nomatch h⟩
      simp only [hc]
      rfl

/-- `iterScanner.Next` reads a row the server wrote into `is.cols`, whatever it held. -/
theorem scannerReadCols_rowBytes (rest : List UInt8) :
    ∀ (olds ps : List GoBytes), olds.length = ps.length →
      (∀ p ∈ ps, ((p.getD []).length : Int) ≤ maxInt32) →
      scannerReadCols olds (rowBytes ps ++ rest) = .ok ((ps, none), rest) := by
  intro olds
  induction olds with
  | nil =>
    intro ps hlen _
    obtain rfl : ps = [] := List.length_eq_zero_iff.mp hlen.symm
    rfl
  | cons old olds ih =>
    intro ps hlen hfit
    obtain ⟨p, ps, rfl⟩ := List.exists_cons_of_length_eq_add_one hlen.symm
    rw [rowBytes_cons_append, scannerReadCols,
      Prog.bind_apply_of_ok (readBytesInternal_appendBytes (hfit p (List.mem_cons_self ..)) _)]
    simp only
    rw [Prog.bind_apply_of_ok (ih ps (by simpa using hlen) fun q hq => hfit q (List.mem_cons_of_mem _ hq))]
    rfl

/-- The loop of `iterScanner.Scan` is the loop of the code on the columns from `k`, while no
column but the last is wider than one: then the cursor in `dest` is the column's index. -/
theorem scannerScanColumns_eq (cols : List GoBytes) (dest : List (Option (GoType κ))) :
    ∀ (cs : List ColumnInfo) (k : Nat), k + cs.length ≤ cols.length →
      (∀ col ∈ cs, col.typeInfo.WellFormed) → (∀ col ∈ cs.dropLast, col.width = 1) →
      scannerScanColumns L cols dest cs k = scanLoop L codeStep dest (cs.zip (cols.drop k)) k := by
  intro cs
  induction cs with
  | nil => intro k _ _ _; rfl
  | cons col cs ih =>
    intro k hk hw hwide
    have hlt : k < cols.length := by simp at hk; omega
    rw [List.drop_eq_getElem_cons hlt, List.zip_cons_cons, scannerScanColumns, scanLoop,
      List.getElem?_eq_getElem hlt]
    rcases hc : scanColumnAt L cols[k] col dest k with ⟨n, s, _ | e⟩
    · simp only [hc]
      cases cs with
      | nil => rfl
      | cons c cs =>
        -- a column before the last is one wide, so it took one destination
        have hn : n = 1 := by
          rw [scanColumnAt_width L (hw col (List.mem_cons_self ..)) hc,
            hwide col (by simp)]
          split <;> rfl
        rw [hn, codeStep, ih (k + 1) (by simp at hk ⊢; omega)
          (fun c' hc' => hw c' (List.mem_cons_of_mem _ hc'))
          (fun c' hc' => hwide c' (by rw [List.dropLast_cons_cons]; exact List.mem_cons_of_mem _ hc'))]
    · simp only [hc]

/-- The code's cursor is the cursor of the scan by widths while each column whose first
destination is nil is one wide. -/
theorem scanLoop_codeStep (dest : List (Option (GoType κ))) :
    ∀ (cs : List (ColumnInfo × GoBytes)) (i : Nat), (∀ c ∈ cs, c.1.typeInfo.WellFormed) →
      skipsAligned dest (cs.map Prod.fst) i = true →
      scanLoop L codeStep dest cs i = scanLoop L widthStep dest cs i := by
  intro cs
  induction cs with
  | nil => intro _ _ _; rfl
  | cons c cs ih =>
    obtain ⟨col, p⟩ := c
    intro i hw hskip
    simp only [List.map_cons, skipsAligned, Bool.and_eq_true, Bool.or_eq_true,
      Bool.not_eq_true', beq_iff_eq] at hskip
    obtain ⟨hhead, hrest⟩ := hskip
    rw [scanLoop, scanLoop]
    rcases hc : scanColumnAt L p col dest i with ⟨n, s, _ | e⟩
    · -- the column returned, having taken its width
      have hn : n = col.width := by
        rw [scanColumnAt_width L (hw _ (List.mem_cons_self ..)) hc]
        cases hnil : firstNil (dest.drop i) with
        | false => rfl
        | true => simp only [hnil, Bool.true_eq_false, false_or] at hhead; exact hhead.symm
      simp only [codeStep, widthStep, hn]
      rw [ih (i + col.width) (fun c hc => hw c (List.mem_cons_of_mem _ hc)) hrest]
    · rfl

/-- The scan by widths stores only into the destinations of its columns. -/
theorem scanLoop_widthStep_stores (dest : List (Option (GoType κ))) :
    ∀ (cs : List (ColumnInfo × GoBytes)) (i : Nat), (∀ c ∈ cs, c.1.typeInfo.WellFormed) →
      ∀ jv ∈ (scanLoop L widthStep dest cs i : Stores κ ν × _).1,
        i ≤ jv.1 ∧ jv.1 < i + (cs.map fun c => c.1.width).sum := by
  intro cs
  induction cs with
  | nil => intro _ _ jv hjv; simp [scanLoop] at hjv
  | cons c cs ih =>
    obtain ⟨col, p⟩ := c
    intro i hw jv hjv
    have hcol : ∀ jv ∈ (scanColumnAt L p col dest i : Nat × Stores κ ν × _).2.1,
        i ≤ jv.1 ∧ jv.1 < i + col.width :=
      scanColumnAt_stores L (hw _ (List.mem_cons_self ..))
    simp only [scanLoop] at hjv
    show i ≤ jv.1 ∧ jv.1 < i + (col.width + (cs.map fun c => c.1.width).sum)
    split at hjv
    · have := hcol jv hjv
      omega
    · rcases List.mem_append.mp hjv with hmem | hmem
      · have := hcol jv hmem
        omega
      · have := ih _ (fun c hc => hw c (List.mem_cons_of_mem _ hc)) jv hmem
        simp only [widthStep] at this
        omega

/-- The scan by widths, with every column at least one wide and their destinations inside
`dest`, indexes and slices `dest` within range. -/
theorem scanLoop_widthStep_ne_runtime (dest : List (Option (GoType κ))) (r : RuntimeError) :
    ∀ (cs : List (ColumnInfo × GoBytes)) (i : Nat), (∀ c ∈ cs, 0 < c.1.width) →
      i + (cs.map fun c => c.1.width).sum ≤ dest.length →
      (scanLoop L widthStep dest cs i : Stores κ ν × _).2 ≠ some (.runtime r) := by
  intro cs
  induction cs with
  | nil => intro _ _ _; simp [scanLoop]
  | cons c cs ih =>
    obtain ⟨col, p⟩ := c
    intro i hpos hle
    have hsum : i + (col.width + (cs.map fun c => c.1.width).sum) ≤ dest.length := hle
    have hcol₀ : 0 < col.width := hpos (col, p) (List.mem_cons_self ..)
    have hcolle : i + col.width ≤ dest.length := by omega
    have hcol : (scanColumnAt L p col dest i : Nat × Stores κ ν × _).2.2 ≠ some (.runtime r) :=
      scanColumnAt_ne_runtime L hcol₀ hcolle r
    simp only [scanLoop]
    split
    · rename_i e he
      rw [← he]
      exact hcol
    · exact ih _ (fun c hc => hpos c (List.mem_cons_of_mem _ hc)) (by simp only [widthStep]; omega)

/-! ### The two paths on a row -/

/-- The widths of the columns zipped with a row of as many values are the columns' widths. -/
theorem map_width_zip {cols : List ColumnInfo} {ps : List GoBytes} (hlen : cols.length = ps.length) :
    ((cols.zip ps).map fun c => c.1.width) = cols.map ColumnInfo.width :=
  calc ((cols.zip ps).map fun c => c.1.width)
      = ((cols.zip ps).map Prod.fst).map ColumnInfo.width := by rw [List.map_map]; rfl
    _ = cols.map ColumnInfo.width := by rw [List.map_fst_zip (le_of_eq hlen)]

variable {iter : Iter εu} {dest : List (Option (GoType κ))} {ps : List GoBytes}

/-- **`Iter.Scan` on a row.**  On a row the server wrote, of an iterator with no error and a
row left, with `dest` as long as `actualColCount`, `Iter.Scan` stores what the loop of the
code stores on the row's columns, sets its error, and returns whether there was none. -/
theorem iterScan_rowBytes (rest : List UInt8) (herr : iter.err = none)
    (hpos : iter.pos < iter.numRows)
    (hcount : (dest.length : Int) = iter.metadata.actualColCount)
    (hlen : iter.metadata.columns.length = ps.length)
    (hfit : ∀ p ∈ ps, ((p.getD []).length : Int) ≤ maxInt32) :
    ∃ iter' buf, iter.scan L dest (rowBytes ps ++ rest) =
        .ok ((iter'.err.isNone, iter',
          (scanLoop L codeStep dest (iter.metadata.columns.zip ps) 0).1), buf) ∧
      iter'.err = (scanLoop L codeStep dest (iter.metadata.columns.zip ps) 0).2 := by
  obtain ⟨buf, hrun, -⟩ := iterScanColumns_rowBytes L dest rest _ ps 0 hlen hfit
  have h₁ : ¬ iter.err.isSome = true := by simp [herr]
  have h₂ : ¬ iter.numRows ≤ iter.pos := by omega
  have h₃ : ¬ (dest.length : Int) ≠ iter.metadata.actualColCount := not_not.mpr hcount
  rw [Iter.scan, if_neg h₁, if_neg h₂, if_neg h₃, Prog.bind_apply_of_ok hrun]
  cases herr' : (scanLoop L codeStep dest (iter.metadata.columns.zip ps) 0).2 with
  | none => exact ⟨{ iter with pos := iter.pos + 1 }, buf, by simp [herr], herr⟩
  | some e => exact ⟨{ iter with err := some e }, buf, by simp, rfl⟩

/-- **`Iter.Scan` by widths.**  As `iterScan_rowBytes`, and where every column whose first
destination is nil is one wide, what `Iter.Scan` stores and its error are those of the scan by
widths: column `k` into `dest[off_k:]`, `off_k` the widths of the columns before it. -/
theorem iterScan_scanByWidth (rest : List UInt8) (herr : iter.err = none)
    (hpos : iter.pos < iter.numRows)
    (hcount : (dest.length : Int) = iter.metadata.actualColCount)
    (hlen : iter.metadata.columns.length = ps.length)
    (hfit : ∀ p ∈ ps, ((p.getD []).length : Int) ≤ maxInt32)
    (hw : ∀ col ∈ iter.metadata.columns, col.typeInfo.WellFormed)
    (hskip : skipsAligned dest iter.metadata.columns 0 = true) :
    ∃ iter' buf, iter.scan L dest (rowBytes ps ++ rest) =
        .ok ((iter'.err.isNone, iter',
          (scanLoop L widthStep dest (iter.metadata.columns.zip ps) 0).1), buf) ∧
      iter'.err = (scanLoop L widthStep dest (iter.metadata.columns.zip ps) 0).2 := by
  have hfst : (iter.metadata.columns.zip ps).map Prod.fst = iter.metadata.columns :=
    List.map_fst_zip (le_of_eq hlen)
  have hw' : ∀ c ∈ iter.metadata.columns.zip ps, c.1.typeInfo.WellFormed :=
    fun c hc => hw c.1 (List.of_mem_zip hc).1
  rw [← scanLoop_codeStep L dest _ 0 hw' (by rw [hfst]; exact hskip)]
  exact iterScan_rowBytes L rest herr hpos hcount hlen hfit

/-- **The scanner on a row.**  On a row the server wrote, `iterScanner.Next` reads it, and
`iterScanner.Scan` then stores what the loop of the code stores and returns its error, while
no column but the last is wider than one. -/
theorem scannerScan_rowBytes (rest : List UInt8) (herr : iter.err = none)
    (hpos : iter.pos < iter.numRows)
    (hcount : (dest.length : Int) = iter.metadata.actualColCount)
    (hlen : iter.metadata.columns.length = ps.length)
    (hfit : ∀ p ∈ ps, ((p.getD []).length : Int) ≤ maxInt32)
    (hw : ∀ col ∈ iter.metadata.columns, col.typeInfo.WellFormed)
    (hwide : ∀ col ∈ iter.metadata.columns.dropLast, col.width = 1) :
    ∃ s, iter.scanner.next (rowBytes ps ++ rest) = .ok ((true, s), rest) ∧
      (s.scan L dest).1 = (scanLoop L codeStep dest (iter.metadata.columns.zip ps) 0).1 ∧
      (s.scan L dest).2.1 = (scanLoop L codeStep dest (iter.metadata.columns.zip ps) 0).2 := by
  have hread := scannerReadCols_rowBytes rest iter.scanner.cols ps
    (by simp [Iter.scanner, hlen]) hfit
  have h₁ : ¬ iter.scanner.iter.err.isSome = true := by simp [Iter.scanner, herr]
  have h₂ : ¬ iter.scanner.iter.numRows ≤ iter.scanner.iter.pos := by
    simp only [Iter.scanner]; omega
  refine ⟨⟨{ iter with pos := iter.pos + 1 }, ps, true⟩, ?_, ?_⟩
  · rw [IterScanner.next, if_neg h₁, if_neg h₂, Prog.bind_apply_of_ok hread]
    rfl
  · have h₃ : ¬ (dest.length : Int) ≠ iter.metadata.actualColCount := not_not.mpr hcount
    have hloop := scannerScanColumns_eq L ps dest iter.metadata.columns 0 (by omega) hw hwide
    simp only [IterScanner.scan, Bool.not_true, Bool.false_eq_true, if_false, if_neg h₃, hloop,
      List.drop_zero, and_self]


/-- **The two paths agree while no column but the last is wider than one.**  On a row the
server wrote, `iterScanner.Next` then `iterScanner.Scan` store what `Iter.Scan` stores, and
return the error it sets. -/
theorem scanner_agrees_iterScan (rest : List UInt8) (herr : iter.err = none)
    (hpos : iter.pos < iter.numRows)
    (hcount : (dest.length : Int) = iter.metadata.actualColCount)
    (hlen : iter.metadata.columns.length = ps.length)
    (hfit : ∀ p ∈ ps, ((p.getD []).length : Int) ≤ maxInt32)
    (hw : ∀ col ∈ iter.metadata.columns, col.typeInfo.WellFormed)
    (hwide : ∀ col ∈ iter.metadata.columns.dropLast, col.width = 1) :
    ∃ s iter' buf, iter.scanner.next (rowBytes ps ++ rest) = .ok ((true, s), rest) ∧
      iter.scan L dest (rowBytes ps ++ rest) =
        .ok ((iter'.err.isNone, iter', (s.scan L dest).1), buf) ∧
      (s.scan L dest).2.1 = iter'.err := by
  obtain ⟨s, hnext, hstored, herr'⟩ :=
    scannerScan_rowBytes L rest herr hpos hcount hlen hfit hw hwide
  obtain ⟨iter', buf, hscan, hiter'⟩ := iterScan_rowBytes L rest herr hpos hcount hlen hfit
  refine ⟨s, iter', buf, hnext, ?_, ?_⟩
  · rw [hstored]
    exact hscan
  · rw [herr', hiter']

/-- **The two paths and the scan by widths.**  On a row the server wrote, of an iterator with no
error and a row left, into `dest` as long as `actualColCount`: where every column whose first
destination is nil is one wide, `Iter.Scan` stores and reports what the scan by widths does;
that scan stores only into the destinations of the columns, and indexes `dest` in range when
every column is at least one wide and their widths fit in `dest`; and while no column but the
last is wider than one, the scanner stores what `Iter.Scan` stores and returns the error it
sets. -/
theorem iterScan_paths (rest : List UInt8) (herr : iter.err = none)
    (hpos : iter.pos < iter.numRows)
    (hcount : (dest.length : Int) = iter.metadata.actualColCount)
    (hlen : iter.metadata.columns.length = ps.length)
    (hfit : ∀ p ∈ ps, ((p.getD []).length : Int) ≤ maxInt32)
    (hw : ∀ col ∈ iter.metadata.columns, col.typeInfo.WellFormed) :
    (skipsAligned dest iter.metadata.columns 0 = true →
      ∃ iter' buf, iter.scan L dest (rowBytes ps ++ rest) =
          .ok ((iter'.err.isNone, iter',
            (scanLoop L widthStep dest (iter.metadata.columns.zip ps) 0).1), buf) ∧
        iter'.err = (scanLoop L widthStep dest (iter.metadata.columns.zip ps) 0).2) ∧
    (∀ jv ∈ (scanLoop L widthStep dest (iter.metadata.columns.zip ps) 0).1,
      jv.1 < (iter.metadata.columns.map ColumnInfo.width).sum) ∧
    ((∀ col ∈ iter.metadata.columns, 0 < col.width) →
      (iter.metadata.columns.map ColumnInfo.width).sum ≤ dest.length → ∀ r,
        (scanLoop L widthStep dest (iter.metadata.columns.zip ps) 0).2 ≠ some (.runtime r)) ∧
    ((∀ col ∈ iter.metadata.columns.dropLast, col.width = 1) →
      ∃ s iter' buf, iter.scanner.next (rowBytes ps ++ rest) = .ok ((true, s), rest) ∧
        iter.scan L dest (rowBytes ps ++ rest) = .ok ((iter'.err.isNone, iter', (s.scan L dest).1), buf) ∧
        (s.scan L dest).2.1 = iter'.err) := by
  have hsum := map_width_zip hlen
  have hw' : ∀ c ∈ iter.metadata.columns.zip ps, c.1.typeInfo.WellFormed :=
    fun c hc => hw c.1 (List.of_mem_zip hc).1
  refine ⟨fun hskip => iterScan_scanByWidth L rest herr hpos hcount hlen hfit hw hskip, fun jv hjv => ?_,
    fun hone hfits r => ?_, fun hwide => scanner_agrees_iterScan L rest herr hpos hcount hlen hfit hw hwide⟩
  · have := (scanLoop_widthStep_stores L dest _ 0 hw' jv hjv).2
    rwa [hsum, Nat.zero_add] at this
  · refine scanLoop_widthStep_ne_runtime L dest r _ 0 (fun c hc => hone c.1 (List.of_mem_zip hc).1) ?_
    rwa [hsum, Nat.zero_add]

end Lemmas

/-! ### A tuple column before another -/

/-- `tuple<bigint, bigint>`. -/
def pairBigInt : TypeInfo :=
  .tuple ⟨4, .tuple, []⟩ [.native ⟨4, .bigInt, []⟩, .native ⟨4, .bigInt, []⟩]

/-- The metadata of a result of a `tuple<bigint, bigint>` column then a `bigint` one: three
destinations. -/
def pairThenBigInt : ResultMetadata :=
  ⟨0, none, [⟨[], [], [], pairBigInt⟩, ⟨[], [], [], .native ⟨4, .bigInt, []⟩⟩], 2, 3⟩

/-- A row of it: the tuple `(1, 2)` and the `bigint` `3`. -/
def pairRow : List GoBytes :=
  [some [0, 0, 0, 8, 0, 0, 0, 0, 0, 0, 0, 1, 0, 0, 0, 8, 0, 0, 0, 0, 0, 0, 0, 2],
   some [0, 0, 0, 0, 0, 0, 0, 3]]

/-- An iterator at the one row of a page of that result. -/
def pairIter : Iter (LeafError UnmarshalError) := ⟨none, 0, 1, pairThenBigInt⟩

/-- Into three `*int64`, `Iter.Scan` stores `1`, `2` and `3`, but the scanner reads the row and
then indexes `is.cols[2]` of two columns; with the tuple's destinations nil, `Iter.Scan` leaves
the third destination unset, where the scan by widths stores `3`. -/
theorem scan_paths_diverge :
    pairIter.scan bigIntLeaf (List.replicate 3 (some (.leaf .int64))) (rowBytes pairRow) =
      .ok ((true, { pairIter with pos := 1 },
        [(0, .leaf (.int64 1)), (1, .leaf (.int64 2)), (2, .leaf (.int64 3))]), []) ∧
    pairIter.scanner.next (rowBytes pairRow) =
      .ok ((true, ⟨{ pairIter with pos := 1 }, pairRow, true⟩), []) ∧
    (IterScanner.scan bigIntLeaf ⟨{ pairIter with pos := 1 }, pairRow, true⟩
      (List.replicate 3 (some (.leaf .int64)))).1 = [(0, .leaf (.int64 1)), (1, .leaf (.int64 2))] ∧
    (IterScanner.scan bigIntLeaf ⟨{ pairIter with pos := 1 }, pairRow, true⟩
      (List.replicate 3 (some (.leaf .int64)))).2.1 = some (.runtime (.indexOutOfRange 2 2)) ∧
    pairIter.scan bigIntLeaf [none, none, some (.leaf .int64)] (rowBytes pairRow) =
      .ok ((true, { pairIter with pos := 1 }, []), []) ∧
    scanLoop bigIntLeaf widthStep [none, none, some (.leaf .int64)]
      (pairThenBigInt.columns.zip pairRow) 0 = ([(2, .leaf (.int64 3))], none) := by
  refine ⟨?_, ?_, ?_, ?_, ?_, ?_⟩ <;> rfl

/-! ### The tuple column last -/

/-- The metadata of a `bigint` column then a `tuple<bigint, bigint>` one: the wide column last. -/
def bigIntThenPair : ResultMetadata :=
  ⟨0, none, [⟨[], [], [], .native ⟨4, .bigInt, []⟩⟩, ⟨[], [], [], pairBigInt⟩], 2, 3⟩

/-- With the tuple last, the scanner stores what `Iter.Scan` stores, into three `*int64`. -/
theorem scanner_agrees_bigIntThenPair :
    ∃ s iter' buf,
      (⟨none, 0, 1, bigIntThenPair⟩ : Iter (LeafError UnmarshalError)).scanner.next
          (rowBytes pairRow.reverse ++ []) = .ok ((true, s), []) ∧
      (⟨none, 0, 1, bigIntThenPair⟩ : Iter (LeafError UnmarshalError)).scan bigIntLeaf
          (List.replicate 3 (some (.leaf .int64))) (rowBytes pairRow.reverse ++ []) =
        .ok ((iter'.err.isNone, iter', (s.scan bigIntLeaf (List.replicate 3 (some (.leaf .int64)))).1),
          buf) ∧
      (s.scan bigIntLeaf (List.replicate 3 (some (.leaf .int64)))).2.1 = iter'.err := by
  have hw : ∀ col ∈ bigIntThenPair.columns, col.typeInfo.WellFormed := by
    intro col hcol
    simp only [bigIntThenPair, List.mem_cons, List.mem_nil_iff, or_false] at hcol
    rcases hcol with rfl | rfl
    · exact .native (by decide)
    · refine .tuple rfl fun e he => ?_
      simp only [List.mem_cons, List.mem_nil_iff, or_false] at he
      rcases he with rfl | rfl <;> exact .native (by decide)
  exact (iterScan_paths bigIntLeaf [] rfl (by decide) (by decide) rfl (by decide) hw).2.2.2 (by decide)

end Gocql
