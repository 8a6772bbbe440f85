/-!
# Support — a scripted byte stream

The bytes a peer sends, read through Go's `io.Reader` contract: a call `Read(p)` returns some
of the bytes asked for, possibly none, together with an error or none.  Which call returns how
many bytes and which error is not up to the reader; a `Stream` carries it as a script, one
`ReadStep` per call.  Once the script is spent every read returns `io.EOF`: the peer has closed
the connection.

* `Stream.read`: one call of `Read`.
* `Stream.readFull`: `io.ReadFull`, the loop of `io.ReadAtLeast` with its conversion of a short
  `io.EOF` into `io.ErrUnexpectedEOF`.
* `readFull_data`: what `readFull` returns is a prefix of the data, and the stream goes on
  right after it; `readFull_ok`: with no error it is exactly the bytes asked for.
* `ReadsPrefix`: the two together, what a reader built on `readFull` is shown to keep.
-/

namespace GoIO

/-- The errors a read returns, as the code tells them apart: `io.EOF`,
`io.ErrUnexpectedEOF`, a `net.Error` (timeouts among them) with what its `Temporary()` says,
or any other error. -/
inductive ReadError where
  | eof
  | unexpectedEOF
  | net (temporary : Bool)
  | other
  deriving DecidableEq, Repr

/-- What one call of `Read` returns: at most `count` of the bytes asked for and available, and
an error. -/
structure ReadStep where
  count : Nat
  err : Option ReadError
  deriving DecidableEq, Repr

/-- The bytes still to be read, and the script of the reads to come. -/
structure Stream where
  data : List UInt8
  script : List ReadStep
  deriving DecidableEq, Repr

namespace Stream

/-- `r.Read(p)` with `len(p) = n`. -/
def read (n : Nat) (s : Stream) : (List UInt8 × Option ReadError) × Stream :=
  match s.script with
  | [] => (([], some .eof), s)
  | st :: rest =>
      let k := min st.count (min n s.data.length)
      ((s.data.take k, st.err), ⟨s.data.drop k, rest⟩)

/-- The loop of `io.ReadAtLeast(r, buf, min)` (here `need`): `for n < min && err == nil`, with
`got` the bytes read so far.  It consumes one step of the script per call of `Read`. -/
def readLoop (need : Nat) (got : List UInt8) (data : List UInt8) :
    List ReadStep → List UInt8 × Option ReadError × Stream
  | [] => if need ≤ got.length then (got, none, ⟨data, []⟩) else (got, some .eof, ⟨data, []⟩)
  | st :: rest =>
      if need ≤ got.length then (got, none, ⟨data, st :: rest⟩)
      else
        let k := min st.count (min (need - got.length) data.length)
        match st.err with
        | some e => (got ++ data.take k, some e, ⟨data.drop k, rest⟩)
        | none => readLoop need (got ++ data.take k) (data.drop k) rest

/-- `io.ReadFull(r, buf)` with `len(buf) = n`: the bytes read, and `nil` when all `n` came;
else the error, `io.ErrUnexpectedEOF` for an `io.EOF` after some bytes. -/
def readFull (n : Nat) (s : Stream) : (List UInt8 × Option ReadError) × Stream :=
  let (got, err, s') := readLoop n [] s.data s.script
  let err := if n ≤ got.length then none
    else if 0 < got.length ∧ err = some .eof then some .unexpectedEOF
    else err
  ((got, err), s')

/-- The loop reads a prefix of the data, and leaves the rest of it. -/
theorem readLoop_data (need : Nat) :
    ∀ (script : List ReadStep) (got data : List UInt8),
      ∃ k, (readLoop need got data script).1 = got ++ data.take k ∧
        (readLoop need got data script).2.2.data = data.drop k
  | [], got, data => by
      refine ⟨0, ?_, ?_⟩ <;> simp only [readLoop] <;> split <;> simp
  | st :: rest, got, data => by
      simp only [readLoop]
      split
      · exact ⟨0, by simp, by simp⟩
      · split
        · exact ⟨_, rfl, rfl⟩
        · -- one more read of `k` bytes, then the rest of the loop
          generalize min st.count (min (need - got.length) data.length) = k
          obtain ⟨j, h₁, h₂⟩ := readLoop_data need rest (got ++ data.take k) (data.drop k)
          refine ⟨k + j, ?_, ?_⟩
          · rw [h₁, List.append_assoc, List.take_add]
          · rw [h₂, List.drop_drop]

/-- The loop never reads more than it asks for. -/
theorem readLoop_length (need : Nat) :
    ∀ (script : List ReadStep) (got data : List UInt8), got.length ≤ need →
      (readLoop need got data script).1.length ≤ need
  | [], got, data, h => by
      simp only [readLoop]; split <;> exact h
  | st :: rest, got, data, h => by
      simp only [readLoop]
      split
      · exact h
      · have hk : (got ++ data.take (min st.count (min (need - got.length) data.length))).length
            ≤ need := by
          simp only [List.length_append, List.length_take]; omega
        split
        · exact hk
        · exact readLoop_length need rest _ _ hk

/-- `readFull` returns a prefix of the data, no longer than asked, and the stream goes on right
after it. -/
theorem readFull_data (n : Nat) (s : Stream) :
    s.data = (readFull n s).1.1 ++ (readFull n s).2.data ∧ (readFull n s).1.1.length ≤ n := by
  obtain ⟨k, h₁, h₂⟩ := readLoop_data n s.script [] s.data
  have hlen := readLoop_length n s.script [] s.data (Nat.zero_le n)
  simp only [readFull]
  refine ⟨?_, hlen⟩
  rw [h₁, h₂, List.nil_append, List.take_append_drop]

/-- The loop stops without an error only once it has read all it asked for. -/
theorem readLoop_none (need : Nat) :
    ∀ (script : List ReadStep) (got data : List UInt8),
      (readLoop need got data script).2.1 = none → need ≤ (readLoop need got data script).1.length
  | [], got, data, h => by
      simp only [readLoop] at h ⊢
      split
      · assumption
      · rename_i hlt; rw [if_neg hlt] at h; cases h
  | st :: rest, got, data, h => by
      simp only [readLoop] at h ⊢
      split
      · assumption
      · rename_i hlt
        rw [if_neg hlt] at h
        split
        · rename_i e he; rw [he] at h; cases h
        · rename_i he
          rw [he] at h
          exact readLoop_none need rest _ _ h

/-- With no error, `readFull` returns exactly `n` bytes. -/
theorem readFull_ok {n : Nat} {s : Stream} (h : (readFull n s).1.2 = none) :
    (readFull n s).1.1.length = n := by
  have hle := (readFull_data n s).2
  simp only [readFull] at h hle ⊢
  split at h
  · omega
  · rename_i hshort
    split at h
    · cases h
    · exact absurd (readLoop_none n s.script [] s.data h) hshort

/-- `r` is what a read of `n` bytes from `data` may return, as `io.ReadFull` promises: a prefix
of the data no longer than `n`, all `n` bytes when there is no error, and the stream going on
right after it. -/
def ReadsPrefix (n : Nat) (data : List UInt8) (r : (List UInt8 × Option ReadError) × Stream) :
    Prop :=
  data = r.1.1 ++ r.2.data ∧ r.1.1.length ≤ n ∧ (r.1.2 = none → r.1.1.length = n)

theorem readFull_readsPrefix (n : Nat) (s : Stream) : ReadsPrefix n s.data (readFull n s) :=
  ⟨(readFull_data n s).1, (readFull_data n s).2, readFull_ok⟩

end Stream

end GoIO
