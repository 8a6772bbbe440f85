import Mathlib

/-!
# Conn — coalesced writes

With write coalescing on, `Conn` writes through a `writeCoalescer`: `writeContext` enqueues a
frame buffer with a one-slot result channel on `writeCh` and waits for its result.  The
goroutine `writeFlusherImpl` collects the buffers and their channels, and when its timer fires
calls `flush`, which writes them all with one vectored write, `net.Buffers.WriteTo`, and turns
the byte count `n` it returns into one count per buffer: a buffer within the first `n` bytes
was written in full and gets no error, the one `n` ends in gets the bytes of it written and the
write's error, those after it get `0` and that error.  When `SetWriteDeadline` fails no write
happens and every buffer gets `0` and that error; on `quit` every waiting caller gets `io.EOF`.

* `flushResults`, `flush`: the loop over the buffers, and the function.
* `flushResults_spec`: the result of the `i`th buffer is `min(len, n - written before it)`, with
  no error iff the buffer was written in full; the counts add up to `n`
  (`sum_flushResults`); so a short count always comes with an error (`flush_short_has_error`),
  the `contextWriter` contract; `flush_reports_progress` puts these together.
* `Flusher.step`, `Flusher.run`: `writeFlusherImpl` over its three `select` cases;
  `FlusherInv`: the channels answered, then those waiting, are the channels enqueued, in
  order; so every request is answered once at most, and each at `quit` (`run_answers`).
-/

namespace Gocql

variable {ε : Type}

/-- `writeResult`: the bytes of the buffer written, and the error, nil as `none`. -/
structure WriteResult (ε : Type) where
  n : Nat
  err : Option ε
  deriving DecidableEq, Repr

/-- The loop of `flush` over the buffers, `n` the bytes of the write not yet accounted for. -/
def flushResults (err : Option ε) : Nat → List (List UInt8) → List (WriteResult ε)
  | _, [] => []
  | n, b :: bs =>
    if b.length ≤ n then ⟨b.length, none⟩ :: flushResults err (n - b.length) bs
    else ⟨n, err⟩ :: flushResults err 0 bs

/-- `writeCoalescer.flush`, with the error of `SetWriteDeadline`, tried when `timeout > 0`, and
the outcome `(n, err)` of `WriteTo`. -/
def flush (timeout : Int) (setWriteDeadline : Option ε) (writeTo : Nat × Option ε)
    (buffers : List (List UInt8)) : List (WriteResult ε) :=
  match setWriteDeadline with
  | some err => if 0 < timeout then buffers.map fun _ => ⟨0, some err⟩
    else flushResults writeTo.2 writeTo.1 buffers
  | none => flushResults writeTo.2 writeTo.1 buffers

/-! ### The counts -/

/-- One buffer: its count is what is left of `n`, up to its length, and the rest of `n` goes on;
a buffer past the partial one meets `n = 0`, which `n - len` also is. -/
theorem flushResults_cons (err : Option ε) (n : Nat) (b : List UInt8) (bs : List (List UInt8)) :
    flushResults err n (b :: bs) =
      ⟨min b.length n, if b.length ≤ n then none else err⟩ :: flushResults err (n - b.length) bs := by
  rw [flushResults]
  by_cases h : b.length ≤ n
  · rw [if_pos h, if_pos h, Nat.min_eq_left h]
  · rw [if_neg h, if_neg h, Nat.min_eq_right (by omega), show n - b.length = 0 by omega]

theorem length_flushResults (err : Option ε) :
    ∀ (n : Nat) (bs : List (List UInt8)), (flushResults err n bs).length = bs.length
  | _, [] => rfl
  | n, b :: bs => by
    rw [flushResults_cons, List.length_cons, length_flushResults err _ bs, List.length_cons]

/-- The bytes of the buffers before the `i`th. -/
def writtenBefore (bs : List (List UInt8)) (i : Nat) : Nat := ((bs.take i).map List.length).sum

theorem writtenBefore_succ (b : List UInt8) (bs : List (List UInt8)) (i : Nat) :
    writtenBefore (b :: bs) (i + 1) = b.length + writtenBefore bs i := by
  simp [writtenBefore]

/-- **The result of each buffer**: the bytes of it within the first `n`, and no error exactly
when what is left of `n` covers it. -/
theorem flushResults_spec (err : Option ε) :
    ∀ (bs : List (List UInt8)) (n i : Nat) (hi : i < bs.length),
      (flushResults err n bs)[i]? =
        some ⟨min bs[i].length (n - writtenBefore bs i),
          if bs[i].length ≤ n - writtenBefore bs i then none else err⟩
  | [], _, _, hi => absurd hi (Nat.not_lt_zero _)
  | b :: bs, n, 0, _ => by
    simp [flushResults_cons, writtenBefore]
  | b :: bs, n, i + 1, hi => by
    -- the first buffer takes its bytes off `n`
    have ih := flushResults_spec err bs (n - b.length) i (by simpa using hi)
    simp only [flushResults_cons, List.getElem?_cons_succ, ih, writtenBefore_succ, Nat.sub_sub,
      List.getElem_cons_succ]

/-- The buffers up to the `i`th hold no more than all of them. -/
theorem writtenBefore_add_le :
    ∀ (bs : List (List UInt8)) (i : Nat) (hi : i < bs.length),
      writtenBefore bs i + bs[i].length ≤ (bs.map List.length).sum
  | [], _, hi => absurd hi (Nat.not_lt_zero _)
  | b :: bs, 0, _ => by simp [writtenBefore]
  | b :: bs, i + 1, hi => by
    have ih := writtenBefore_add_le bs i (by simpa using hi)
    simp only [writtenBefore_succ, List.getElem_cons_succ, List.map_cons, List.sum_cons]
    omega

/-- **The counts add up** to what was written, when no more was written than the buffers hold. -/
theorem sum_flushResults (err : Option ε) :
    ∀ (bs : List (List UInt8)) (n : Nat),
      ((flushResults err n bs).map WriteResult.n).sum = min n (bs.map List.length).sum
  | [], _ => by simp [flushResults]
  | b :: bs, n => by
    rw [flushResults_cons, List.map_cons, List.sum_cons, sum_flushResults err bs, List.map_cons,
      List.sum_cons]
    simp only
    omega

theorem length_flush (timeout : Int) (setWriteDeadline : Option ε) (writeTo : Nat × Option ε)
    (bs : List (List UInt8)) : (flush timeout setWriteDeadline writeTo bs).length = bs.length := by
  unfold flush
  split
  · split
    · exact List.length_map _
    · exact length_flushResults _ _ _
  · exact length_flushResults _ _ _

/-- **The `contextWriter` contract**: given a write that reports an error whenever it wrote less
than it was given, no buffer gets a short count without an error, on either path of `flush`. -/
theorem flush_short_has_error (timeout : Int) (setWriteDeadline : Option ε) {n : Nat}
    {err : Option ε} {bs : List (List UInt8)} (herr : n < (bs.map List.length).sum → err ≠ none)
    {i : Nat} (hi : i < bs.length) {r : WriteResult ε}
    (hr : (flush timeout setWriteDeadline (n, err) bs)[i]? = some r) (hlt : r.n < bs[i].length) :
    r.err ≠ none := by
  -- the write path: a short count is the partial buffer or one after it
  have hwrite : (flushResults err n bs)[i]? = some r → r.err ≠ none := by
    rw [flushResults_spec err bs n i hi, Option.some.injEq]
    intro hr'
    subst hr'
    have hshort : ¬ bs[i].length ≤ n - writtenBefore bs i := by
      simp only at hlt
      omega
    have hle := writtenBefore_add_le bs i hi
    simp only [hshort, if_false]
    exact herr (by omega)
  unfold flush at hr
  split at hr
  · split at hr
    · -- `SetWriteDeadline` failed: every buffer gets its error
      rw [List.getElem?_map, List.getElem?_eq_getElem hi, Option.map_some, Option.some.injEq] at hr
      subst hr
      simp
    · exact hwrite hr
  · exact hwrite hr

/-- **`flush` reports progress exactly**: for a write of `n` bytes of the buffers, with an error
whenever it wrote less than all, each buffer gets the bytes of it within the first `n`, with no
error exactly when all of it was written; the counts add up to `n`; when `SetWriteDeadline`
fails, every buffer gets `0` and its error; and on either path a short count always comes with an
error. -/
theorem flush_reports_progress (timeout : Int) (bs : List (List UInt8)) (n : Nat) (err : Option ε)
    (hn : n ≤ (bs.map List.length).sum) (herr : n < (bs.map List.length).sum → err ≠ none) :
    (flush timeout none (n, err) bs).length = bs.length ∧
    (∀ i (hi : i < bs.length), ∃ r, (flush timeout none (n, err) bs)[i]? = some r ∧
      r.n = min bs[i].length (n - writtenBefore bs i) ∧
      (r.err = none ↔ bs[i].length ≤ n - writtenBefore bs i)) ∧
    ((flush timeout none (n, err) bs).map WriteResult.n).sum = n ∧
    (∀ e, 0 < timeout → flush timeout (some e) (n, err) bs = bs.map fun _ => ⟨0, some e⟩) ∧
    (∀ setWriteDeadline i (hi : i < bs.length) (r : WriteResult ε),
      (flush timeout setWriteDeadline (n, err) bs)[i]? = some r → r.n < bs[i].length → r.err ≠ none) := by
  refine ⟨length_flush _ _ _ _, fun i hi => ?_, ?_, fun e ht => ?_, fun sd i hi r hr hlt =>
    flush_short_has_error timeout sd herr hi hr hlt⟩
  · refine ⟨_, flushResults_spec err bs n i hi, rfl, ?_⟩
    by_cases hfull : bs[i].length ≤ n - writtenBefore bs i
    · simp [hfull]
    · -- the buffer `n` ends in, or one after it: the write fell short, so it has an error
      have hle := writtenBefore_add_le bs i hi
      simp only [hfull, if_false, iff_false]
      exact herr (by omega)
  · show ((flushResults err n bs).map WriteResult.n).sum = n
    rw [sum_flushResults, Nat.min_eq_left hn]
  · rw [flush, if_pos ht]

/-- Five bytes in two frames, four of them written: the first frame in full, one byte of the
second with the write's error. -/
theorem flush_short_write :
    flush 0 none (4, some "broken pipe") [[1, 2, 3], [4, 5]] =
        [⟨3, none⟩, ⟨1, some "broken pipe"⟩] ∧
      ((flush 0 none (4, some "broken pipe") [[1, 2, 3], [4, 5]]).map WriteResult.n).sum = 4 :=
  ⟨rfl, (flush_reports_progress 0 [[1, 2, 3], [4, 5]] 4 (some "broken pipe") (by decide)
    (fun _ => Option.some_ne_none _)).2.2.1⟩

/-! ### The flusher -/

/-- What `writeFlusherImpl` holds: whether its timer runs, and the buffers enqueued with the
result channels of their requests, a channel named by a `Nat`. -/
structure Flusher where
  running : Bool
  buffers : List (List UInt8)
  resultChans : List Nat

/-- The cases of the flusher's `select`, with what the world gives each: a request, the timer
with the outcome of `SetWriteDeadline` and of the write, or `quit`. -/
inductive FlusherEvent (ε : Type) where
  | writeReq (resultChan : Nat) (data : List UInt8)
  | timer (setWriteDeadline : Option ε) (writeTo : Nat × Option ε)
  | quit (eof : ε)

/-- The flusher before its first request. -/
def Flusher.init : Flusher := ⟨false, [], []⟩

/-- One case of the `select`: the flusher after it, none once it has returned, and the results
it sends, each on the channel of its buffer. -/
def Flusher.step (timeout : Int) (f : Flusher) :
    FlusherEvent ε → Option Flusher × List (Nat × WriteResult ε)
  | .writeReq c data =>
    (some ⟨true, f.buffers ++ [data], f.resultChans ++ [c]⟩, [])
  | .timer setWriteDeadline writeTo =>
    (some ⟨false, [], []⟩, f.resultChans.zip (flush timeout setWriteDeadline writeTo f.buffers))
  | .quit eof => (none, f.resultChans.map fun c => (c, ⟨0, some eof⟩))

/-- A run: the flusher at its end, none if it returned, and every result sent. -/
def Flusher.run (timeout : Int) : Flusher → List (FlusherEvent ε) →
    Option Flusher × List (Nat × WriteResult ε)
  | f, [] => (some f, [])
  | f, e :: es =>
    match f.step timeout e with
    | (some f', out) => ((Flusher.run timeout f' es).1, out ++ (Flusher.run timeout f' es).2)
    | (none, out) => (none, out)

/-- The channels of the requests the flusher receives before it returns. -/
def enqueued : List (FlusherEvent ε) → List Nat
  | [] => []
  | .writeReq c _ :: es => c :: enqueued es
  | .timer .. :: es => enqueued es
  | .quit _ :: _ => []

/-- Each buffer has its channel. -/
def FlusherInv (f : Flusher) : Prop := f.buffers.length = f.resultChans.length

/-- **Every request is answered once**: over any run from a flusher whose buffers have their
channels, the channels answered and then those still waiting are the channels enqueued, in
order; once the flusher has returned, every one has been answered. -/
theorem run_answers (timeout : Int) :
    ∀ (es : List (FlusherEvent ε)) (f : Flusher), FlusherInv f →
      ((Flusher.run timeout f es).2.map Prod.fst ++
          ((Flusher.run timeout f es).1.map Flusher.resultChans).getD []) =
        f.resultChans ++ enqueued es
  | [], f, _ => by simp [Flusher.run, enqueued]
  | .writeReq c data :: es, f, hinv => by
    have hinv' : FlusherInv ⟨true, f.buffers ++ [data], f.resultChans ++ [c]⟩ := by
      simp only [FlusherInv, List.length_append, List.length_singleton]
      rw [hinv]
    have ih := run_answers timeout es _ hinv'
    simp only [Flusher.run, Flusher.step, List.nil_append, enqueued] at ih ⊢
    rw [ih, List.append_assoc, List.singleton_append]
  | .timer d w :: es, f, hinv => by
    -- the flush answers every buffer's channel, in order
    have hfst : (f.resultChans.zip (flush timeout d w f.buffers)).map Prod.fst = f.resultChans :=
      List.map_fst_zip (Nat.le_of_eq (by rw [length_flush, hinv]))
    have ih := run_answers timeout es ⟨false, [], []⟩ rfl
    simp only [Flusher.run, Flusher.step, enqueued, List.map_append, hfst] at ih ⊢
    rw [List.append_assoc, ih, List.nil_append]
  | .quit eof :: es, f, _ => by
    have hfst : (f.resultChans.map fun c => ((c, ⟨0, some eof⟩) : Nat × WriteResult ε)).map
        Prod.fst = f.resultChans := by
      rw [List.map_map]
      exact List.map_id' _
    simp [Flusher.run, Flusher.step, enqueued, hfst]

/-- Two requests flushed together by the timer, a third answered at `quit`. -/
theorem flusher_answers_three :
    FlusherInv Flusher.init ∧
      ((Flusher.run (ε := Unit) 10 Flusher.init
            [.writeReq 1 [0], .writeReq 2 [1, 2], .timer none (3, none), .writeReq 3 [4], .quit ()]).2.map
          Prod.fst ++
        ((Flusher.run (ε := Unit) 10 Flusher.init
            [.writeReq 1 [0], .writeReq 2 [1, 2], .timer none (3, none), .writeReq 3 [4], .quit ()]).1.map
          Flusher.resultChans).getD []) =
        Flusher.init.resultChans ++
          enqueued [.writeReq 1 [0], .writeReq 2 [1, 2], .timer none (3, none), .writeReq 3 [4], .quit ()] :=
  ⟨rfl, run_answers 10 _ _ rfl⟩

end Gocql
