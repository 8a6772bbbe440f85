import Gocql.Frame.Parse

/-!
# Conn — the receive loop

`Conn.serve` calls `Conn.recv` until it returns an error, then closes the connection.  Each
`recv` reads a header from the buffered reader, then the body: an event (stream -1) is read and
handed to the session, a frame on another reserved stream is parsed and returned as a
`protocolError`, a frame for a stream with no call waiting is discarded, and any other body is
read by `framer.readFrame` and handed to the call registered on its stream.

The body goes through `Conn.Read`, which retries `io.ReadFull` on a temporary `net.Error` up to
five times.  `recv` returns a `readFrame` error only when it is a `net.Error`; otherwise it hands
the error to the call and returns `nil`, and `serve` reads the next header.

* `connRead`, `connReadFull`, `copyNDiscard`: `Conn.Read`, `io.ReadFull` and `io.CopyN` over it.
* `readFrame`, `discardFrame`, `recv`, `serve`: the functions of the source.
* `readFrame_data`: a body read without an error is exactly `head.length` bytes of the stream.
* `recv_nil_frame`: a `recv` that returns `nil` has read exactly one frame, unless it handed a
  call the error of reading its body; `serve_frames`: over a run of such calls the headers are
  read at frame boundaries.
-/

namespace Gocql

open Go GoIO

/-- The errors `readFrame`, `discardFrame` and `recv` return. -/
inductive ConnError where
  /-- an error of the header or of the reader, returned as it is -/
  | header (e : HeaderError)
  /-- `frame body length can not be less than 0: …` -/
  | negativeLength (length : Int)
  /-- `error whilst trying to discard frame with invalid length: …` -/
  | discardFailed (e : ReadError)
  /-- `ErrFrameTooBig` -/
  | frameTooBig
  /-- `unable to read frame body: read …/… bytes: …` -/
  | bodyReadFailed (n length : Int) (e : ReadError)
  /-- `no compressor available with compressed frame body` -/
  | noCompressor
  /-- the compressor's error -/
  | decodeFailed
  /-- `gocql: frame header stream is beyond call expected bounds: …` -/
  | streamOutOfBounds (stream : Int)
  /-- `ErrConnectionClosed` -/
  | connectionClosed
  /-- `protocolError`: a frame on a reserved stream -/
  | protocolError
  /-- the error `parseFrame` returned -/
  | parse (e : FrameError)
  deriving DecidableEq, Repr

/-- `err.(net.Error)`: only a reader's error returned as it is can be one.  The errors built by
`fmt.Errorf` from one are not. -/
def ConnError.isNetError : ConnError → Bool
  | .header (.read (.net _)) => true
  | _ => false

/-! ### Reads through `Conn` -/

/-- The loop of `Conn.Read` with `attempts` left: `io.ReadFull(c.r, p[n:])`, again after a
temporary `net.Error`. -/
def connReadLoop (n : Nat) : Nat → List UInt8 → Option ReadError → Stream →
    (List UInt8 × Option ReadError) × Stream
  | 0, got, err, s => ((got, err), s)
  | attempts + 1, got, _, s =>
      let ((nn, err), s') := s.readFull (n - got.length)
      let got := got ++ nn
      match err with
      | none => ((got, none), s')
      | some (.net true) => connReadLoop n attempts got err s'
      | some e => ((got, some e), s')

/-- `Conn.Read(p)` with `len(p) = n`: `maxAttempts` is 5. -/
def connRead (n : Nat) (s : Stream) : (List UInt8 × Option ReadError) × Stream :=
  connReadLoop n 5 [] none s

/-- `io.ReadFull(c, buf)`: the loop of `io.ReadAtLeast` over `Conn.Read` makes one call, since
`Conn.Read` returns no error only with every byte asked for. -/
def connReadFull (n : Nat) (s : Stream) : (List UInt8 × Option ReadError) × Stream :=
  let ((got, err), s') := connRead n s
  let err := if n ≤ got.length then none
    else if 0 < got.length ∧ err = some .eof then some .unexpectedEOF
    else err
  ((got, err), s')

/-- The loop of `Discard.ReadFrom` through `io.LimitReader(c, remaining)`: chunks of at most
8192 bytes until the limit, which ends it without an error, or an error, where `io.EOF` ends it
without an error too.  Each round that returns no error reads its whole chunk, so `fuel` one
more than the limit is enough. -/
def discardLoop : Nat → Nat → Stream → Nat × Option ReadError × Stream
  | 0, _, s => (0, none, s)
  | fuel + 1, remaining, s =>
      if remaining = 0 then (0, none, s)
      else
        let ((got, err), s') := connRead (min 8192 remaining) s
        match err with
        | none =>
            let (written, err, s'') := discardLoop fuel (remaining - got.length) s'
            (got.length + written, err, s'')
        | some .eof => (got.length, none, s')
        | some e => (got.length, some e, s')

/-- `io.CopyN(ioutil.Discard, c, n)`: fewer than `n` bytes with no error is `io.EOF`. -/
def copyNDiscard (n : Nat) (s : Stream) : Option ReadError × Stream :=
  let (written, err, s') := discardLoop (n + 1) n s
  if written = n then (none, s')
  else if err = none then (some .eof, s')
  else (err, s')

/-! ### `readFrame` and `recv` -/

/-- `framer.readFrame`: the body of `head`, read through `Conn`, decompressed by `compressor`
when the header says so. -/
def readFrame (compressor : Option (List UInt8 → Option (List UInt8))) (head : FrameHeader)
    (s : Stream) : Except ConnError (List UInt8) × Stream :=
  if head.length < 0 then (.error (.negativeLength head.length), s)
  else if maxFrameSize < head.length then
    match copyNDiscard head.length.toNat s with
    | (some e, s') => (.error (.discardFailed e), s')
    | (none, s') => (.error .frameTooBig, s')
  else
    match connReadFull head.length.toNat s with
    | ((buf, some e), s') => (.error (.bodyReadFailed buf.length head.length e), s')
    | ((buf, none), s') =>
      if head.flags &&& flagCompress = flagCompress then
        match compressor with
        | none => (.error .noCompressor, s')
        | some decode =>
          match decode buf with
          | some body => (.ok body, s')
          | none => (.error .decodeFailed, s')
      else (.ok buf, s')

/-- `Conn.discardFrame`: the body skipped, the reader's error returned as it is. -/
def discardFrame (head : FrameHeader) (s : Stream) : Option ConnError × Stream :=
  match copyNDiscard head.length.toNat s with
  | (some e, s') => (some (.header (.read e)), s')
  | (none, s') => (none, s')

/-- The part of `Conn` that `recv` reads and changes: the stream, the calls waiting on each
stream id (the `streamID` of the `callReq` registered there), and `closed`. -/
structure ConnState where
  stream : Stream
  calls : GoMap Int Int
  closed : Bool

/-- How a call of `recv` ends: with an error, which makes `serve` close the connection, or with
`nil` after handing an event to the session, discarding a frame, or handing a body (or the
error of reading it) to the call of a stream; or with a `panic`. -/
inductive RecvResult where
  | fail (e : ConnError)
  | event (body : List UInt8)
  | discarded
  | delivered (stream : Int) (resp : Except ConnError (List UInt8))
  | panicked
  deriving DecidableEq, Repr

/-- `recv` returned `nil`, and `serve` reads the next header. -/
def RecvResult.isNil : RecvResult → Bool
  | .fail _ | .panicked => false
  | _ => true

/-- The call of the stream was handed the error of reading its body. -/
def RecvResult.deliversError : RecvResult → Bool
  | .delivered _ (.error _) => true
  | _ => false

/-- `Conn.recv`, for a connection of protocol `version` with `numStreams` stream ids. -/
def recv (version : UInt8) (numStreams : Int) (compressor : Option (List UInt8 → Option (List UInt8)))
    (c : ConnState) : RecvResult × ConnState :=
  match readHeader c.stream with
  | (.error e, s) => (.fail (.header e), { c with stream := s })
  | (.ok head, s) =>
    let c := { c with stream := s }
    if numStreams < head.stream then (.fail (.streamOutOfBounds head.stream), c)
    else if head.stream = -1 then
      match readFrame compressor head c.stream with
      | (.error e, s) => (.fail e, { c with stream := s })
      | (.ok body, s) => (.event body, { c with stream := s })
    else if head.stream ≤ 0 then
      match readFrame compressor head c.stream with
      | (.error e, s) => (.fail e, { c with stream := s })
      | (.ok body, s) =>
        match parseFrame version head body with
        | .ok (.error e) => (.fail (.parse e), { c with stream := s })
        | .ok (.ok _) => (.fail .protocolError, { c with stream := s })
        | _ => (.panicked, { c with stream := s })
    else if c.closed then (.fail .connectionClosed, c)
    else
      let call := c.calls.lookup head.stream
      let c := { c with calls := c.calls.erase head.stream }
      match call with
      | none =>
        match discardFrame head c.stream with
        | (some e, s) => (.fail e, { c with stream := s })
        | (none, s) => (.discarded, { c with stream := s })
      | some streamID =>
        if head.stream ≠ streamID then (.panicked, c)
        else
          match readFrame compressor head c.stream with
          | (.error e, s) =>
            -- only a `net.Error` closes the connection
            if e.isNetError then (.fail e, { c with stream := s })
            else (.delivered head.stream (.error e), { c with stream := s })
          | (.ok body, s) => (.delivered head.stream (.ok body), { c with stream := s })

/-- `Conn.serve`'s loop, `for err == nil { err = c.recv(ctx) }`, for at most `rounds` calls: the
results up to and including the first that is not `nil`. -/
def serve (version : UInt8) (numStreams : Int)
    (compressor : Option (List UInt8 → Option (List UInt8))) :
    Nat → ConnState → List RecvResult × ConnState
  | 0, c => ([], c)
  | rounds + 1, c =>
    match recv version numStreams compressor c with
    | (r, c') =>
      if r.isNil then
        let (rs, c'') := serve version numStreams compressor rounds c'
        (r :: rs, c'')
      else ([r], c')

/-- `recv` takes at most one call out of `calls`, and puts none in. -/
theorem recv_calls (version : UInt8) (numStreams : Int)
    (compressor : Option (List UInt8 → Option (List UInt8))) (c : ConnState) :
    (recv version numStreams compressor c).2.calls = c.calls ∨
      ∃ k, (recv version numStreams compressor c).2.calls = c.calls.erase k := by
  unfold recv
  -- every branch returns `c.calls` or, past the `closed` check, `c.calls` without the header's stream
  repeat' (first | split | dsimp only)
  all_goals first | exact .inl rfl | exact .inr ⟨_, rfl⟩

/-! ### What the reads consume

Each reader over the stream returns a prefix of its data (`GoIO.Stream.ReadsPrefix`), all of it
when there is no error; `Conn.Read`'s retries and `io.CopyN`'s chunks keep that. -/

/-- The retries of `Conn.Read` append to what was read: `got` followed by the stream is what the
loop returns followed by the rest. -/
theorem connReadLoop_readsPrefix (n : Nat) :
    ∀ (attempts : Nat) (got : List UInt8) (err : Option ReadError) (s : Stream),
      got.length ≤ n → (err = none → 0 < attempts) →
      Stream.ReadsPrefix n (got ++ s.data) (connReadLoop n attempts got err s)
  | 0, got, err, s, hle, hnone => by
      refine ⟨rfl, hle, fun h => absurd (hnone h) (Nat.lt_irrefl 0)⟩
  | attempts + 1, got, _, s, hle, _ => by
      obtain ⟨hdata, hlen, hok⟩ := Stream.readFull_readsPrefix (n - got.length) s
      simp only [connReadLoop]
      generalize s.readFull (n - got.length) = r at hdata hlen hok
      obtain ⟨⟨nn, err⟩, s₁⟩ := r
      simp only at hdata hlen hok ⊢
      have hle' : (got ++ nn).length ≤ n := by
        rw [List.length_append]; omega
      have hdata' : got ++ s.data = (got ++ nn) ++ s₁.data := by
        rw [hdata, List.append_assoc]
      split
      · refine ⟨hdata', hle', fun _ => ?_⟩
        rw [List.length_append, hok rfl]; omega
      · -- a temporary `net.Error`: the next attempt starts from the bytes read so far
        rw [hdata']
        exact connReadLoop_readsPrefix n attempts _ _ s₁ hle' (fun h => by cases h)
      · exact ⟨hdata', hle', fun h => by cases h⟩

theorem connRead_readsPrefix (n : Nat) (s : Stream) :
    Stream.ReadsPrefix n s.data (connRead n s) :=
  connReadLoop_readsPrefix n 5 [] none s (Nat.zero_le n) (fun _ => by decide)

theorem connReadFull_readsPrefix (n : Nat) (s : Stream) :
    Stream.ReadsPrefix n s.data (connReadFull n s) := by
  obtain ⟨hdata, hlen, hok⟩ := connRead_readsPrefix n s
  unfold connReadFull
  generalize connRead n s = r at hdata hlen hok
  obtain ⟨⟨got, err⟩, s'⟩ := r
  refine ⟨hdata, hlen, fun h => ?_⟩
  simp only at h hlen hok ⊢
  split at h
  · exact Nat.le_antisymm hlen ‹_›
  · split at h
    · cases h
    · exact hok h

/-- `Discard.ReadFrom` consumes the bytes it counts as written. -/
theorem discardLoop_data : ∀ (fuel remaining : Nat) (s : Stream),
    ∃ p, s.data = p ++ (discardLoop fuel remaining s).2.2.data ∧
      p.length = (discardLoop fuel remaining s).1
  | 0, _, s => ⟨[], rfl, rfl⟩
  | fuel + 1, remaining, s => by
    unfold discardLoop
    split
    · exact ⟨[], rfl, rfl⟩
    · obtain ⟨hdata, -, -⟩ := connRead_readsPrefix (min 8192 remaining) s
      generalize connRead (min 8192 remaining) s = r at hdata
      obtain ⟨⟨got, err⟩, s₁⟩ := r
      simp only at hdata ⊢
      split
      · obtain ⟨p, hp, hlen⟩ := discardLoop_data fuel (remaining - got.length) s₁
        generalize discardLoop fuel (remaining - got.length) s₁ = d at hp hlen
        obtain ⟨written, err', s₂⟩ := d
        refine ⟨got ++ p, by rw [hdata, hp, List.append_assoc], ?_⟩
        simp only [List.length_append, hlen]
      · exact ⟨got, hdata, rfl⟩
      · exact ⟨got, hdata, rfl⟩

/-- `io.CopyN` without an error skipped exactly `n` bytes. -/
theorem copyNDiscard_ok {n : Nat} {s s' : Stream} (h : copyNDiscard n s = (none, s')) :
    ∃ p, s.data = p ++ s'.data ∧ p.length = n := by
  obtain ⟨p, hp, hlen⟩ := discardLoop_data (n + 1) n s
  unfold copyNDiscard at h
  generalize discardLoop (n + 1) n s = d at h hp hlen
  obtain ⟨written, err, s₁⟩ := d
  simp only at h hp hlen
  split at h
  · obtain ⟨-, rfl⟩ := Prod.mk.inj h
    exact ⟨p, hp, hlen.trans ‹_›⟩
  · split at h
    · cases h
    · obtain ⟨herr, -⟩ := Prod.mk.inj h
      exact absurd herr ‹_›

/-- **A body read without an error is exactly `head.length` bytes of the stream**, whatever the
compressor makes of them. -/
theorem readFrame_data {compressor : Option (List UInt8 → Option (List UInt8))}
    {head : FrameHeader} {s s' : Stream} {body : List UInt8}
    (h : readFrame compressor head s = (.ok body, s')) :
    ∃ p, s.data = p ++ s'.data ∧ (p.length : Int) = head.length := by
  unfold readFrame at h
  split at h
  · cases h
  · rename_i hnonneg
    split at h
    · split at h <;> cases h
    · obtain ⟨hdata, -, hok⟩ := connReadFull_readsPrefix head.length.toNat s
      generalize connReadFull head.length.toNat s = r at h hdata hok
      obtain ⟨⟨buf, err⟩, s₁⟩ := r
      cases err with
      | some e => cases h
      | none =>
        -- every way on from a whole body leaves the stream right after it
        have hs : s₁ = s' := by
          simp only at h
          split at h
          · split at h
            · cases h
            · split at h
              · exact (Prod.mk.inj h).2
              · cases h
          · exact (Prod.mk.inj h).2
        subst hs
        refine ⟨buf, hdata, ?_⟩
        rw [hok rfl]
        exact Int.toNat_of_nonneg (Int.not_lt.mp hnonneg)

theorem discardFrame_data {head : FrameHeader} {s s' : Stream}
    (h : discardFrame head s = (none, s')) :
    ∃ p, s.data = p ++ s'.data ∧ p.length = head.length.toNat := by
  unfold discardFrame at h
  split at h
  · cases h
  · rename_i s₁ hd
    obtain ⟨-, rfl⟩ := Prod.mk.inj h
    exact copyNDiscard_ok hd

/-! ### Frame boundaries -/

/-- `p` is one whole frame of the server's stream: a header, eight bytes up to protocol 2 and
nine after, and as many body bytes as its length says (none for a negative one, which is what
`discardFrame` skips for it). -/
def IsFrame (p : List UInt8) : Prop :=
  ∃ b₀ hdr body, p = b₀ :: hdr ++ body ∧
    hdr.length + 1 = (if b₀ &&& protoVersionMask < protoVersion3 then 8 else 9) ∧
    body.length = (decodeHeader (b₀ &&& protoVersionMask) (b₀ :: hdr)).length.toNat

/-- A header and a body of the length it gives make a frame. -/
theorem isFrame_of_readHeader {s s₁ s₂ : Stream} {head : FrameHeader} {body : List UInt8}
    (hh : readHeader s = (.ok head, s₁)) (hs : s₁.data = body ++ s₂.data)
    (hbody : body.length = head.length.toNat) :
    ∃ p, IsFrame p ∧ s.data = p ++ s₂.data := by
  obtain ⟨b₀, hdr, hdata, hlen, rfl⟩ := readHeader_data hh
  refine ⟨b₀ :: hdr ++ body, ⟨b₀, hdr, body, rfl, hlen, hbody⟩, ?_⟩
  rw [hdata, hs, List.append_assoc]

theorem isFrame_of_readFrame {compressor : Option (List UInt8 → Option (List UInt8))}
    {s s₁ s₂ : Stream} {head : FrameHeader} {body : List UInt8}
    (hh : readHeader s = (.ok head, s₁)) (hf : readFrame compressor head s₁ = (.ok body, s₂)) :
    ∃ p, IsFrame p ∧ s.data = p ++ s₂.data := by
  obtain ⟨p, hp, hlen⟩ := readFrame_data hf
  exact isFrame_of_readHeader hh hp (by rw [← hlen, Int.toNat_natCast])

/-- **A `recv` that returns `nil` read exactly one frame**, unless it handed the call of the
stream the error of reading the body: that error is wrapped by `fmt.Errorf`, is no `net.Error`,
and the bytes of the body it did not read are left for the next header. -/
theorem recv_nil_frame {version : UInt8} {numStreams : Int}
    {compressor : Option (List UInt8 → Option (List UInt8))} {c c' : ConnState} {r : RecvResult}
    (h : recv version numStreams compressor c = (r, c')) (hnil : r.isNil)
    (herr : r.deliversError = false) :
    ∃ p, IsFrame p ∧ c.stream.data = p ++ c'.stream.data := by
  unfold recv at h
  split at h
  · cases h; cases hnil
  · rename_i head s₁ hh
    dsimp only at h
    split at h
    · cases h; cases hnil
    -- an event
    split at h
    · split at h
      · cases h; cases hnil
      · cases h
        exact isFrame_of_readFrame hh ‹_›
    -- another reserved stream: never `nil`
    split at h
    · split at h
      · cases h; cases hnil
      · split at h <;> (cases h; cases hnil)
    split at h
    · cases h; cases hnil
    -- a stream with no call waiting, or the call's
    split at h
    · split at h
      · cases h; cases hnil
      · cases h
        obtain ⟨p, hp, hlen⟩ := discardFrame_data ‹_›
        exact isFrame_of_readHeader hh hp hlen
    · split at h
      · cases h; cases hnil
      · split at h
        · split at h
          · cases h; cases hnil
          · cases h; cases herr
        · cases h
          exact isFrame_of_readFrame hh ‹_›

/-- **Headers are read at frame boundaries** as long as every `recv` returns `nil` without
handing a call a read error: the stream consumed is a sequence of whole frames, one for each
call. -/
theorem serve_frames {version : UInt8} {numStreams : Int}
    {compressor : Option (List UInt8 → Option (List UInt8))} (rounds : Nat) (c : ConnState)
    (hrs : ∀ r ∈ (serve version numStreams compressor rounds c).1,
      r.isNil ∧ r.deliversError = false) :
    ∃ frames : List (List UInt8), (∀ p ∈ frames, IsFrame p) ∧
      frames.length = (serve version numStreams compressor rounds c).1.length ∧
      c.stream.data =
        frames.flatten ++ (serve version numStreams compressor rounds c).2.stream.data := by
  induction rounds generalizing c with
  | zero => exact ⟨[], (fun _ h => nomatch h), rfl, rfl⟩
  | succ rounds ih =>
    unfold serve at hrs ⊢
    generalize hr : recv version numStreams compressor c = rc at hrs ⊢
    obtain ⟨r, c'⟩ := rc
    by_cases hnil : r.isNil
    · simp only [hnil, if_true] at hrs ⊢
      obtain ⟨-, herr⟩ := hrs r List.mem_cons_self
      obtain ⟨p, hp, hdata⟩ := recv_nil_frame hr hnil herr
      obtain ⟨frames, hframes, hlen, hrest⟩ :=
        ih c' (fun r' h' => hrs r' (List.mem_cons_of_mem r h'))
      refine ⟨p :: frames, ?_, by simp only [List.length_cons, hlen], ?_⟩
      · intro q hq
        cases hq with
        | head => exact hp
        | tail _ hq => exact hframes q hq
      · rw [hdata, hrest, List.flatten_cons, List.append_assoc]
    · exact absurd (hrs r (by simp [hnil])).1 hnil

/-- One frame for stream 1, with a one-byte body, and a call waiting on stream 1. -/
def oneFrameConn : ConnState where
  stream := ⟨[0x84, 0, 0, 1, 0x08, 0, 0, 0, 1, 0x84], [⟨1, none⟩, ⟨8, none⟩, ⟨1, none⟩]⟩
  calls := (∅ : GoMap Int Int).insert 1 1
  closed := false

/-- A round of `serve` on it hands the call the body, and reads the frame whole. -/
theorem serve_oneFrame :
    (∀ r ∈ (serve protoVersion4 32768 none 1 oneFrameConn).1, r.isNil ∧ r.deliversError = false) ∧
      ∃ frames : List (List UInt8), (∀ p ∈ frames, IsFrame p) ∧
        frames.length = (serve protoVersion4 32768 none 1 oneFrameConn).1.length ∧
        oneFrameConn.stream.data = frames.flatten ++ (serve protoVersion4 32768 none 1 oneFrameConn).2.stream.data :=
  have hrs : ∀ r ∈ (serve protoVersion4 32768 none 1 oneFrameConn).1, r.isNil ∧ r.deliversError = false := by
    decide
  ⟨hrs, serve_frames 1 oneFrameConn hrs⟩

/-- A frame for stream 1 whose body read times out after three of its twelve bytes, on every
retry of `Conn.Read`; the rest of its body reads as the header of a frame for stream 2. -/
def timedOutBodyConn : ConnState where
  stream :=
    ⟨[0x84, 0, 0, 1, 0x08, 0, 0, 0, 12] ++ [0, 0, 0, 0x84, 0, 0, 2, 0x08, 0, 0, 0, 1] ++
        [0x84, 0, 0, 2, 0x08, 0, 0, 0, 0],
      [⟨1, none⟩, ⟨8, none⟩, ⟨3, some (.net true)⟩, ⟨0, some (.net true)⟩, ⟨0, some (.net true)⟩,
        ⟨0, some (.net true)⟩, ⟨0, some (.net true)⟩, ⟨1, none⟩, ⟨8, none⟩, ⟨1, none⟩]⟩
  calls := ((∅ : GoMap Int Int).insert 1 1).insert 2 2
  closed := false

theorem serve_timeout_misaligns :
    (recv protoVersion4 32768 none timedOutBodyConn).2.stream.data =
        timedOutBodyConn.stream.data.drop 12 ∧
      (serve protoVersion4 32768 none 2 timedOutBodyConn).1 =
        [.delivered 1 (.error (.bodyReadFailed 3 12 (.net true))), .delivered 2 (.ok [0x84])] := by
  constructor
  · decide
  · decide

end Gocql
