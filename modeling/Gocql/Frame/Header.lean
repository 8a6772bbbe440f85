import Gocql.Support.BigEndian
import Gocql.Support.Stream

/-!
# Frame — the frame header

Every frame starts with a header: the protocol version with its direction bit, the flags, the
stream id (one byte up to protocol 2, two bytes after), the opcode and the body length.
`readHeader` reads the first byte, checks the version, and reads the rest of the header for
that version, both through `io.ReadFull` on the connection's buffered reader.

* `decodeHeader`: the fields of a header from its bytes.
* `readHeader`: the read, over a `GoIO.Stream`.
* `readHeader_data`: an accepted header is decoded from the bytes it consumed, eight or nine
  of them.
-/

namespace Gocql

open GoIO

/-! ### Protocol constants -/

def protoVersion1 : UInt8 := 0x01
def protoVersion2 : UInt8 := 0x02
def protoVersion3 : UInt8 := 0x03
def protoVersion4 : UInt8 := 0x04
def protoVersion5 : UInt8 := 0x05
def protoDirectionMask : UInt8 := 0x80
def protoVersionMask : UInt8 := 0x7F

def flagCompress : UInt8 := 0x01
def flagTracing : UInt8 := 0x02
def flagCustomPayload : UInt8 := 0x04
def flagWarning : UInt8 := 0x08

def opError : UInt8 := 0x00
def opReady : UInt8 := 0x02
def opAuthenticate : UInt8 := 0x03
def opSupported : UInt8 := 0x06
def opResult : UInt8 := 0x08
def opEvent : UInt8 := 0x0C
def opAuthChallenge : UInt8 := 0x0E
def opAuthSuccess : UInt8 := 0x10

/-- `maxFrameSize`. -/
def maxFrameSize : Int := 256 * 1024 * 1024

/-- `frameHeader`, with the warnings `parseFrame` stores in it. -/
structure FrameHeader where
  version : UInt8
  flags : UInt8
  stream : Int
  op : UInt8
  length : Int
  warnings : List (List UInt8)
  deriving DecidableEq, Repr

/-- The zero `frameHeader`. -/
def FrameHeader.zero : FrameHeader := ⟨0, 0, 0, 0, 0, []⟩

/-- The errors of `readHeader`: the reader's, returned as they are, and the version check's. -/
inductive HeaderError where
  | read (e : ReadError)
  /-- `gocql: unsupported protocol response version: …` -/
  | unsupportedVersion (version : UInt8)
  deriving DecidableEq, Repr

/-- The fields of a header from its bytes `p`: a one-byte stream id up to protocol 2, a
two-byte one after; the length is `readInt` of the last four bytes. -/
def decodeHeader (version : UInt8) (p : List UInt8) : FrameHeader :=
  if protoVersion2 < version then
    ⟨p.getD 0 0, p.getD 1 0, BigEndian.sval [p.getD 2 0, p.getD 3 0], p.getD 4 0,
      BigEndian.sval (p.drop 5), []⟩
  else
    ⟨p.getD 0 0, p.getD 1 0, BigEndian.sbyte (p.getD 2 0), p.getD 3 0,
      BigEndian.sval (p.drop 4), []⟩

/-- `readHeader`. -/
def readHeader (s : Stream) : Except HeaderError FrameHeader × Stream :=
  let ((p₀, err), s) := s.readFull 1
  match err with
  | some e => (.error (.read e), s)
  | none =>
    let b₀ := p₀.getD 0 0
    let version := b₀ &&& protoVersionMask
    if version < protoVersion1 ∨ protoVersion5 < version then
      (.error (.unsupportedVersion version), s)
    else
      let headSize := if version < protoVersion3 then 8 else 9
      let ((p, err), s) := s.readFull (headSize - 1)
      match err with
      | some e => (.error (.read e), s)
      | none => (.ok (decodeHeader version (b₀ :: p)), s)

/-- **An accepted header is the bytes it consumed**: its first byte, then seven or eight more
as that byte's version says, and the stream goes on right after them. -/
theorem readHeader_data {s s' : Stream} {head : FrameHeader} (h : readHeader s = (.ok head, s')) :
    ∃ b₀ p, s.data = b₀ :: p ++ s'.data ∧
      p.length + 1 = (if b₀ &&& protoVersionMask < protoVersion3 then 8 else 9) ∧
      head = decodeHeader (b₀ &&& protoVersionMask) (b₀ :: p) := by
  unfold readHeader at h
  have hd₁ := Stream.readFull_data 1 s
  have hok₁ := @Stream.readFull_ok 1 s
  generalize s.readFull 1 = r₁ at h hd₁ hok₁
  obtain ⟨⟨p₀, err₀⟩, s₁⟩ := r₁
  cases err₀ with
  | some e => cases h
  | none =>
    simp only at h hd₁ hok₁
    obtain ⟨b₀, rfl⟩ := List.length_eq_one_iff.mp (hok₁ trivial)
    simp only [List.getD_cons_zero] at h
    split at h
    · cases h
    · -- the rest of the header, its size fixed by the version in the first byte
      generalize hsize : (if b₀ &&& protoVersionMask < protoVersion3 then 8 else 9) = size at h
      have hd₂ := Stream.readFull_data (size - 1) s₁
      have hok₂ := @Stream.readFull_ok (size - 1) s₁
      generalize s₁.readFull (size - 1) = r₂ at h hd₂ hok₂
      obtain ⟨⟨p, err⟩, s₂⟩ := r₂
      cases err with
      | some e => cases h
      | none =>
        simp only at h hd₂ hok₂
        obtain ⟨hhead, rfl⟩ := Prod.mk.inj h
        cases hhead
        refine ⟨b₀, p, by rw [hd₁.1, hd₂.1]; rfl, ?_, rfl⟩
        rw [hok₂ trivial, ← hsize]
        split <;> rfl

end Gocql
