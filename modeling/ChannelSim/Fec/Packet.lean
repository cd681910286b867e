import ChannelSim.Lib.Layout

/-! # FEC packets

`ForwardErrorCorrection::Packet` (`forward_error_correction.h`) and `Packet::Serialize`
(`Channel_sim/forward_error_correction.cpp`). A packet is the 6-byte FEC header (mask, group,
sequence number, `k`, `r`) and a fixed 2000-byte payload array; `Serialize` copies the header fields
in declaration order, the mask in the little-endian layout of a `uint16_t`, then a prefix of the
payload. `serialize_eq` is the one-write form every later proof uses.
-/

namespace ChannelSim
open Lib
set_option autoImplicit false

/-- `Packet::kMaxDataSize`. -/
def kMaxDataSize : ℕ := 2000

/-- `ForwardErrorCorrection::Packet`. -/
structure Packet where
  packetMask : UInt16
  groupNumber : UInt8
  sequenceNumber : UInt8
  k : UInt8
  r : UInt8
  data : Vector UInt8 kMaxDataSize
  deriving DecidableEq

/-- `Packet::Packet()`: every header field and every payload byte zero. -/
def Packet.empty : Packet :=
  ⟨0, 0, 0, 0, 0, Vector.replicate kMaxDataSize 0⟩

/-- `header_size` in `Serialize`: `sizeof` of the five header fields. -/
def Packet.headerSize : ℕ := 2 + 1 + 1 + 1 + 1

/-- The header as `Serialize` lays it out. -/
def Packet.headerBytes (p : Packet) : List UInt8 :=
  le16 p.packetMask ++ [p.groupNumber, p.sequenceNumber, p.k, p.r]

/-- The first `n` payload bytes. -/
def Packet.payload (p : Packet) (n : ℕ) : List UInt8 :=
  p.data.toList.take n

/-- `Packet::Serialize(buffer, buffer_size, payload_size_to_write)`: the returned byte count and the
buffer afterwards. Both checks fail with `0` and leave the buffer alone. -/
def Packet.serialize (p : Packet) (buffer : List UInt8) (bufferSize payloadSizeToWrite : ℕ) :
    ℕ × List UInt8 :=
  let requiredTotalSize := Packet.headerSize + payloadSizeToWrite
  if bufferSize < requiredTotalSize then (0, buffer)
  else if payloadSizeToWrite > kMaxDataSize then (0, buffer)
  else
    let b := writeAt buffer 0 (le16 p.packetMask)
    let b := writeAt b 2 [p.groupNumber]
    let b := writeAt b 3 [p.sequenceNumber]
    let b := writeAt b 4 [p.k]
    let b := writeAt b 5 [p.r]
    (requiredTotalSize, writeAt b 6 (p.payload payloadSizeToWrite))

@[simp] theorem Packet.headerBytes_length (p : Packet) : p.headerBytes.length = 6 := rfl

theorem Packet.payload_length (p : Packet) (n : ℕ) (hn : n ≤ kMaxDataSize) :
    (p.payload n).length = n := by
  simp [Packet.payload, hn]

theorem Packet.getElem?_payload (p : Packet) (n i : ℕ) (hi : i < n) (hn : n ≤ kMaxDataSize) :
    (p.payload n)[i]? = some p.data[i] := by
  simp [Packet.payload, hi, show i < kMaxDataSize by omega]

/-- The field-by-field copies of `Serialize` are one write of the header and the payload prefix,
whenever the buffer really holds the requested bytes. -/
theorem Packet.serialize_eq (p : Packet) (buffer : List UInt8) (bufferSize n : ℕ)
    (hfit : Packet.headerSize + n ≤ bufferSize) (hn : n ≤ kMaxDataSize)
    (hbuf : Packet.headerSize + n ≤ buffer.length) :
    p.serialize buffer bufferSize n =
      (Packet.headerSize + n, writeAt buffer 0 (p.headerBytes ++ p.payload n)) := by
  have hsize : Packet.headerSize = 6 := rfl
  have h2 := writeAt_writeAt buffer (le16 p.packetMask) [p.groupNumber] 0 (by simp; omega)
  have h3 := writeAt_writeAt buffer (le16 p.packetMask ++ [p.groupNumber]) [p.sequenceNumber] 0
    (by simp; omega)
  have h4 := writeAt_writeAt buffer (le16 p.packetMask ++ [p.groupNumber] ++ [p.sequenceNumber])
    [p.k] 0 (by simp; omega)
  have h5 := writeAt_writeAt buffer
    (le16 p.packetMask ++ [p.groupNumber] ++ [p.sequenceNumber] ++ [p.k]) [p.r] 0 (by simp; omega)
  have h6 := writeAt_writeAt buffer
    (le16 p.packetMask ++ [p.groupNumber] ++ [p.sequenceNumber] ++ [p.k] ++ [p.r])
    (p.payload n) 0 (by simp; omega)
  simp only [Nat.zero_add, List.length_append, le16_length, List.length_singleton] at h2 h3 h4 h5 h6
  simp only [Packet.serialize, show ¬bufferSize < Packet.headerSize + n by omega,
    show ¬n > kMaxDataSize by omega, if_false, h2, h3, h4, h5, h6, Packet.headerBytes]
  simp

end ChannelSim
