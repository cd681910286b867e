import ChannelSim.Fec.Packet
import ChannelSim.Fec.Masks

/-! # The FEC encoder

`ForwardErrorCorrection` (`forward_error_correction.h`) with `EncodeFec`, `XorPayloads`,
`SendByUlpfec` and `PacketByFEC` from `Channel_sim/forward_error_correction.cpp`, and the
`PacketByFEC` of `FEC_Encode/forward_error_correction.cpp`, which differs only after a group is
complete: it neither clears `media_packets` nor the FEC list.

The file-scope statics of the translation unit are part of the state here (`packetSize`) or
constants (`fecMaskType`); the members `kNumImportantPackets` and `kUseUnequalProtection` are never
assigned and are constants too. Reads outside an array (undefined in the source, and unreachable
from the stream functions) read `0`.
-/

namespace ChannelSim
open Lib
set_option autoImplicit false

/-- The translation unit's `static FecMaskType fec_mask_type = kFecMaskRandom`. -/
def fecMaskType : FecMaskType := .kFecMaskRandom

/-- The member `kNumImportantPackets`, `0` and never assigned. -/
def kNumImportantPackets : ℕ := 0

/-- The member `kUseUnequalProtection`, `false` and never assigned. -/
def kUseUnequalProtection : Bool := false

/-- Size of the member array `packet_masks_`. -/
def packetMasksSize : ℕ := kUlpfecMaxMediaPackets * kUlpfecMaxPacketMaskSize

/-- The state of a `ForwardErrorCorrection` object. `packetSize` is the translation unit's
`static int packet_size`, latched by the first call. -/
structure ForwardErrorCorrection where
  mediaPackets : List Packet
  bufferPackets : List Packet
  packetMasks : Vector UInt8 packetMasksSize
  fecFirstUse : Bool
  fecLastUse : Bool
  fecPackets : List Packet
  groupNumber : ℕ
  sequenceNumber : ℕ
  packetSize : ℕ
  deriving DecidableEq

namespace ForwardErrorCorrection

/-- A freshly constructed encoder. `packet_masks_` has no initializer, so its bytes are whatever
`stale` holds; `packet_size` is zero-initialised. -/
def init (stale : Vector UInt8 packetMasksSize) : ForwardErrorCorrection where
  mediaPackets := []
  bufferPackets := []
  packetMasks := stale
  fecFirstUse := true
  fecLastUse := false
  fecPackets := []
  groupNumber := 0
  sequenceNumber := 0
  packetSize := 0

/-- `XorPayloads(src, dst, length)`: `dst[i] ^= src[i]` for `i < length`. -/
def xorPayloads (src dst : Vector UInt8 kMaxDataSize) (length : ℕ) : Vector UInt8 kMaxDataSize :=
  Vector.ofFn fun i => if i.val < length then dst[i] ^^^ src[i] else dst[i]

/-- The test `packet_masks_[index] & (1 << shift)` of `EncodeFec`. -/
def maskBit (packetMasks : Vector UInt8 packetMasksSize) (index shift : ℕ) : Bool :=
  ((packetMasks.toList.getD index 0).toNat &&& (1 <<< shift)) != 0

/-- The inner loop of `EncodeFec` over `media_packets`, `j` counting them: every media packet
whose bit is set in the row starting at `rowStart` is XORed into `dst`. -/
def xorCovered (packetMasks : Vector UInt8 packetMasksSize) (rowStart packetSize : ℕ) :
    ℕ → List Packet → Vector UInt8 kMaxDataSize → Vector UInt8 kMaxDataSize
  | _, [], dst => dst
  | j, m :: ms, dst =>
    xorCovered packetMasks rowStart packetSize (j + 1) ms
      (if maskBit packetMasks (rowStart + j / 8) (7 - j % 8) then
        xorPayloads m.data dst packetSize
      else dst)

/-- One pass of `EncodeFec`'s second loop, on `(sequence_number, fec_packets)`: pop the front
packet, XOR the media packets of row `i` into it, copy its header mask from row
`sequence_number - num_media_packets`, number it, and push it to the back. -/
def encodeFecRow (s : ForwardErrorCorrection) (packetMasks : Vector UInt8 packetMasksSize)
    (mediaPackets : List Packet) (numFecPackets maskSize : ℕ) (acc : ℕ × List Packet) (i : ℕ) :
    ℕ × List Packet :=
  match acc.2 with
  | [] => acc
  | fec :: rest =>
    let headerRow := (acc.1 - mediaPackets.length) * maskSize
    let fec : Packet :=
      { data := xorCovered packetMasks (i * maskSize) s.packetSize 0 mediaPackets fec.data
        packetMask := ofLe16 (packetMasks.toList.getD headerRow 0)
          (packetMasks.toList.getD (headerRow + 1) 0)
        groupNumber := UInt8.ofNat s.groupNumber
        sequenceNumber := UInt8.ofNat acc.1
        k := UInt8.ofNat mediaPackets.length
        r := UInt8.ofNat numFecPackets }
    (acc.1 + 1, rest ++ [fec])

/-- `EncodeFec(media_packets, r, num_important_packets, use_unequal_protection, fec_mask_type,
fec_packets)`: the return value, the encoder afterwards, and the FEC list afterwards. -/
def encodeFec (s : ForwardErrorCorrection) (mediaPackets : List Packet)
    (r numImportantPackets : ℕ) (useUnequalProtection : Bool) (fecMaskType : FecMaskType)
    (fecPackets : List Packet) : ℕ × ForwardErrorCorrection × List Packet :=
  let numMediaPackets := mediaPackets.length
  let numFecPackets := r
  if numFecPackets = 0 then (0, s, fecPackets)
  else
    let fecPackets := fecPackets ++ List.replicate numFecPackets Packet.empty
    let maskTable := PacketMaskTable.ofType fecMaskType numMediaPackets
    let maskSize := packetMaskSize numMediaPackets
    let masks := writeVec s.packetMasks 0 (List.replicate (numFecPackets * maskSize) 0)
    let masks := generatePacketMasks numMediaPackets numFecPackets numImportantPackets
      useUnequalProtection maskTable masks
    let loop := (List.range numFecPackets).foldl
      (encodeFecRow s masks mediaPackets numFecPackets maskSize) (s.sequenceNumber, fecPackets)
    (numFecPackets, { s with packetMasks := masks, sequenceNumber := loop.1 }, loop.2)

/-- The byte `PacketByFEC` and `SendByUlpfec` copy from `buf` at position `i`, after
`memset(buf + len, 0, packet_size - len)` has cleared `[len, packet_size)`. -/
def paddedByte (buf : List UInt8) (len packetSize i : ℕ) : UInt8 :=
  if len ≤ i ∧ i < packetSize then 0 else buf.getD i 0

/-- The start `SendByUlpfec` and both `PacketByFEC`s share: latch `packet_size` on first use, flag
a short packet, build the media packet from the current numbers and the first `packet_size`
bytes of `buf`, and count it. -/
def prepareMediaPacket (s : ForwardErrorCorrection) (buf : List UInt8) (len k r : ℕ) :
    ForwardErrorCorrection × Packet :=
  let s := if s.fecFirstUse then { s with packetSize := len, fecFirstUse := false } else s
  let s := if len < s.packetSize then { s with fecLastUse := true } else s
  let packet : Packet :=
    { packetMask := 0
      groupNumber := UInt8.ofNat s.groupNumber
      sequenceNumber := UInt8.ofNat s.sequenceNumber
      k := UInt8.ofNat k
      r := UInt8.ofNat r
      data := Vector.ofFn fun i => if i.val < s.packetSize then paddedByte buf len s.packetSize i else 0 }
  ({ s with sequenceNumber := s.sequenceNumber + 1 }, packet)

/-- `ForwardErrorCorrection::PacketByFEC(buf, len, k, r)` of `Channel_sim/`. -/
def packetByFEC (s : ForwardErrorCorrection) (buf : List UInt8) (len k r : ℕ) :
    ForwardErrorCorrection :=
  let (s, packet) := prepareMediaPacket s buf len k r
  let s := { s with mediaPackets := s.mediaPackets ++ [packet],
                    bufferPackets := s.bufferPackets ++ [packet] }
  if s.mediaPackets.length = k then
    let enc := encodeFec s s.mediaPackets r kNumImportantPackets kUseUnequalProtection fecMaskType
      s.fecPackets
    let s := enc.2.1
    { s with bufferPackets := s.bufferPackets ++ enc.2.2, groupNumber := s.groupNumber + 1,
             sequenceNumber := 0, mediaPackets := [], fecPackets := [] }
  else s

/-- `ForwardErrorCorrection::PacketByFEC(buf, len, k, r)` of `FEC_Encode/`: after a complete group
it keeps `media_packets` and the FEC list. -/
def packetByFECFecEncode (s : ForwardErrorCorrection) (buf : List UInt8) (len k r : ℕ) :
    ForwardErrorCorrection :=
  let (s, packet) := prepareMediaPacket s buf len k r
  let s := { s with mediaPackets := s.mediaPackets ++ [packet],
                    bufferPackets := s.bufferPackets ++ [packet] }
  if s.mediaPackets.length = k then
    let enc := encodeFec s s.mediaPackets r kNumImportantPackets kUseUnequalProtection fecMaskType
      s.fecPackets
    let s := enc.2.1
    { s with fecPackets := enc.2.2, bufferPackets := s.bufferPackets ++ enc.2.2,
             groupNumber := s.groupNumber + 1, sequenceNumber := 0 }
  else s

/-- The datagram `SendByUlpfec` hands to `sendto` for a packet: the header and `packet_size`
payload bytes. -/
def datagram (p : Packet) (packetSize : ℕ) : List UInt8 :=
  p.headerBytes ++ p.payload packetSize

/-- The FEC send loop of `SendByUlpfec`: `sendOk n` is what the `n`-th `sendto` of the call
returned (`false` for `SOCKET_ERROR`). The datagrams handed over, and whether the loop ran to its
end rather than returning early. -/
def sendFecPackets (sendOk : ℕ → Bool) (packetSize : ℕ) : ℕ → List Packet → List (List UInt8) × Bool
  | _, [] => ([], true)
  | n, f :: fs =>
    if sendOk n then
      let rest := sendFecPackets sendOk packetSize (n + 1) fs
      (datagram f packetSize :: rest.1, rest.2)
    else ([datagram f packetSize], false)

/-- The tail of `SendByUlpfec` after the last packet of the file (`fec_last_use`): drop the
unfinished group's media packets. -/
def dropUnfinishedGroup (s : ForwardErrorCorrection) : ForwardErrorCorrection :=
  if s.fecLastUse ∧ s.mediaPackets ≠ [] then { s with mediaPackets := [] } else s

/-- `ForwardErrorCorrection::SendByUlpfec(so, buf, len, flags, to, tolen, k, r, bitrate)`: the
encoder afterwards and the datagrams handed to `sendto`, in order. `sendOk` gives the outcome of
each `sendto` of the call; the pacing sleeps and the counters only printed are not modelled. -/
def sendByUlpfec (s : ForwardErrorCorrection) (buf : List UInt8) (len k r : ℕ) (sendOk : ℕ → Bool) :
    ForwardErrorCorrection × List (List UInt8) :=
  let (s, packet) := prepareMediaPacket s buf len k r
  let sendBuffer := datagram packet s.packetSize
  let s := { s with mediaPackets := s.mediaPackets ++ [packet] }
  -- a failed media `sendto` returns at once
  if !sendOk 0 then (s, [sendBuffer])
  else if s.mediaPackets.length = k then
    let enc := encodeFec s s.mediaPackets r kNumImportantPackets kUseUnequalProtection fecMaskType
      s.fecPackets
    let s := { enc.2.1 with fecPackets := enc.2.2 }
    let loop := sendFecPackets sendOk s.packetSize 1 s.fecPackets
    if loop.2 then
      let cleared := { s with mediaPackets := [], fecPackets := [],
                              groupNumber := s.groupNumber + 1, sequenceNumber := 0 }
      (dropUnfinishedGroup cleared, sendBuffer :: loop.1)
    -- a failed FEC `sendto` returns before the group is cleared
    else (s, sendBuffer :: loop.1)
  else (dropUnfinishedGroup s, [sendBuffer])

end ForwardErrorCorrection

end ChannelSim
