import ChannelSim.Fec.Tables
import ChannelSim.Lib.Layout

/-! # Packet masks

`PacketMaskSize`, `PacketMaskTable::PickTable`, `LookUpInFecTable`, `PacketMaskTable::LookUp` and
`GeneratePacketMasks` (`Channel_sim/forward_error_correction.cpp`, lines 20–292). A mask has one
row per FEC packet and one bit per media packet, most significant bit first. Up to 12 media
packets the rows are a view into one of the two shipped tables; from 13 on `LookUp` computes
interleaved rows (media packet `X` protected by FEC packet `X % r`).

`LookUpInFecTable` keeps its two skip loops as folds over the loop counter; the block width
`entry_size_increment` switches from 2 to 6 at entry 16, once inside the loop and once after it.
-/

namespace ChannelSim
open Lib
set_option autoImplicit false

/-- `FecMaskType`. -/
inductive FecMaskType
  | kFecMaskRandom
  | kFecMaskBursty
  deriving DecidableEq, Repr

def kUlpfecMaxMediaPackets : ℕ := 48

def kUlpfecPacketMaskSizeLBitClear : ℕ := 2

def kUlpfecPacketMaskSizeLBitSet : ℕ := 6

def kUlpfecMaxPacketMaskSize : ℕ := kUlpfecPacketMaskSizeLBitSet

/-- `PacketMaskSize`: bytes per mask row. -/
def packetMaskSize (numSequenceNumbers : ℕ) : ℕ :=
  if numSequenceNumbers > 8 * kUlpfecPacketMaskSizeLBitClear then kUlpfecPacketMaskSizeLBitSet
  else kUlpfecPacketMaskSizeLBitClear

/-- `PacketMaskTable::PickTable`: the bursty table only for a bursty request it covers. -/
def pickTable (fecMaskType : FecMaskType) (numMediaPackets : ℕ) : List UInt8 :=
  if fecMaskType ≠ .kFecMaskRandom ∧ numMediaPackets ≤ (kPacketMaskBurstyTbl.getD 0 0).toNat then
    kPacketMaskBurstyTbl
  else kPacketMaskRandomTbl

/-- `rtc::ArrayView<const uint8_t>` into a table: where it starts and how many bytes it spans. -/
structure ArrayView where
  offset : ℕ
  size : ℕ
  deriving DecidableEq, Repr

/-- The bytes a view shows of the table it points into. -/
def ArrayView.read (v : ArrayView) (table : List UInt8) : List UInt8 :=
  (table.drop v.offset).take v.size

/-- `for (int j = 0; j < count; ++j) entry += entry_size_increment * (j + 1);` -/
def skipBlocks (entrySizeIncrement count entry : ℕ) : ℕ :=
  (List.range count).foldl (fun entry j => entry + entrySizeIncrement * (j + 1)) entry

theorem skipBlocks_eq (entrySizeIncrement count entry : ℕ) :
    skipBlocks entrySizeIncrement count entry =
      entry + ((List.range count).map fun j => entrySizeIncrement * (j + 1)).sum :=
  foldl_range_add _ count entry

/-- One pass of the outer hop in `LookUpInFecTable`, on `(entry, entry_size_increment)`: switch
to 6-byte blocks at entry 16, read the count byte, step over it and over the blocks. -/
def hopEntry (table : List UInt8) (acc : ℕ × ℕ) (i : ℕ) : ℕ × ℕ :=
  let entrySizeIncrement := if i = 16 then 6 else acc.2
  let count := (table.getD acc.1 0).toNat
  (skipBlocks entrySizeIncrement count (acc.1 + 1), entrySizeIncrement)

/-- `LookUpInFecTable(table, media_packet_index, fec_index)`. -/
def lookUpInFecTable (table : List UInt8) (mediaPacketIndex fecIndex : ℕ) : ArrayView :=
  -- `entry = &table[1]`, `entry_size_increment = 2`, then the hop over earlier entries
  let hop := (List.range mediaPacketIndex).foldl (hopEntry table) (1, 2)
  let entrySizeIncrement := if mediaPacketIndex = 16 then 6 else hop.2
  -- skip the count byte, then the blocks before `fec_index`
  let entry := skipBlocks entrySizeIncrement fecIndex (hop.1 + 1)
  ⟨entry, entrySizeIncrement * (fecIndex + 1)⟩

/-- `PacketMaskTable`: the table `PickTable` chose. Its scratch array `fec_packet_mask_` only
holds what `LookUp` computes and returns, so it is not state here. -/
structure PacketMaskTable where
  table : List UInt8

/-- `PacketMaskTable::PacketMaskTable(fec_mask_type, num_media_packets)`. -/
def PacketMaskTable.ofType (fecMaskType : FecMaskType) (numMediaPackets : ℕ) : PacketMaskTable :=
  ⟨pickTable fecMaskType numMediaPackets⟩

/-- Byte `col` of row `row` of the interleaved mask `LookUp` computes for 13 or more media
packets: bit `7 - b` is set when media packet `8 * col + b` exists and `(8 * col + b) % r = row`. -/
def interleavedMaskByte (numMediaPackets numFecPackets row col : ℕ) : UInt8 :=
  let bit (b : ℕ) (v : UInt8) : UInt8 :=
    if (col * 8 + b) % numFecPackets = row ∧ col * 8 + b < numMediaPackets then v else 0x00
  bit 0 0x80 ||| bit 1 0x40 ||| bit 2 0x20 ||| bit 3 0x10 ||| bit 4 0x08 ||| bit 5 0x04 |||
    bit 6 0x02 ||| bit 7 0x01

/-- `PacketMaskTable::LookUp(num_media_packets, num_fec_packets)`: the bytes of the view it returns. -/
def PacketMaskTable.lookUp (t : PacketMaskTable) (numMediaPackets numFecPackets : ℕ) :
    List UInt8 :=
  if numMediaPackets ≤ 12 then
    (lookUpInFecTable t.table (numMediaPackets - 1) (numFecPackets - 1)).read t.table
  else
    let maskLength := packetMaskSize numMediaPackets
    (List.range numFecPackets).flatMap fun row =>
      (List.range maskLength).map fun col => interleavedMaskByte numMediaPackets numFecPackets row col

/-- `GeneratePacketMasks`: with equal protection the looked-up mask is copied to the front of
`packet_mask`; with unequal protection and important packets nothing is written. -/
def generatePacketMasks {n : ℕ} (numMediaPackets numFecPackets numImpPackets : ℕ)
    (useUnequalProtection : Bool) (maskTable : PacketMaskTable) (packetMask : Vector UInt8 n) :
    Vector UInt8 n :=
  if !useUnequalProtection || numImpPackets = 0 then
    writeVec packetMask 0 (maskTable.lookUp numMediaPackets numFecPackets)
  else packetMask

end ChannelSim
