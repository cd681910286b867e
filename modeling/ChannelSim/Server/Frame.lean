import ChannelSim.Server.Udpserver

/-! # The datagrams of `socketWorkerTask`

A `SendPacket` describes a frame: the 6-byte FEC header, `n = actual_payload_size` payload bytes
and a 7-byte trailer (`crc32`, `stream_type`, `channel_index`, `seq`), `wireFrame`. A receiver
reads the header at the start of a datagram and the trailer at its end, `readFrame`, and gets the
fields back from a frame (`readFrame_wireFrame`).

The worker writes exactly that frame into `send_buffer`, at offset `0`, and hands `sendto`
`total_length` bytes of the buffer, 1037 whatever `n` is (`workerFrame_of_le`). Below `n = 1024`
the datagram is the frame followed by `1024 - n` bytes of the uninitialised stack buffer, and the
receiver's trailer is read from those bytes (`workerSend_frame_stale_tail`).
-/

namespace ChannelSim
open Lib
set_option autoImplicit false

/-- What a receiver reads from a datagram: the FEC header at its start, the payload, and the
`packet_header_size` trailer bytes at its end. -/
def readFrame (d : List UInt8) : List UInt8 × List UInt8 × List UInt8 :=
  (d.take Packet.headerSize,
    (d.drop Packet.headerSize).take (d.length - Packet.headerSize - packetHeaderSize),
    d.drop (d.length - packetHeaderSize))

/-- The 7-byte trailer of `sp`: `crc32`, `stream_type`, `channel_index`, `seq`. -/
def trailerBytes (sp : SendPacket) : List UInt8 :=
  le32 sp.crc32 ++ [sp.streamType, sp.channelIndex, sp.seq]

/-- The frame the fields of `sp` describe, with `n` payload bytes of `p`. -/
def wireFrame (p : Packet) (n : ℕ) (sp : SendPacket) : List UInt8 :=
  p.headerBytes ++ p.payload n ++ trailerBytes sp

theorem length_wireFrame (p : Packet) {n : ℕ} (hn : n ≤ kMaxDataSize) (sp : SendPacket) :
    (wireFrame p n sp).length = n + 13 := by
  simp [wireFrame, trailerBytes, Packet.payload_length p n hn]
  omega

theorem readFrame_wireFrame (p : Packet) {n : ℕ} (hn : n ≤ kMaxDataSize) (sp : SendPacket) :
    readFrame (wireFrame p n sp) = (p.headerBytes, p.payload n, trailerBytes sp) := by
  have hpay := Packet.payload_length p n hn
  have hhead : p.headerBytes.length = Packet.headerSize := rfl
  have hframe : wireFrame p n sp = p.headerBytes ++ (p.payload n ++ trailerBytes sp) := by
    simp [wireFrame, trailerBytes]
  have hlen : (wireFrame p n sp).length = Packet.headerSize + n + packetHeaderSize := by
    rw [length_wireFrame p hn sp]
    simp only [Packet.headerSize, packetHeaderSize]
    omega
  have hheader : (wireFrame p n sp).take Packet.headerSize = p.headerBytes := by
    rw [hframe, ← hhead, List.take_left]
  have hpayload : ((wireFrame p n sp).drop Packet.headerSize).take
      ((wireFrame p n sp).length - Packet.headerSize - packetHeaderSize) = p.payload n := by
    rw [hlen, show Packet.headerSize + n + packetHeaderSize - Packet.headerSize - packetHeaderSize = n
      by omega, hframe, ← hhead, List.drop_left, List.take_left' hpay]
  have htrailer : (wireFrame p n sp).drop ((wireFrame p n sp).length - packetHeaderSize) =
      trailerBytes sp := by
    rw [hlen, hframe, ← List.append_assoc]
    apply List.drop_left'
    simp [hpay, hhead]
  simp only [readFrame, hheader, hpayload, htrailer]

/-! ## The buffer `sendto` is given -/

theorem workerFrame_eq (stale : List UInt8) (sp : SendPacket) {p : Packet}
    (hp : sp.packetToSend = some p) (hn : sp.actualPayloadSize ≤ kMaxDataSize)
    (hfit : sp.actualPayloadSize + 13 ≤ stale.length) :
    Udpserver.workerFrame stale sp =
      some ((wireFrame p sp.actualPayloadSize sp ++ stale.drop (sp.actualPayloadSize + 13)).take
        totalLength) := by
  have hpay := Packet.payload_length p sp.actualPayloadSize hn
  have hser := p.serialize_eq stale (sp.actualPayloadSize + fecHeaderSize) sp.actualPayloadSize
    (by simp [Packet.headerSize, fecHeaderSize]; omega) hn
    (by simp [Packet.headerSize]; omega)
  have hbody : (p.headerBytes ++ p.payload sp.actualPayloadSize).length =
      sp.actualPayloadSize + 6 := by
    simp [hpay]
    omega
  have hcount : Packet.headerSize + sp.actualPayloadSize = sp.actualPayloadSize + fecHeaderSize := by
    simp only [Packet.headerSize, fecHeaderSize]
    omega
  -- the four trailer writes continue the serialized bytes
  have hfec : fecHeaderSize = 6 := rfl
  have hcrc := @writeAt_writeAt_of_eq _ stale (p.headerBytes ++ p.payload sp.actualPayloadSize)
    (le32 sp.crc32) 0 (sp.actualPayloadSize + fecHeaderSize) (by rw [hbody, hfec]; omega)
    (by rw [hbody]; omega)
  have hstream := @writeAt_writeAt_of_eq _ stale
    (p.headerBytes ++ p.payload sp.actualPayloadSize ++ le32 sp.crc32) [sp.streamType] 0
    (sp.actualPayloadSize + fecHeaderSize + 4) (by simp [hfec]; omega)
    (by simp; omega)
  have hchannel := @writeAt_writeAt_of_eq _ stale
    (p.headerBytes ++ p.payload sp.actualPayloadSize ++ le32 sp.crc32 ++ [sp.streamType])
    [sp.channelIndex] 0 (sp.actualPayloadSize + fecHeaderSize + 4 + 1) (by simp [hfec]; omega)
    (by simp; omega)
  have hseq := @writeAt_writeAt_of_eq _ stale
    (p.headerBytes ++ p.payload sp.actualPayloadSize ++ le32 sp.crc32 ++ [sp.streamType] ++
      [sp.channelIndex]) [sp.seq] 0 (sp.actualPayloadSize + fecHeaderSize + 4 + 1 + 1)
    (by simp [hfec]; omega) (by simp; omega)
  have hframe : p.headerBytes ++ p.payload sp.actualPayloadSize ++ le32 sp.crc32 ++ [sp.streamType] ++
      [sp.channelIndex] ++ [sp.seq] = wireFrame p sp.actualPayloadSize sp := by
    simp [wireFrame, trailerBytes]
  simp only [Udpserver.workerFrame, hp, hser, if_pos hcount]
  rw [hcrc, hstream, hchannel, hseq, writeAt_zero, hframe, length_wireFrame p hn sp]

theorem totalLength_eq : totalLength = 1037 := rfl

theorem workerFrame_of_le (stale : List UInt8) (hstale : stale.length = 2000) (sp : SendPacket)
    {p : Packet} (hp : sp.packetToSend = some p) (hn : sp.actualPayloadSize ≤ 1024) :
    Udpserver.workerFrame stale sp =
      some (wireFrame p sp.actualPayloadSize sp ++
        (stale.drop (sp.actualPayloadSize + 13)).take (1024 - sp.actualPayloadSize)) := by
  have hmax : sp.actualPayloadSize ≤ kMaxDataSize := by simp only [kMaxDataSize]; omega
  have hlen := length_wireFrame p hmax sp
  rw [workerFrame_eq stale sp hp hmax (by omega), List.take_append,
    List.take_of_length_le (by rw [hlen, totalLength_eq]; omega), hlen, totalLength_eq,
    show 1037 - (sp.actualPayloadSize + 13) = 1024 - sp.actualPayloadSize by omega]

theorem length_stale_datagram (p : Packet) (sp : SendPacket) (stale : List UInt8)
    (hstale : stale.length = 2000) (hn : sp.actualPayloadSize ≤ 1024) :
    (wireFrame p sp.actualPayloadSize sp ++
      (stale.drop (sp.actualPayloadSize + 13)).take (1024 - sp.actualPayloadSize)).length =
        totalLength := by
  have hmax : sp.actualPayloadSize ≤ kMaxDataSize := by simp only [kMaxDataSize]; omega
  rw [List.length_append, length_wireFrame p hmax sp, List.length_take, List.length_drop, hstale,
    totalLength_eq]
  omega

/-! ## Phase 3 of a worker pass -/

theorem workerSend_of_kept (s : Udpserver) (socketIndex : ℕ) (sp : SendPacket) (draw : ℚ)
    (stale : List UInt8) (hvalid : sp.packetToSend.isSome ∧ 0 < sp.actualPayloadSize)
    (hkeep : ¬ (0 < (s.channelAt socketIndex).lossRate ∧ draw < (s.channelAt socketIndex).lossRate)) :
    Udpserver.workerSend s socketIndex sp draw stale =
      ({ s with globalSeqCounter := s.globalSeqCounter + 1 },
        Udpserver.workerFrame stale { sp with seq := s.globalSeqCounter }) := by
  simp only [Udpserver.workerSend, if_pos hvalid, if_neg hkeep]

theorem workerSend_of_dropped (s : Udpserver) (socketIndex : ℕ) (sp : SendPacket) (draw : ℚ)
    (stale : List UInt8)
    (hdrop : 0 < (s.channelAt socketIndex).lossRate ∧ draw < (s.channelAt socketIndex).lossRate) :
    Udpserver.workerSend s socketIndex sp draw stale = (s, none) := by
  simp only [Udpserver.workerSend, hdrop, and_self, if_true, ite_self]

/-- `socketWorkerTask`'s datagram for a packet of `n` bytes, `16 ≤ n ≤ 1024`, that the loss
simulation keeps: the frame its fields describe, with the `seq` just drawn, followed by the
`1024 - n` bytes of `send_buffer` behind it, `total_length` bytes in all. It is the frame only
for `n = 1024`; otherwise a receiver reads the trailer out of the stale bytes. -/
theorem workerSend_frame_stale_tail (s : Udpserver) (socketIndex : ℕ) (sp : SendPacket) (draw : ℚ)
    (stale : List UInt8) {p : Packet} (hp : sp.packetToSend = some p)
    (hn : 16 ≤ sp.actualPayloadSize ∧ sp.actualPayloadSize ≤ 1024) (hstale : stale.length = 2000)
    (hkeep : ¬ (0 < (s.channelAt socketIndex).lossRate ∧ draw < (s.channelAt socketIndex).lossRate)) :
    let frame := wireFrame p sp.actualPayloadSize { sp with seq := s.globalSeqCounter }
    let datagram := frame ++
      (stale.drop (sp.actualPayloadSize + 13)).take (1024 - sp.actualPayloadSize)
    Udpserver.workerSend s socketIndex sp draw stale =
        ({ s with globalSeqCounter := s.globalSeqCounter + 1 }, some datagram) ∧
      datagram.length = totalLength ∧
      (datagram = frame ↔ sp.actualPayloadSize = 1024) ∧
      (sp.actualPayloadSize + 7 ≤ 1024 → (readFrame datagram).2.2 = (stale.drop 1030).take 7) := by
  intro frame datagram
  have hvalid : sp.packetToSend.isSome ∧ 0 < sp.actualPayloadSize := ⟨by simp [hp], by omega⟩
  have hlen : datagram.length = totalLength :=
    length_stale_datagram p { sp with seq := s.globalSeqCounter } stale hstale hn.2
  have hframe : frame.length = sp.actualPayloadSize + 13 :=
    length_wireFrame p (by simp only [kMaxDataSize]; omega) _
  refine ⟨?_, hlen, ?_, ?_⟩
  · rw [workerSend_of_kept s socketIndex sp draw stale hvalid hkeep,
      workerFrame_of_le stale hstale { sp with seq := s.globalSeqCounter } hp hn.2]
  · -- the tail is empty exactly when no stale byte is taken
    rw [List.append_right_eq_self, List.take_eq_nil_iff, List.drop_eq_nil_iff, hstale]
    omega
  · -- the last seven bytes lie inside the stale tail
    intro hroom
    simp only [readFrame, hlen, totalLength_eq, packetHeaderSize]
    show List.drop (1037 - 7) (frame ++ _) = _
    rw [List.drop_append, List.drop_of_length_le (show frame.length ≤ 1037 - 7 by omega),
      List.nil_append, hframe, List.drop_take, List.drop_drop]
    congr 2 <;> omega

/-- A fresh server sends the packet of a one-byte final chunk (`n = 16`) from a `send_buffer`
holding `0xAA`: the receiver reads seven `0xAA` bytes as the trailer. -/
theorem workerSend_frame_stale_tail_short :
    (Udpserver.workerSend (Udpserver.create (Vector.replicate packetMasksSize 0) true fun _ => true)
      0 ⟨some Packet.empty, 0, 1, 0, 0, 16⟩ 1 (List.replicate 2000 0xAA)).2.map
        (fun d => (readFrame d).2.2) = some (List.replicate 7 0xAA) := by
  obtain ⟨hsend, -, -, htrail⟩ := workerSend_frame_stale_tail
    (Udpserver.create (Vector.replicate packetMasksSize 0) true fun _ => true) 0
    ⟨some Packet.empty, 0, 1, 0, 0, 16⟩ 1 (List.replicate 2000 0xAA) rfl (by decide)
    List.length_replicate (by decide)
  rw [hsend, Option.map_some, htrail (by decide), List.drop_replicate, List.take_replicate]
  rfl

end ChannelSim
