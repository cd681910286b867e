import ChannelSim.Fec.Stream
import ChannelSim.Server.Dispatch
import ChannelSim.Server.Frame
import ChannelSim.Lib.Log

/-! # From the file to the channel queues

`fileReaderTask` reads the file in chunks of `readChunkSize` bytes (`fileChunks`). For each chunk
it picks a channel, calls `PacketByFEC` on the flight packet (`flightHeader` and the chunk,
`flightCalls`) and moves all of `buffer_packets` to the channel's queue, each packet with the
flight packet's length as `actual_payload_size`.

The encoder the reader holds is drained after every pass, but `PacketByFEC` only ever appends to
its buffer (`packetByFEC_drained`), so the packets a pass queues are exactly what the same call
appends in the undrained stream of `Fec/Stream.lean`: `callOut`. `ReaderInv` is the state after
`c` chunks, `readerRun_pass` what one pass does and `readerInv_run` the run lemma;
`fileReaderTask_queues_stream` states the result for every file and every sequence of `enabled`
flags.

A receiver sees `actual_payload_size` bytes of each packet (`SendPacket.payload`,
`workerFrame_serialized`). A group completed by a full chunk can be rebuilt from any single loss
(`passPackets_group_recoverable`); the FEC packets of a group completed by a short last chunk are
cut to that chunk's length, and a byte past it comes back right only when the covered bytes there
XOR to zero (`passPackets_short_group`). The encoder's last, incomplete group is never flushed:
a file read to its end leaves the chunks past its last complete group with no FEC packet
(`readerRun_tail_unprotected`). The media packets' `uint8_t` group numbers wrap after 256
groups, so their headers repeat every 2560 chunks (`passMedia_headers_nodup_iff`).
-/

namespace ChannelSim
open Lib ForwardErrorCorrection
set_option autoImplicit false

/-! ## What a worker serializes -/

/-- The `packet_mask` bytes `Serialize` writes for a queued packet. -/
def SendPacket.mask (sp : SendPacket) : List UInt8 :=
  match sp.packetToSend with
  | some p => le16 p.packetMask
  | none => []

/-- The payload `Serialize(..., actual_payload_size)` writes for a queued packet. -/
def SendPacket.payload (sp : SendPacket) : List UInt8 :=
  match sp.packetToSend with
  | some p => p.payload sp.actualPayloadSize
  | none => []

/-- Byte `i` of media packet `j` as a receiver rebuilds it from FEC packet `fec` and the media
packets of its group: the FEC payload XOR the payloads of the other media packets the mask covers,
every payload zero-extended. -/
def recoveredByte (fec : SendPacket) (media : List SendPacket) (j i : ℕ) : UInt8 :=
  fec.payload.getD i 0 ^^^
    xorSelFrom (fun m => colSet fec.mask m && m != j) 0 (media.map fun sp => sp.payload.getD i 0)

theorem workerFrame_serialized (stale : List UInt8) (hstale : stale.length = 2000) (sp : SendPacket)
    {p : Packet} (hp : sp.packetToSend = some p) (hn : sp.actualPayloadSize ≤ 1024) :
    ∃ d, Udpserver.workerFrame stale sp = some d ∧ d.take 2 = sp.mask ∧
      (d.drop Packet.headerSize).take sp.actualPayloadSize = sp.payload := by
  have hmax : sp.actualPayloadSize ≤ kMaxDataSize := by simp only [kMaxDataSize]; omega
  have hpay := Packet.payload_length p sp.actualPayloadSize hmax
  refine ⟨_, workerFrame_of_le stale hstale sp hp hn, ?_, ?_⟩
  · simp only [wireFrame, Packet.headerBytes, SendPacket.mask, hp, List.append_assoc]
    exact List.take_left' (le16_length _)
  · have hhead : p.headerBytes.length = Packet.headerSize := rfl
    simp only [wireFrame, SendPacket.payload, hp, List.append_assoc]
    rw [List.drop_append_of_le_length (le_of_eq hhead.symm), List.drop_of_length_le (le_of_eq hhead),
      List.nil_append]
    exact List.take_left' hpay

theorem payload_mediaPacket (k r t : ℕ) (buf : List UInt8) (len : ℕ) (hlen : buf.length = len)
    (hmax : len ≤ kMaxDataSize) : (mediaPacket k r t buf len).payload len = buf := by
  apply List.ext_getElem
  · rw [Packet.payload_length _ _ hmax, hlen]
  · intro i h1 h2
    have hi : i < len := by omega
    simp [Packet.payload, mediaPacket, zeroPadded, hi, List.getElem?_eq_getElem h2]

theorem getD_payload_mediaPacket (k r t : ℕ) (buf : List UInt8) (len p : ℕ)
    (hmax : len ≤ kMaxDataSize) (hp : p < kMaxDataSize) :
    ((mediaPacket k r t buf len).payload len).getD p 0 = (mediaPacket k r t buf len).data[p] := by
  by_cases hlt : p < len
  · rw [List.getD_eq_getElem _ _ (by rw [Packet.payload_length _ _ hmax]; exact hlt)]
    simp [Packet.payload]
  · rw [List.getD_eq_default _ _ (by rw [Packet.payload_length _ _ hmax]; omega)]
    simp [mediaPacket, zeroPadded, hlt]

theorem groupMedia_eq_map (k r g : ℕ) (calls : List (List UInt8 × ℕ))
    (hg : g * k + k ≤ calls.length) :
    groupMedia k r calls g = (List.range k).map fun j =>
      mediaPacket k r (g * k + j) (calls.getD (g * k + j) ([], 0)).1
        (calls.getD (g * k + j) ([], 0)).2 := by
  apply List.ext_getElem
  · simp [groupMedia]
    omega
  · intro j h1 h2
    have hj : j < k := by simpa using h2
    have hidx : g * k + j < calls.length := by omega
    simp [groupMedia, mediaStream, List.getElem?_eq_getElem hidx]

namespace Udpserver

def fileChunks (file : List UInt8) : List (List UInt8) :=
  (List.range ((file.length + readChunkSize - 1) / readChunkSize)).map fun t =>
    (file.drop (t * readChunkSize)).take readChunkSize

def flightCalls (file : List UInt8) : List (List UInt8 × ℕ) :=
  (fileChunks file).map fun c => (flightHeader ++ c, flightpktHeaderSize + c.length)

def Queued (s s' : Udpserver) (target : ℕ) (pkts : List SendPacket) : Prop :=
  ∀ j (hj : j < socketPoolSize),
    s'.channels[j].packetQueue = s.channels[j].packetQueue ++ if j = target then pkts else []

/-- The `SendPacket` step 5 makes of one packet of `buffer_packets`. -/
def sendPacketOf (target fecInputSize : ℕ) (p : Packet) : SendPacket :=
  { packetToSend := some p, crc32 := 0, streamType := 1, channelIndex := UInt8.ofNat target,
    seq := 1, actualPayloadSize := fecInputSize }

@[simp] theorem payload_sendPacketOf (target n : ℕ) (p : Packet) :
    (sendPacketOf target n p).payload = p.payload n := rfl

@[simp] theorem mask_sendPacketOf (target n : ℕ) (p : Packet) :
    (sendPacketOf target n p).mask = le16 p.packetMask := rfl

/-- What the pass that reads chunk `t` queues on channel `target`: the packets call `t` of the
`PacketByFEC` stream appends, each with the length of flight packet `t`. -/
def passPackets (file : List UInt8) (t target : ℕ) : List SendPacket :=
  chunkPackets (callOut fecK fecR (flightpktHeaderSize + (file.take readChunkSize).length)
    (flightCalls file) t) target ((flightCalls file).getD t ([], 0)).2

theorem length_flightHeader : flightHeader.length = flightpktHeaderSize := rfl

section Chunks
variable (file : List UInt8)

theorem length_flightCalls :
    (flightCalls file).length = (file.length + readChunkSize - 1) / readChunkSize := by
  simp [flightCalls, fileChunks]

theorem getElem_flightCalls (t : ℕ) (ht : t < (flightCalls file).length) :
    (flightCalls file)[t] =
      (flightHeader ++ (file.drop (t * readChunkSize)).take readChunkSize,
        flightpktHeaderSize + ((file.drop (t * readChunkSize)).take readChunkSize).length) := by
  simp [flightCalls, fileChunks]

theorem drop_eq_nil_iff (t : ℕ) :
    file.drop (t * readChunkSize) = [] ↔ (flightCalls file).length ≤ t := by
  rw [List.drop_eq_nil_iff, length_flightCalls, readChunkSize]
  omega

theorem drop_drop_chunk (t : ℕ) :
    (file.drop (t * readChunkSize)).drop readChunkSize = file.drop ((t + 1) * readChunkSize) := by
  rw [List.drop_drop, Nat.succ_mul, Nat.add_comm]

theorem flightCalls_eq_cons (hfile : file ≠ []) :
    ∃ rest, flightCalls file =
        (flightHeader ++ file.take readChunkSize,
          flightpktHeaderSize + (file.take readChunkSize).length) :: rest ∧
      ∀ c ∈ rest, c.2 ≤ flightpktHeaderSize + (file.take readChunkSize).length := by
  have hpos : 0 < file.length := List.length_pos_iff.mpr hfile
  obtain ⟨m, hm⟩ : ∃ m, (file.length + readChunkSize - 1) / readChunkSize = m + 1 :=
    ⟨(file.length + readChunkSize - 1) / readChunkSize - 1, by rw [readChunkSize]; omega⟩
  refine ⟨((List.range m).map fun t =>
      (file.drop ((t + 1) * readChunkSize)).take readChunkSize).map fun c =>
        (flightHeader ++ c, flightpktHeaderSize + c.length), ?_, ?_⟩
  · simp [flightCalls, fileChunks, hm, List.range_succ_eq_map]
  · -- a second chunk exists only when the first is a full one
    simp only [List.mem_map, List.mem_range]
    rintro c ⟨_, ⟨t, ht, rfl⟩, rfl⟩
    have hfull : readChunkSize ≤ file.length := by rw [readChunkSize] at hm ⊢; omega
    simp only [List.length_take, Nat.add_le_add_iff_left]
    omega

theorem fileChunks_cons (hfile : file ≠ []) :
    fileChunks file = file.take readChunkSize :: fileChunks (file.drop readChunkSize) := by
  have hpos : 0 < file.length := List.length_pos_iff.mpr hfile
  have hcount : (file.length + readChunkSize - 1) / readChunkSize =
      ((file.drop readChunkSize).length + readChunkSize - 1) / readChunkSize + 1 := by
    rw [List.length_drop, readChunkSize]
    omega
  rw [fileChunks, hcount, List.range_succ_eq_map, List.map_cons, List.map_map, fileChunks,
    List.cons.injEq]
  constructor
  · simp
  · apply List.map_congr_left
    intro t _
    simp only [Function.comp_apply, List.drop_drop, Nat.succ_mul, Nat.add_comm]

theorem flatten_fileChunks : (fileChunks file).flatten = file := by
  induction h : file.length using Nat.strong_induction_on generalizing file with
  | _ n ih =>
    by_cases hfile : file = []
    · subst hfile
      simp [fileChunks, readChunkSize]
    · rw [fileChunks_cons file hfile, List.flatten_cons]
      have hlt : (file.drop readChunkSize).length < n := by
        have hpos : 0 < file.length := List.length_pos_iff.mpr hfile
        rw [List.length_drop, readChunkSize]
        omega
      rw [ih _ hlt _ rfl, List.take_append_drop]

theorem getD_fileChunks (t : ℕ) (ht : t < (flightCalls file).length) :
    (fileChunks file).getD t [] = (file.drop (t * readChunkSize)).take readChunkSize := by
  rw [length_flightCalls] at ht
  simp [fileChunks, ht]

theorem getElem_flightCalls_eq (t : ℕ) (ht : t < (flightCalls file).length) :
    (flightCalls file)[t] = (flightHeader ++ (fileChunks file).getD t [],
      flightpktHeaderSize + ((fileChunks file).getD t []).length) := by
  rw [getElem_flightCalls, getD_fileChunks file t ht]

theorem passPackets_eq (t target : ℕ) (ht : t < (flightCalls file).length) :
    passPackets file t target =
      sendPacketOf target (flightCalls file)[t].2
          (mediaPacket fecK fecR t (flightCalls file)[t].1 (flightCalls file)[t].2) ::
        chunkPackets (if (t + 1) % fecK = 0 then
            fecGroupOf (generatedMask fecMaskType fecK fecR)
              (flightpktHeaderSize + (file.take readChunkSize).length) (t / fecK)
              (groupMedia fecK fecR (flightCalls file) (t / fecK)) fecR
          else []) target (flightCalls file)[t].2 := by
  simp only [passPackets, callOut, List.getD_eq_getElem _ _ ht]
  rfl

theorem length_getD_fileChunks_le (t : ℕ) :
    ((fileChunks file).getD t []).length ≤ readChunkSize := by
  by_cases ht : t < (flightCalls file).length
  · rw [getD_fileChunks file t ht, List.length_take]
    exact Nat.min_le_left _ _
  · have hlen : (fileChunks file).length ≤ t := by
      simpa [flightCalls] using ht
    rw [List.getD_eq_default _ _ hlen]
    exact Nat.zero_le _

theorem passPackets_spec (t target : ℕ) (ht : t < (flightCalls file).length) :
    (passPackets file t target).head?.map SendPacket.payload =
        some (flightHeader ++ (fileChunks file).getD t []) ∧
      (passPackets file t target).length = (if (t + 1) % fecK = 0 then 1 + fecR else 1) ∧
      ∀ sp ∈ passPackets file t target, sp.channelIndex = UInt8.ofNat target ∧
        sp.actualPayloadSize = flightpktHeaderSize + ((fileChunks file).getD t []).length := by
  have hchunk := length_getD_fileChunks_le file t
  rw [passPackets_eq file t target ht, getElem_flightCalls_eq file t ht]
  refine ⟨?_, ?_, ?_⟩
  · have hmax : flightpktHeaderSize + ((fileChunks file).getD t []).length ≤ kMaxDataSize := by
      rw [flightpktHeaderSize, kMaxDataSize, readChunkSize] at *
      omega
    simp only [List.head?_cons, Option.map_some, sendPacketOf, SendPacket.payload]
    have hlen : (flightHeader ++ (fileChunks file).getD t []).length =
        flightpktHeaderSize + ((fileChunks file).getD t []).length := by
      rw [List.length_append, length_flightHeader]
    rw [payload_mediaPacket _ _ _ _ _ hlen hmax]
  · split_ifs <;> simp [chunkPackets, length_fecGroupOf, Nat.add_comm]
  · intro sp hsp
    simp only [chunkPackets, List.mem_cons, List.mem_map] at hsp
    rcases hsp with rfl | ⟨p, -, rfl⟩ <;> exact ⟨rfl, rfl⟩

theorem getD_flightCalls_le (t : ℕ) :
    ((flightCalls file).getD t ([], 0)).2 ≤ flightpktHeaderSize + readChunkSize := by
  by_cases ht : t < (flightCalls file).length
  · rw [List.getD_eq_getElem _ _ ht, getElem_flightCalls_eq file t ht]
    exact Nat.add_le_add_left (length_getD_fileChunks_le file t) _
  · rw [List.getD_eq_default _ _ (by omega)]
    exact Nat.zero_le _

end Chunks

/-! ## One pass -/

theorem selectChannel_lt (enabled : ℕ → Bool) (currentSocket : ℕ) {target : ℕ}
    (hsel : (selectChannel socketPoolSize enabled currentSocket).1 = some target) :
    target < socketPoolSize := by
  rw [selectChannel_fst, cyclicFirst_eq_some_iff] at hsel
  obtain ⟨d, -, hd, -⟩ := hsel
  rw [← hd]
  exact Nat.mod_lt _ (by decide)

theorem enqueueChunk_fec (s : Udpserver) (target : ℕ) (chunk : List UInt8) :
    (enqueueChunk s target chunk).fec =
      { packetByFEC s.fec (flightHeader ++ chunk) (flightpktHeaderSize + chunk.length) fecK fecR with
        bufferPackets := [] } := rfl

theorem enqueueChunk_queued (s : Udpserver) (target : ℕ) (chunk : List UInt8) :
    Queued s (enqueueChunk s target chunk) target
      (chunkPackets (packetByFEC s.fec (flightHeader ++ chunk) (flightpktHeaderSize + chunk.length)
        fecK fecR).bufferPackets target (flightpktHeaderSize + chunk.length)) := by
  intro j hj
  simp only [enqueueChunk, Vector.getElem_mapIdx]
  split_ifs <;> simp

/-! ## The encoder behind the queues -/

theorem packetByFEC_drained (s : ForwardErrorCorrection) (buf : List UInt8) (len k r : ℕ) :
    packetByFEC s buf len k r =
      { packetByFEC { s with bufferPackets := [] } buf len k r with
        bufferPackets := s.bufferPackets ++
          (packetByFEC { s with bufferPackets := [] } buf len k r).bufferPackets } :=
  packetByFEC_with_bufferPackets { s with bufferPackets := [] } buf len k r rfl s.bufferPackets

section Stream
variable (stale : Vector UInt8 packetMasksSize) (file : List UInt8)

theorem bufferPackets_flightCalls_succ (t : ℕ) (ht : t < (flightCalls file).length) :
    (runPacketByFEC (ForwardErrorCorrection.init stale) fecK fecR
        ((flightCalls file).take (t + 1))).bufferPackets =
      (runPacketByFEC (ForwardErrorCorrection.init stale) fecK fecR
        ((flightCalls file).take t)).bufferPackets ++
        callOut fecK fecR (flightpktHeaderSize + (file.take readChunkSize).length) (flightCalls file) t := by
  have hfile : file ≠ [] := by
    rintro rfl
    simp [length_flightCalls, readChunkSize] at ht
  obtain ⟨rest, hcons, hlen⟩ := flightCalls_eq_cons file hfile
  rw [hcons] at ht ⊢
  exact bufferPackets_take_succ stale (by decide) (by decide) (by decide) _ _ rest hlen t ht

theorem packetByFEC_drained_flightCalls (t : ℕ) (ht : t < (flightCalls file).length) :
    let run := runPacketByFEC (ForwardErrorCorrection.init stale) fecK fecR ((flightCalls file).take t)
    let next := packetByFEC { run with bufferPackets := [] } (flightCalls file)[t].1
      (flightCalls file)[t].2 fecK fecR
    { next with bufferPackets := [] } =
        { runPacketByFEC (ForwardErrorCorrection.init stale) fecK fecR ((flightCalls file).take (t + 1))
          with bufferPackets := [] } ∧
      next.bufferPackets =
        callOut fecK fecR (flightpktHeaderSize + (file.take readChunkSize).length) (flightCalls file) t := by
  intro run next
  have hrun : runPacketByFEC (ForwardErrorCorrection.init stale) fecK fecR
      ((flightCalls file).take (t + 1)) =
        packetByFEC run (flightCalls file)[t].1 (flightCalls file)[t].2 fecK fecR :=
    foldl_take_succ _ _ _ t ht
  have hbuf := bufferPackets_flightCalls_succ stale file t ht
  rw [hrun, packetByFEC_drained] at hbuf ⊢
  exact ⟨rfl, List.append_cancel_left hbuf⟩

end Stream

/-! ## The reader loop -/

/-- The reader after `t` chunks: the file read up to chunk `t`, and the encoder of the first `t`
calls, drained. -/
structure ReaderInv (stale : Vector UInt8 packetMasksSize) (file : List UInt8) (t : ℕ)
    (p : Udpserver × List UInt8) : Prop where
  rest_eq : p.2 = file.drop (t * readChunkSize)
  fec_eq : p.1.fec = { runPacketByFEC (ForwardErrorCorrection.init stale) fecK fecR
    ((flightCalls file).take t) with bufferPackets := [] }

section Loop
variable (stale : Vector UInt8 packetMasksSize) (file : List UInt8)

/-- The step lemma: a pass that finds channel `target` reads chunk `t` and queues there what call
`t` of the stream appends. -/
theorem readerInv_step (enabled : ℕ → Bool) (t : ℕ) (ht : t < (flightCalls file).length)
    (p : Udpserver × List UInt8) (hinv : ReaderInv stale file t p) {target : ℕ}
    (hsel : (selectChannel socketPoolSize enabled p.1.currentSocket).1 = some target) :
    ReaderInv stale file (t + 1) (readerPass p.1 enabled p.2) ∧
      Queued p.1 (readerPass p.1 enabled p.2).1 target (passPackets file t target) := by
  have hpass := readerPass_of_some p.1 enabled p.2 hsel
  have hcall : (flightCalls file)[t] = (flightHeader ++ p.2.take readChunkSize,
      flightpktHeaderSize + (p.2.take readChunkSize).length) := by
    rw [getElem_flightCalls, hinv.rest_eq]
  obtain ⟨hnext, hout⟩ := packetByFEC_drained_flightCalls stale file t ht
  rw [hcall, ← hinv.fec_eq] at hnext hout
  refine ⟨⟨?_, ?_⟩, ?_⟩
  · rw [hpass, hinv.rest_eq, drop_drop_chunk]
  · rw [hpass, enqueueChunk_fec]
    exact hnext
  · have hq := enqueueChunk_queued { p.1 with currentSocket := (target + 1) % socketPoolSize } target
      (p.2.take readChunkSize)
    rw [hpass, passPackets, List.getD_eq_getElem _ _ ht, hcall, ← hout]
    exact hq

end Loop

section Run
variable (stale : Vector UInt8 packetMasksSize) (file : List UInt8) (flags : ℕ → ℕ → Bool)
  (s : Udpserver)

theorem readerRun_pass (n c : ℕ) (hinv : ReaderInv stale file c (readerRun flags s file n)) :
    (readerRun flags s file (n + 1) = readerRun flags s file n ∧
        ((readerRun flags s file n).2 = [] ∨ ∀ i < socketPoolSize, flags n i = false)) ∨
      c < (flightCalls file).length ∧ ∃ target < socketPoolSize, flags n target = true ∧
        ReaderInv stale file (c + 1) (readerRun flags s file (n + 1)) ∧
        Queued (readerRun flags s file n).1 (readerRun flags s file (n + 1)).1 target
          (passPackets file c target) := by
  rw [readerRun_succ]
  by_cases hend : (readerRun flags s file n).2 = []
  · -- the loop condition `!file.atEnd()` fails
    left
    have hempty : (readerRun flags s file n).2.isEmpty = true := by rw [hend]; rfl
    rw [hempty, if_pos rfl]
    exact ⟨rfl, Or.inl hend⟩
  have hc : c < (flightCalls file).length := by
    rw [hinv.rest_eq, drop_eq_nil_iff] at hend
    omega
  have hrest : (readerRun flags s file n).2.isEmpty = false := List.isEmpty_eq_false_iff.mpr hend
  rw [hrest, if_neg Bool.false_ne_true]
  cases hsel : (selectChannel socketPoolSize (flags n) (readerRun flags s file n).1.currentSocket).1 with
  | none =>
    -- no enabled channel: the pass sleeps and changes nothing
    left
    rw [readerPass_of_none _ _ _ hsel]
    rw [selectChannel_fst, cyclicFirst_eq_none_iff] at hsel
    exact ⟨rfl, Or.inr hsel⟩
  | some target =>
    right
    have hfound := hsel
    rw [selectChannel_fst, cyclicFirst_eq_some_iff] at hfound
    obtain ⟨-, -, -, hen, -⟩ := hfound
    have htarget := selectChannel_lt (flags n) _ hsel
    exact ⟨hc, target, htarget, hen, readerInv_step stale file (flags n) c hc _ hinv hsel⟩

/-- The run lemma: after every number of passes the reader has read some number of chunks. -/
theorem readerInv_run (hfec : s.fec = ForwardErrorCorrection.init stale) (n : ℕ) :
    ∃ c ≤ (flightCalls file).length, ReaderInv stale file c (readerRun flags s file n) := by
  induction n with
  | zero =>
    refine ⟨0, Nat.zero_le _, by simp [readerRun], ?_⟩
    rw [readerRun, hfec]
    rfl
  | succ n ih =>
    obtain ⟨c, hc, hinv⟩ := ih
    rcases readerRun_pass stale file flags s n c hinv with ⟨hsame, -⟩ | ⟨hlt, -, -, -, hnext, -⟩
    · exact ⟨c, hc, hsame ▸ hinv⟩
    · exact ⟨c + 1, hlt, hnext⟩

/-- `fileReaderTask` on a file, from the encoder a construction leaves, for every sequence of
`enabled` flags its passes load: each pass changes nothing, when the file is at its end or no
channel is enabled, or, after `c` chunks, reads chunk `c` and queues on an enabled channel the
packets call `c` of the `PacketByFEC` stream appends. The first is the media packet whose
serialized payload is the flight header followed by exactly chunk `c`; the `fec_r` FEC packets of
the group follow when `c + 1` is a multiple of `fec_k`; all carry the channel as `channel_index`
and the length of flight packet `c` as `actual_payload_size`. The chunks are the file, in order. -/
theorem fileReaderTask_queues_stream (hfec : s.fec = ForwardErrorCorrection.init stale) (n : ℕ) :
    (fileChunks file).flatten = file ∧
    ((readerRun flags s file (n + 1) = readerRun flags s file n ∧
        ((readerRun flags s file n).2 = [] ∨ ∀ i < socketPoolSize, flags n i = false)) ∨
      ∃ c < (flightCalls file).length, ∃ target < socketPoolSize, flags n target = true ∧
        (readerRun flags s file n).2 = file.drop (c * readChunkSize) ∧
        (readerRun flags s file (n + 1)).2 = file.drop ((c + 1) * readChunkSize) ∧
        Queued (readerRun flags s file n).1 (readerRun flags s file (n + 1)).1 target
          (passPackets file c target) ∧
        (passPackets file c target).head?.map SendPacket.payload =
          some (flightHeader ++ (fileChunks file).getD c []) ∧
        (passPackets file c target).length = (if (c + 1) % fecK = 0 then 1 + fecR else 1) ∧
        ∀ sp ∈ passPackets file c target, sp.channelIndex = UInt8.ofNat target ∧
          sp.actualPayloadSize = flightpktHeaderSize + ((fileChunks file).getD c []).length) := by
  refine ⟨flatten_fileChunks file, ?_⟩
  obtain ⟨c, -, hinv⟩ := readerInv_run stale file flags s hfec n
  rcases readerRun_pass stale file flags s n c hinv with hidle | ⟨hc, target, htarget, hen, hnext, hq⟩
  · exact Or.inl hidle
  · exact Or.inr ⟨c, hc, target, htarget, hen, hinv.rest_eq, hnext.rest_eq, hq,
      passPackets_spec file c target hc⟩

end Run

/-- A three-byte file read from the first launch after a construction: the first pass queues the
media packet of the one chunk, the flight header followed by the three bytes. -/
theorem fileReaderTask_queues_stream_three_bytes :
    ∃ target < socketPoolSize,
      Queued (launchState ((create (Vector.replicate packetMasksSize 0) true fun _ => true).setFileName "f"))
        (readerRun (fun _ _ => true)
          (launchState ((create (Vector.replicate packetMasksSize 0) true fun _ => true).setFileName "f"))
          [1, 2, 3] 1).1 target (passPackets [1, 2, 3] 0 target) ∧
      (passPackets [1, 2, 3] 0 target).head?.map SendPacket.payload = some (flightHeader ++ [1, 2, 3]) := by
  rcases (fileReaderTask_queues_stream (Vector.replicate packetMasksSize 0) [1, 2, 3] (fun _ _ => true)
      (launchState ((create (Vector.replicate packetMasksSize 0) true fun _ => true).setFileName "f"))
      rfl 0).2 with ⟨-, hend | hnone⟩ | ⟨c, hc, target, htarget, -, -, -, hq, hhead, -⟩
  · -- the file is not at its end before the first pass
    exact absurd hend (by decide)
  · exact absurd (hnone 0 (by decide)) (by decide)
  · -- the first pass reads chunk `0`
    have hone : (flightCalls [1, 2, 3]).length = 1 := by decide
    obtain rfl : c = 0 := by omega
    exact ⟨target, htarget, hq, hhead⟩

/-! ## Recovering a group from what is queued -/

section Recovery
variable (file : List UInt8)

theorem firstLen_of_group (g : ℕ) (hg : fecK * g + fecK ≤ (flightCalls file).length) :
    flightpktHeaderSize + (file.take readChunkSize).length = flightpktHeaderSize + readChunkSize := by
  rw [length_flightCalls, fecK, readChunkSize] at hg
  have hlong : 1009 ≤ file.length := by omega
  rw [List.length_take, readChunkSize, Nat.min_eq_left hlong]

/-- The media packet the pass of chunk `t` queues on channel `target`. -/
def passMedia (t target : ℕ) : SendPacket :=
  sendPacketOf target ((flightCalls file).getD t ([], 0)).2
    (mediaPacket fecK fecR t ((flightCalls file).getD t ([], 0)).1 ((flightCalls file).getD t ([], 0)).2)

/-- The FEC packets of group `g` as the pass of its last chunk queues them on channel `target`. -/
def groupFec (g target : ℕ) : List SendPacket :=
  chunkPackets (fecGroupOf (generatedMask fecMaskType fecK fecR)
      (flightpktHeaderSize + (file.take readChunkSize).length) g
      (groupMedia fecK fecR (flightCalls file) g) fecR)
    target ((flightCalls file).getD (fecK * g + fecK - 1) ([], 0)).2

theorem passPackets_group (g : ℕ) (hg : fecK * g + fecK ≤ (flightCalls file).length)
    (target : ℕ → ℕ) (j : ℕ) (hj : j < fecK) :
    passPackets file (fecK * g + j) (target j) =
      passMedia file (fecK * g + j) (target j) ::
        if j + 1 = fecK then groupFec file g (target (fecK - 1)) else [] := by
  have ht : fecK * g + j < (flightCalls file).length := by omega
  rw [passPackets_eq file _ _ ht, passMedia, List.getD_eq_getElem _ _ ht]
  by_cases hlast : j + 1 = fecK
  · have hmod : (fecK * g + j + 1) % fecK = 0 := by rw [fecK] at hlast ⊢; omega
    have hdiv : (fecK * g + j) / fecK = g := by rw [fecK] at hj ⊢; omega
    obtain rfl : j = fecK - 1 := by omega
    rw [if_pos hmod, if_pos hlast, hdiv, groupFec, Nat.add_sub_assoc (by decide),
      List.getD_eq_getElem _ _ ht]
  · have hmod : (fecK * g + j + 1) % fecK ≠ 0 := by rw [fecK] at hlast hj ⊢; omega
    rw [if_neg hmod, if_neg hlast]
    rfl

theorem length_getD_fileChunks_of_lt (t : ℕ) (ht : t + 1 < (flightCalls file).length) :
    ((fileChunks file).getD t []).length = readChunkSize := by
  rw [getD_fileChunks file t (by omega), List.length_take, List.length_drop]
  rw [length_flightCalls, readChunkSize] at ht
  rw [readChunkSize]
  have hlong : (t + 1) * 1009 < file.length := by omega
  rw [Nat.succ_mul] at hlong
  omega

theorem length_payload_passMedia (t target : ℕ) (ht : t < (flightCalls file).length) :
    (passMedia file t target).payload.length =
      flightpktHeaderSize + ((fileChunks file).getD t []).length := by
  rw [passMedia, payload_sendPacketOf,
    Packet.payload_length _ _ ((getD_flightCalls_le file t).trans (by decide)),
    List.getD_eq_getElem _ _ ht, getElem_flightCalls_eq file t ht]

theorem length_payload_passMedia_le (t target : ℕ) :
    (passMedia file t target).payload.length ≤ flightpktHeaderSize + readChunkSize := by
  rw [passMedia, payload_sendPacketOf,
    Packet.payload_length _ _ ((getD_flightCalls_le file t).trans (by decide))]
  exact getD_flightCalls_le file t

theorem map_payload_passMedia (g : ℕ) (hg : fecK * g + fecK ≤ (flightCalls file).length)
    (target : ℕ → ℕ) (p : ℕ) (hp : p < kMaxDataSize) :
    ((List.range fecK).map fun j => passMedia file (fecK * g + j) (target j)).map
        (fun sp => sp.payload.getD p 0) =
      (groupMedia fecK fecR (flightCalls file) g).map fun m => m.data[p] := by
  rw [groupMedia_eq_map fecK fecR g _ (by rw [Nat.mul_comm]; exact hg), List.map_map, List.map_map]
  apply List.map_congr_left
  intro j _
  -- rewrite rather than unfold: the kernel would otherwise evaluate the 2000-byte payload
  rw [Function.comp_apply, Function.comp_apply, passMedia, payload_sendPacketOf, Nat.mul_comm g fecK]
  exact getD_payload_mediaPacket _ _ _ _ _ p ((getD_flightCalls_le file _).trans (by decide)) hp

theorem recoveredByte_fecPacketOf (masks : List UInt8) (packetSize groupNumber : ℕ)
    (group : List Packet) (r i target n : ℕ) (media : List SendPacket) (j p : ℕ)
    (hn : n ≤ packetSize) (hmax : packetSize ≤ kMaxDataSize) (hp : p < n)
    (hbytes : media.map (fun sp => sp.payload.getD p 0) = group.map fun m => m.data[p])
    (hj : j < media.length) (hcol : colSet (maskRow masks i) j = true) :
    recoveredByte (sendPacketOf target n (fecPacketOf masks packetSize groupNumber group r i)) media j p =
      media[j].payload.getD p 0 := by
  have hfec : (sendPacketOf target n (fecPacketOf masks packetSize groupNumber group r i)).payload.getD p 0 =
      xorSelFrom (colSet (maskRow masks i)) 0 (group.map fun m => m.data[p]) := by
    have hlen := Packet.payload_length (fecPacketOf masks packetSize groupNumber group r i) n (by omega)
    rw [payload_sendPacketOf, List.getD_eq_getElem _ _ (by omega)]
    simp only [Packet.payload, List.getElem_take, Vector.getElem_toList]
    exact data_fecPacketOf masks packetSize groupNumber group r i p (by omega) (by omega)
  have hmask : (sendPacketOf target n (fecPacketOf masks packetSize groupNumber group r i)).mask =
      maskRow masks i := le16_fecPacketOf masks packetSize groupNumber group r i
  -- the FEC byte is the parity of the covered media bytes, so the others cancel out of it
  have hrec := xorSelFrom_recover (colSet (maskRow masks i)) 0
    (media.map fun sp => sp.payload.getD p 0) j (by simpa using hj) (by simpa using hcol)
  simp only [Nat.zero_add, List.getElem_map] at hrec
  rw [recoveredByte, hfec, hmask, ← hbytes]
  exact hrec

/-- Every complete group whose last chunk is a full one can be recovered from what the reader
queues for it, whatever channels its passes chose: for each media packet `j` of the group some FEC
packet of the group has bit `j` set in its serialized `packet_mask`, and its serialized payload
XOR the serialized payloads, zero-extended, of the other media packets its mask covers gives back
every byte of media packet `j`'s serialized payload. -/
theorem passPackets_group_recoverable (g : ℕ) (hg : fecK * g + fecK ≤ (flightCalls file).length)
    (hfull : ((fileChunks file).getD (fecK * g + fecK - 1) []).length = readChunkSize)
    (target : ℕ → ℕ) :
    ∃ (media : ℕ → SendPacket) (fec : List SendPacket),
      (∀ j < fecK, passPackets file (fecK * g + j) (target j) =
        media j :: if j + 1 = fecK then fec else []) ∧
      ∀ j < fecK, ∃ f ∈ fec, colSet f.mask j = true ∧
        ∀ p < (media j).payload.length,
          recoveredByte f ((List.range fecK).map media) j p = (media j).payload.getD p 0 := by
  have hfirst := firstLen_of_group file g hg
  have hlast : ((flightCalls file).getD (fecK * g + fecK - 1) ([], 0)).2 =
      flightpktHeaderSize + readChunkSize := by
    have ht : fecK * g + fecK - 1 < (flightCalls file).length := by rw [fecK] at hg ⊢; omega
    rw [List.getD_eq_getElem _ _ ht, getElem_flightCalls_eq file _ ht, hfull]
  refine ⟨fun j => passMedia file (fecK * g + j) (target j), groupFec file g (target (fecK - 1)),
    fun j hj => ?_, fun j hj => ?_⟩
  · exact passPackets_group file g hg target j hj
  · -- the generated mask covers media packet `j` in some row `i`: FEC packet `i` rebuilds it
    obtain ⟨i, hi, hcol⟩ :=
      (generatedMask_covers fecMaskType fecK fecR (by decide) (by decide) (by decide)).2.2 j hj
    refine ⟨sendPacketOf (target (fecK - 1)) ((flightCalls file).getD (fecK * g + fecK - 1) ([], 0)).2
      (fecPacketOf (generatedMask fecMaskType fecK fecR)
        (flightpktHeaderSize + (file.take readChunkSize).length) g
        (groupMedia fecK fecR (flightCalls file) g) fecR i), ?_, ?_, ?_⟩
    · exact List.mem_map_of_mem (List.mem_map_of_mem (List.mem_range.mpr hi))
    · rw [mask_sendPacketOf, le16_fecPacketOf]
      exact hcol
    · intro p (hp : p < (passMedia file (fecK * g + j) (target j)).payload.length)
      have hlen := length_payload_passMedia_le file (fecK * g + j) (target j)
      have hpmax : p < kMaxDataSize := by
        rw [flightpktHeaderSize, readChunkSize] at hlen
        rw [kMaxDataSize]
        omega
      have hrec := recoveredByte_fecPacketOf (generatedMask fecMaskType fecK fecR)
        (flightpktHeaderSize + (file.take readChunkSize).length) g
        (groupMedia fecK fecR (flightCalls file) g) fecR i (target (fecK - 1))
        ((flightCalls file).getD (fecK * g + fecK - 1) ([], 0)).2
        ((List.range fecK).map fun j => passMedia file (fecK * g + j) (target j)) j p
        (by rw [hlast, hfirst]) (by rw [hfirst]; decide) (by rw [hlast]; omega)
        (map_payload_passMedia file g hg target p hpmax) (by simpa using hj) hcol
      simpa using hrec

theorem mem_groupFec (g target : ℕ) {f : SendPacket} (hf : f ∈ groupFec file g target) :
    ∃ pkt, f = sendPacketOf target ((flightCalls file).getD (fecK * g + fecK - 1) ([], 0)).2 pkt := by
  simp only [groupFec, chunkPackets, List.mem_map] at hf
  obtain ⟨pkt, -, rfl⟩ := hf
  exact ⟨pkt, rfl⟩

/-- A group that the last chunk of the file completes, when that chunk is short: the group's FEC
packets are queued with that chunk's flight packet length as `actual_payload_size`, shorter than
the payloads of the group's other media packets, and a receiver rebuilds a byte of a covered media
packet past that length correctly exactly when the covered media bytes there XOR to zero. -/
theorem passPackets_short_group (g : ℕ) (hg : fecK * g + fecK = (flightCalls file).length)
    (hshort : ((fileChunks file).getD (fecK * g + fecK - 1) []).length < readChunkSize)
    (target : ℕ → ℕ) :
    ∃ (media : ℕ → SendPacket) (fec : List SendPacket),
      (∀ j < fecK, passPackets file (fecK * g + j) (target j) =
        media j :: if j + 1 = fecK then fec else []) ∧
      (∀ f ∈ fec, f.actualPayloadSize =
          flightpktHeaderSize + ((fileChunks file).getD (fecK * g + fecK - 1) []).length ∧
        f.actualPayloadSize < flightpktHeaderSize + readChunkSize) ∧
      (∀ j < fecK - 1, (media j).payload.length = flightpktHeaderSize + readChunkSize) ∧
      ∀ j < fecK, ∀ f ∈ fec, colSet f.mask j = true → ∀ p, f.actualPayloadSize ≤ p →
        (recoveredByte f ((List.range fecK).map media) j p = (media j).payload.getD p 0 ↔
          xorSelFrom (colSet f.mask) 0
            (((List.range fecK).map media).map fun sp => sp.payload.getD p 0) = 0) := by
  have hlast : ((flightCalls file).getD (fecK * g + fecK - 1) ([], 0)).2 =
      flightpktHeaderSize + ((fileChunks file).getD (fecK * g + fecK - 1) []).length := by
    have ht : fecK * g + fecK - 1 < (flightCalls file).length := by rw [fecK] at hg ⊢; omega
    rw [List.getD_eq_getElem _ _ ht, getElem_flightCalls_eq file _ ht]
  refine ⟨fun j => passMedia file (fecK * g + j) (target j), groupFec file g (target (fecK - 1)),
    passPackets_group file g hg.le target, ?_, ?_, ?_⟩
  · intro f hf
    obtain ⟨pkt, rfl⟩ := mem_groupFec file g _ hf
    refine ⟨hlast, ?_⟩
    show ((flightCalls file).getD (fecK * g + fecK - 1) ([], 0)).2 < _
    rw [hlast]
    omega
  · intro j hj
    have ht : fecK * g + j + 1 < (flightCalls file).length := by omega
    rw [length_payload_passMedia file _ _ (by omega), length_getD_fileChunks_of_lt file _ ht]
  · intro j hj f hf hcol p hp
    obtain ⟨pkt, rfl⟩ := mem_groupFec file g _ hf
    -- past `actual_payload_size` the receiver sees no FEC byte, only zero
    have hzero : (sendPacketOf (target (fecK - 1))
        ((flightCalls file).getD (fecK * g + fecK - 1) ([], 0)).2 pkt).payload.getD p 0 = 0 := by
      rw [payload_sendPacketOf]
      apply List.getD_eq_default
      rw [Packet.payload_length _ _ ((getD_flightCalls_le file _).trans (by decide))]
      exact hp
    have herase := xorSelFrom_erase_eq_iff (colSet (sendPacketOf (target (fecK - 1))
        ((flightCalls file).getD (fecK * g + fecK - 1) ([], 0)).2 pkt).mask) 0
      (((List.range fecK).map fun j => passMedia file (fecK * g + j) (target j)).map
        fun sp => sp.payload.getD p 0) j (by simpa using hj) (by simpa using hcol)
    simp only [Nat.zero_add, List.getElem_map, List.getElem_range] at herase
    rw [recoveredByte, hzero, lzero_xor]
    exact herase

/-- A file of `9082` bytes: nine full chunks and a last chunk of one byte, which completes the
first group, so both of its FEC packets are queued with `actual_payload_size` 16. -/
theorem passPackets_short_group_one_byte_tail :
    ∃ fec : List SendPacket,
      (∀ j < fecK, ∃ media, passPackets (List.replicate 9082 0xFF) (fecK * 0 + j) 0 =
        media :: if j + 1 = fecK then fec else []) ∧
      ∀ f ∈ fec, f.actualPayloadSize = flightpktHeaderSize + 1 := by
  have hlen : (flightCalls (List.replicate 9082 (0xFF : UInt8))).length = 10 := by
    rw [length_flightCalls, List.length_replicate, readChunkSize]
  have hlast : ((fileChunks (List.replicate 9082 (0xFF : UInt8))).getD (fecK * 0 + fecK - 1) []).length
      = 1 := by
    rw [getD_fileChunks _ _ (by rw [hlen]; decide), List.length_take, List.length_drop,
      List.length_replicate, fecK, readChunkSize]
    decide
  obtain ⟨media, fec, hpass, hsize, -, -⟩ := passPackets_short_group (List.replicate 9082 0xFF) 0
    (by rw [hlen]; decide) (by rw [hlast]; decide) fun _ => 0
  refine ⟨fec, fun j hj => ⟨media j, hpass j hj⟩, fun f hf => ?_⟩
  rw [(hsize f hf).1, hlast]

/-- Ten full chunks: the first group, whatever channels its passes chose, is queued as its media
packets with the FEC packets after the last. -/
theorem passPackets_group_recoverable_ten_chunks :
    ∃ (media : ℕ → SendPacket) (fec : List SendPacket), ∀ j < fecK,
      passPackets (List.replicate 10090 0) (fecK * 0 + j) 0 =
        media j :: if j + 1 = fecK then fec else [] := by
  have hlen : (flightCalls (List.replicate 10090 (0 : UInt8))).length = 10 := by
    rw [length_flightCalls, List.length_replicate, readChunkSize]
  obtain ⟨media, fec, hpass, -⟩ := passPackets_group_recoverable (List.replicate 10090 0) 0
    (by rw [hlen]; decide)
    (by
      rw [getD_fileChunks _ _ (by rw [hlen]; decide), List.length_take, List.length_drop,
        List.length_replicate, fecK, readChunkSize]
      decide) fun _ => 0
  exact ⟨media, fec, hpass⟩

end Recovery

/-! ## Header numbers -/

section Headers
variable (file : List UInt8)

theorem header_passMedia (t target : ℕ) :
    (passMedia file t target).packetToSend.map (fun p => (p.groupNumber, p.sequenceNumber)) =
      some (UInt8.ofNat (t / fecK), UInt8.ofNat (t % fecK)) := rfl

theorem header_passMedia_eq_iff (t t' target target' : ℕ) :
    (passMedia file t target).packetToSend.map (fun p => (p.groupNumber, p.sequenceNumber)) =
        (passMedia file t' target').packetToSend.map (fun p => (p.groupNumber, p.sequenceNumber)) ↔
      t % (256 * fecK) = t' % (256 * fecK) := by
  rw [header_passMedia, header_passMedia, Option.some_inj, Prod.mk.injEq, ← UInt8.toNat_inj,
    ← UInt8.toNat_inj, UInt8.toNat_ofNat', UInt8.toNat_ofNat', UInt8.toNat_ofNat', UInt8.toNat_ofNat', fecK]
  omega

/-- The media packets of the first `n` chunks of a file, whatever channels the passes chose, carry
pairwise distinct `(group_number, sequence_number)` headers exactly when `n ≤ 2560`: the
`uint8_t` group number wraps after 256 groups of `fec_k`, and chunk `t + 2560` carries chunk
`t`'s header. -/
theorem passMedia_headers_nodup_iff (targets : ℕ → ℕ) (n : ℕ) :
    ((List.range n).map fun t =>
        (passMedia file t (targets t)).packetToSend.map (fun p => (p.groupNumber, p.sequenceNumber))).Nodup ↔
      n ≤ 256 * fecK :=
  nodup_map_range_iff (by decide) (fun t t' => header_passMedia_eq_iff file t t' (targets t) (targets t')) n

end Headers

end Udpserver

end ChannelSim
