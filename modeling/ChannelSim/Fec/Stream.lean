import ChannelSim.Fec.EncodeSpec
import ChannelSim.Lib.Run

/-! # The stream `PacketByFEC` produces

`fileReaderTask` calls `PacketByFEC(buf, len, k, r)` once per chunk, with `k` and `r` fixed and the
first chunk's length as `packet_size`. This module says what such a run of the `Channel_sim/` copy
leaves behind, in closed form over the call index `t` (counting from `0`):

* `mediaPacket k r t buf len` is media packet `t`: position `t % k` of group `t / k`, its payload
  `buf[0..len)` followed by zeros;
* `callOut` is what call `t` appends to `buffer_packets`: media packet `t` and, when it ends a group,
  the group's FEC packets as `EncodeFec` builds them (`fecGroupOf`, from `EncodeSpec`);
* `streamOut` is all of it, and `StreamInv` the state between two calls: the current group's
  media packets in `media_packets`, as many as `sequence_number` says, and no FEC packet left over.

`streamInv_step` is the step lemma, one call of `packetByFEC`; `foldl_invariant` lifts it to every
run, and `packetByFEC_stream` states the result for a fresh encoder.
-/

namespace ChannelSim
open Lib ForwardErrorCorrection
set_option autoImplicit false

/-- The calls `PacketByFEC(buf_t, len_t, k, r)`, in order, with `k` and `r` fixed. -/
def runPacketByFEC (s : ForwardErrorCorrection) (k r : ℕ) (calls : List (List UInt8 × ℕ)) :
    ForwardErrorCorrection :=
  calls.foldl (fun s c => packetByFEC s c.1 c.2 k r) s

/-! ## The reference stream -/

/-- `buf[0..len)` followed by zeros, over the whole payload array. -/
def zeroPadded (buf : List UInt8) (len : ℕ) : Vector UInt8 kMaxDataSize :=
  Vector.ofFn fun i => if i.val < len then buf.getD i.val 0 else 0

/-- Media packet `t` of the stream: position `t % k` of group `t / k`. -/
def mediaPacket (k r t : ℕ) (buf : List UInt8) (len : ℕ) : Packet where
  packetMask := 0
  groupNumber := UInt8.ofNat (t / k)
  sequenceNumber := UInt8.ofNat (t % k)
  k := UInt8.ofNat k
  r := UInt8.ofNat r
  data := zeroPadded buf len

/-- The media packets of a sequence of calls. -/
def mediaStream (k r : ℕ) (calls : List (List UInt8 × ℕ)) : List Packet :=
  calls.mapIdx fun t c => mediaPacket k r t c.1 c.2

/-- The media packets of group `g`, as far as the calls reach. -/
def groupMedia (k r : ℕ) (calls : List (List UInt8 × ℕ)) (g : ℕ) : List Packet :=
  ((mediaStream k r calls).drop (g * k)).take k

/-- What call `t` appends to `buffer_packets`: its media packet and, when it ends a group, the FEC
packets of that group. -/
def callOut (k r packetSize : ℕ) (calls : List (List UInt8 × ℕ)) (t : ℕ) : List Packet :=
  let c := calls.getD t ([], 0)
  mediaPacket k r t c.1 c.2 ::
    if (t + 1) % k = 0 then
      fecGroupOf (generatedMask fecMaskType k r) packetSize (t / k) (groupMedia k r calls (t / k)) r
    else []

/-- Everything the calls append to `buffer_packets`, call after call. -/
def streamOut (k r packetSize : ℕ) (calls : List (List UInt8 × ℕ)) : List Packet :=
  ((List.range calls.length).map (callOut k r packetSize calls)).flatten

/-! ## Counting calls -/

theorem succ_div_mod_of_lt (n k : ℕ) (hk : 0 < k) (h : n % k + 1 < k) :
    (n + 1) / k = n / k ∧ (n + 1) % k = n % k + 1 := by
  rw [Nat.div_mod_unique hk]
  have hsplit := Nat.mod_add_div n k
  omega

theorem succ_div_mod_of_eq (n k : ℕ) (hk : 0 < k) (h : n % k + 1 = k) :
    (n + 1) / k = n / k + 1 ∧ (n + 1) % k = 0 := by
  rw [Nat.div_mod_unique hk]
  have hsplit := Nat.mod_add_div n k
  rw [Nat.mul_add, Nat.mul_one]
  omega

section Reference
variable (k r packetSize : ℕ)

@[simp] theorem length_mediaStream (calls : List (List UInt8 × ℕ)) :
    (mediaStream k r calls).length = calls.length := by
  simp [mediaStream]

theorem mediaStream_append (calls extra : List (List UInt8 × ℕ)) :
    ∃ tail, mediaStream k r (calls ++ extra) = mediaStream k r calls ++ tail := by
  exact ⟨_, List.mapIdx_append⟩

theorem mediaStream_concat (calls : List (List UInt8 × ℕ)) (c : List UInt8 × ℕ) :
    mediaStream k r (calls ++ [c]) = mediaStream k r calls ++ [mediaPacket k r calls.length c.1 c.2] := by
  simp [mediaStream]

theorem groupMedia_append (calls extra : List (List UInt8 × ℕ)) (g : ℕ)
    (hg : g * k + k ≤ calls.length) : groupMedia k r (calls ++ extra) g = groupMedia k r calls g := by
  obtain ⟨tail, htail⟩ := mediaStream_append k r calls extra
  have hdrop : g * k ≤ (mediaStream k r calls).length := by simp; omega
  have htake : k ≤ ((mediaStream k r calls).drop (g * k)).length := by simp; omega
  rw [groupMedia, groupMedia, htail, List.drop_append_of_le_length hdrop,
    List.take_append_of_le_length htake]

theorem length_groupMedia_current (hk : 0 < k) (calls : List (List UInt8 × ℕ)) :
    (groupMedia k r calls (calls.length / k)).length = calls.length % k := by
  have hsplit := Nat.div_add_mod' calls.length k
  have hlt := Nat.mod_lt calls.length hk
  simp only [groupMedia, List.length_take, List.length_drop, length_mediaStream]
  omega

theorem groupMedia_concat_current (hk : 0 < k) (calls : List (List UInt8 × ℕ))
    (c : List UInt8 × ℕ) (hroom : calls.length % k + 1 ≤ k) :
    groupMedia k r (calls ++ [c]) (calls.length / k) =
      groupMedia k r calls (calls.length / k) ++ [mediaPacket k r calls.length c.1 c.2] := by
  have hsplit := Nat.div_add_mod' calls.length k
  have hcur := length_groupMedia_current k r hk calls
  have hdrop : calls.length / k * k ≤ (mediaStream k r calls).length := by simp; omega
  rw [groupMedia, mediaStream_concat, List.drop_append_of_le_length hdrop]
  rw [groupMedia] at hcur ⊢
  have hshort : ((mediaStream k r calls).drop (calls.length / k * k)).length ≤ k := by
    simp only [List.length_take] at hcur
    simp only [List.length_drop, length_mediaStream]
    omega
  rw [List.take_of_length_le hshort, List.take_of_length_le (by simp; omega)]

theorem callOut_append (calls extra : List (List UInt8 × ℕ)) (t : ℕ) (ht : t < calls.length) :
    callOut k r packetSize (calls ++ extra) t = callOut k r packetSize calls t := by
  simp only [callOut, List.getD_append _ _ _ _ ht]
  split_ifs with hend
  · -- group `t / k` ends at call `t`, so the calls cover it
    have hdvd : k ∣ t + 1 := Nat.dvd_of_mod_eq_zero hend
    have hgroup : t / k * k + k = t + 1 := by
      rw [← Nat.succ_mul, Nat.succ_eq_add_one, ← Nat.succ_div_of_dvd hdvd, Nat.div_mul_cancel hdvd]
    rw [groupMedia_append k r calls extra (t / k) (by omega)]
  · rfl

theorem callOut_last (calls : List (List UInt8 × ℕ)) (c : List UInt8 × ℕ) :
    callOut k r packetSize (calls ++ [c]) calls.length =
      mediaPacket k r calls.length c.1 c.2 ::
        if (calls.length + 1) % k = 0 then
          fecGroupOf (generatedMask fecMaskType k r) packetSize (calls.length / k)
            (groupMedia k r (calls ++ [c]) (calls.length / k)) r
        else [] := by
  simp [callOut]

theorem streamOut_concat (calls : List (List UInt8 × ℕ)) (c : List UInt8 × ℕ) :
    streamOut k r packetSize (calls ++ [c]) =
      streamOut k r packetSize calls ++ callOut k r packetSize (calls ++ [c]) calls.length := by
  have hprev : (List.range calls.length).map (callOut k r packetSize (calls ++ [c])) =
      (List.range calls.length).map (callOut k r packetSize calls) := by
    apply List.map_congr_left
    intro t ht
    exact callOut_append k r packetSize calls [c] t (List.mem_range.mp ht)
  rw [streamOut, streamOut, List.length_append, List.length_singleton, List.range_succ,
    List.map_append, List.flatten_append, hprev, List.map_singleton, List.flatten_singleton]

theorem length_streamOut (hk : 0 < k) (calls : List (List UInt8 × ℕ)) :
    (streamOut k r packetSize calls).length = calls.length + calls.length / k * r := by
  induction calls using List.reverseRec with
  | nil => simp [streamOut]
  | append_singleton calls c ih =>
    have hmod := Nat.mod_lt calls.length hk
    rw [streamOut_concat, List.length_append, ih, callOut_last, List.length_cons,
      List.length_append, List.length_singleton]
    by_cases hend : calls.length % k + 1 = k
    · -- the call ends a group: `r` more FEC packets
      obtain ⟨hdiv, hmod'⟩ := succ_div_mod_of_eq calls.length k hk hend
      rw [if_pos hmod', length_fecGroupOf, hdiv, Nat.add_mul, Nat.one_mul]
      omega
    · obtain ⟨hdiv, hmod'⟩ := succ_div_mod_of_lt calls.length k hk (by omega)
      rw [if_neg (by omega), hdiv, List.length_nil]
      omega

end Reference

/-! ## One call of `PacketByFEC` -/

section Call
variable (s : ForwardErrorCorrection) (buf : List UInt8) (len k r : ℕ)

@[simp] theorem prepareMediaPacket_mediaPackets :
    (prepareMediaPacket s buf len k r).1.mediaPackets = s.mediaPackets := by
  simp only [prepareMediaPacket]; split_ifs <;> rfl

@[simp] theorem prepareMediaPacket_bufferPackets :
    (prepareMediaPacket s buf len k r).1.bufferPackets = s.bufferPackets := by
  simp only [prepareMediaPacket]; split_ifs <;> rfl

@[simp] theorem prepareMediaPacket_fecPackets :
    (prepareMediaPacket s buf len k r).1.fecPackets = s.fecPackets := by
  simp only [prepareMediaPacket]; split_ifs <;> rfl

@[simp] theorem prepareMediaPacket_groupNumber :
    (prepareMediaPacket s buf len k r).1.groupNumber = s.groupNumber := by
  simp only [prepareMediaPacket]; split_ifs <;> rfl

@[simp] theorem prepareMediaPacket_sequenceNumber :
    (prepareMediaPacket s buf len k r).1.sequenceNumber = s.sequenceNumber + 1 := by
  simp only [prepareMediaPacket]; split_ifs <;> rfl

@[simp] theorem prepareMediaPacket_fecFirstUse :
    (prepareMediaPacket s buf len k r).1.fecFirstUse = false := by
  simp only [prepareMediaPacket]; split_ifs <;> simp_all

theorem prepareMediaPacket_packetSize_latched (hfirst : s.fecFirstUse = false) :
    (prepareMediaPacket s buf len k r).1.packetSize = s.packetSize := by
  simp only [prepareMediaPacket, hfirst, Bool.false_eq_true, if_false]; split_ifs <;> rfl

theorem ofFn_paddedByte (packetSize : ℕ) (hlen : len ≤ packetSize) :
    (Vector.ofFn fun i : Fin kMaxDataSize =>
      if i.val < packetSize then paddedByte buf len packetSize i else 0) = zeroPadded buf len := by
  apply Vector.ext
  intro i hi
  simp only [Vector.getElem_ofFn, zeroPadded, paddedByte]
  by_cases hin : i < len
  · simp [hin, show i < packetSize by omega, show ¬len ≤ i by omega]
  · have hge : len ≤ i := by omega
    by_cases hps : i < packetSize <;> simp [hin, hps, hge]

theorem packetByFEC_first (hfirst : s.fecFirstUse = true) :
    packetByFEC s buf len k r =
      packetByFEC { s with packetSize := len, fecFirstUse := false } buf len k r := by
  simp [packetByFEC, prepareMediaPacket, hfirst]

theorem packetByFEC_fecFirstUse : (packetByFEC s buf len k r).fecFirstUse = false := by
  have hlatched := prepareMediaPacket_fecFirstUse s buf len k r
  rcases hp : prepareMediaPacket s buf len k r with ⟨s1, pkt⟩
  rw [hp] at hlatched
  simp only [packetByFEC, hp]
  -- `EncodeFec` leaves the latch alone
  split_ifs <;> simpa [encodeFec_fecFirstUse] using hlatched

theorem prepareMediaPacket_latched (hfirst : s.fecFirstUse = false) (hlen : len ≤ s.packetSize) :
    (prepareMediaPacket s buf len k r).2 =
      { packetMask := 0
        groupNumber := UInt8.ofNat s.groupNumber
        sequenceNumber := UInt8.ofNat s.sequenceNumber
        k := UInt8.ofNat k
        r := UInt8.ofNat r
        data := zeroPadded buf len } := by
  by_cases hshort : len < s.packetSize
  · simp [prepareMediaPacket, hfirst, hshort, ofFn_paddedByte buf len s.packetSize hlen]
  · simp [prepareMediaPacket, hfirst, hshort, ofFn_paddedByte buf len s.packetSize hlen]

/-- A call that does not complete the group only queues its media packet. -/
theorem packetByFEC_incomplete (hgroup : s.mediaPackets.length + 1 ≠ k) :
    packetByFEC s buf len k r =
      { (prepareMediaPacket s buf len k r).1 with
        mediaPackets := s.mediaPackets ++ [(prepareMediaPacket s buf len k r).2]
        bufferPackets := s.bufferPackets ++ [(prepareMediaPacket s buf len k r).2] } := by
  simp [packetByFEC, hgroup]

/-- A call that completes the group queues its media packet and the group's FEC packets and starts
the next group. -/
theorem packetByFEC_complete (hk : k ≤ 16) (hrk : r ≤ k) (hgroup : s.mediaPackets.length + 1 = k)
    (hseq : s.sequenceNumber + 1 = k) (hfec : s.fecPackets = []) :
    ∃ masks : Vector UInt8 packetMasksSize, packetByFEC s buf len k r =
      { (prepareMediaPacket s buf len k r).1 with
        packetMasks := masks
        mediaPackets := []
        bufferPackets := s.bufferPackets ++ (prepareMediaPacket s buf len k r).2 ::
          fecGroupOf (generatedMask fecMaskType k r) (prepareMediaPacket s buf len k r).1.packetSize
            s.groupNumber (s.mediaPackets ++ [(prepareMediaPacket s buf len k r).2]) r
        fecPackets := []
        groupNumber := s.groupNumber + 1
        sequenceNumber := 0 } := by
  have hmedia := prepareMediaPacket_mediaPackets s buf len k r
  have hbuffer := prepareMediaPacket_bufferPackets s buf len k r
  have hfec1 := prepareMediaPacket_fecPackets s buf len k r
  have hgroup1 := prepareMediaPacket_groupNumber s buf len k r
  have hseq1 := prepareMediaPacket_sequenceNumber s buf len k r
  rcases hp : prepareMediaPacket s buf len k r with ⟨s1, pkt⟩
  simp only [hp] at hmedia hbuffer hfec1 hgroup1 hseq1
  obtain ⟨masks, seq, henc⟩ := encodeFec_full_group
    { s1 with mediaPackets := s.mediaPackets ++ [pkt], bufferPackets := s.bufferPackets ++ [pkt] }
    (s.mediaPackets ++ [pkt]) k r kNumImportantPackets kUseUnequalProtection fecMaskType hk hrk
    (Or.inl rfl) (by simp [hgroup]) (by simp [hseq1, hseq])
  refine ⟨masks, ?_⟩
  simp only [hfec1, hfec, hgroup1] at henc
  simp only [packetByFEC, hp, hmedia, hbuffer]
  rw [if_pos (by simp [hgroup])]
  simp only [hfec1, hfec, hgroup1]
  rw [henc]
  simp

theorem prepareMediaPacket_with_bufferPackets (b : List Packet) :
    prepareMediaPacket { s with bufferPackets := b } buf len k r =
      ({ (prepareMediaPacket s buf len k r).1 with bufferPackets := b },
        (prepareMediaPacket s buf len k r).2) := by
  simp only [prepareMediaPacket]
  split_ifs <;> rfl

theorem packetByFEC_with_bufferPackets (hs : s.bufferPackets = []) (b : List Packet) :
    packetByFEC { s with bufferPackets := b } buf len k r =
      { packetByFEC s buf len k r with
        bufferPackets := b ++ (packetByFEC s buf len k r).bufferPackets } := by
  have hb := prepareMediaPacket_bufferPackets s buf len k r
  rcases hp : prepareMediaPacket s buf len k r with ⟨s1, pkt⟩
  rw [hp, hs] at hb
  simp only at hb
  simp only [packetByFEC, prepareMediaPacket_with_bufferPackets, hp]
  split_ifs with hfull
  · -- `EncodeFec` reads `packet_size` and `group_number` of the encoder, never its buffer
    dsimp only [encodeFec]
    split_ifs
    · simp [hb]
    · simp only [hb, List.nil_append, List.append_assoc]
      rfl
  · simp [hb]

theorem prepareMediaPacket_data_latched (hfirst : s.fecFirstUse = false) :
    (prepareMediaPacket s buf len k r).2.data = Vector.ofFn fun i : Fin kMaxDataSize =>
      if i.val < s.packetSize then paddedByte buf len s.packetSize i else 0 := by
  simp only [prepareMediaPacket, hfirst, Bool.false_eq_true, if_false]
  split_ifs <;> rfl

theorem payload_prepareMediaPacket_latched (hfirst : s.fecFirstUse = false) (hbuf : buf.length = len)
    (hmax : len ≤ kMaxDataSize) :
    (prepareMediaPacket s buf len k r).2.payload len =
      buf.take s.packetSize ++ List.replicate (len - s.packetSize) 0 := by
  apply List.ext_getElem
  · rw [Packet.payload_length _ _ hmax, List.length_append, List.length_take, List.length_replicate,
      hbuf]
    omega
  · intro i h1 h2
    have hi : i < len := by rwa [Packet.payload_length _ _ hmax] at h1
    have hget := Packet.getElem?_payload (prepareMediaPacket s buf len k r).2 len i hi hmax
    rw [List.getElem?_eq_getElem h1, Option.some_inj] at hget
    rw [hget, prepareMediaPacket_data_latched s buf len k r hfirst, Vector.getElem_ofFn]
    dsimp only
    by_cases hp : i < s.packetSize
    · have hin : i < (buf.take s.packetSize).length := by
        rw [List.length_take, hbuf]
        omega
      rw [if_pos hp, List.getElem_append_left hin, List.getElem_take, paddedByte,
        if_neg (by omega), List.getD_eq_getElem _ _ (by omega)]
    · have hout : (buf.take s.packetSize).length ≤ i := by
        rw [List.length_take]
        omega
      rw [if_neg hp, List.getElem_append_right hout, List.getElem_replicate]

theorem head?_bufferPackets_packetByFEC (hs : s.bufferPackets = []) :
    (packetByFEC s buf len k r).bufferPackets.head? = some (prepareMediaPacket s buf len k r).2 := by
  have hb := prepareMediaPacket_bufferPackets s buf len k r
  rcases hp : prepareMediaPacket s buf len k r with ⟨s1, pkt⟩
  rw [hp, hs] at hb
  simp only at hb
  simp only [packetByFEC, hp]
  split_ifs
  · dsimp only [encodeFec]
    split_ifs <;> simp [hb]
  · simp [hb]

theorem packetByFEC_packetSize_latched (hfirst : s.fecFirstUse = false) :
    (packetByFEC s buf len k r).packetSize = s.packetSize := by
  have hsize := prepareMediaPacket_packetSize_latched s buf len k r hfirst
  rcases hp : prepareMediaPacket s buf len k r with ⟨s1, pkt⟩
  rw [hp] at hsize
  simp only [packetByFEC, hp]
  split_ifs
  · dsimp only [encodeFec]
    split_ifs <;> exact hsize
  · exact hsize

end Call

/-! ## The invariant between calls -/

/-- The state of the encoder after the calls `calls` of a stream whose `packet_size` is
`packetSize`. -/
structure StreamInv (k r packetSize : ℕ) (calls : List (List UInt8 × ℕ)) (s : ForwardErrorCorrection) :
    Prop where
  latched : s.fecFirstUse = false
  packetSize_eq : s.packetSize = packetSize
  media_eq : s.mediaPackets = groupMedia k r calls (calls.length / k)
  sequence_eq : s.sequenceNumber = calls.length % k
  group_eq : s.groupNumber = calls.length / k
  fec_eq : s.fecPackets = []
  buffer_eq : s.bufferPackets = streamOut k r packetSize calls

theorem streamInv_init (stale : Vector UInt8 packetMasksSize) (k r packetSize : ℕ) :
    StreamInv k r packetSize []
      { ForwardErrorCorrection.init stale with packetSize := packetSize, fecFirstUse := false } where
  latched := rfl
  packetSize_eq := rfl
  media_eq := by simp [groupMedia, mediaStream, ForwardErrorCorrection.init]
  sequence_eq := by simp [ForwardErrorCorrection.init]
  group_eq := by simp [ForwardErrorCorrection.init]
  fec_eq := rfl
  buffer_eq := by simp [streamOut, ForwardErrorCorrection.init]

/-- The step lemma: one call with a chunk no longer than `packet_size` keeps the invariant. -/
theorem streamInv_step {k r packetSize : ℕ} (hk1 : 1 ≤ k) (hk : k ≤ 16) (hrk : r ≤ k)
    (calls : List (List UInt8 × ℕ)) (c : List UInt8 × ℕ) (s : ForwardErrorCorrection)
    (hc : c.2 ≤ packetSize) (hinv : StreamInv k r packetSize calls s) :
    StreamInv k r packetSize (calls ++ [c]) (packetByFEC s c.1 c.2 k r) := by
  obtain ⟨hfirst, hps, hmedia, hseq, hgroup, hfec, hbuf⟩ := hinv
  have hmod := Nat.mod_lt calls.length hk1
  have hmlen : s.mediaPackets.length = calls.length % k := by
    rw [hmedia, length_groupMedia_current k r hk1]
  have hpkt : (prepareMediaPacket s c.1 c.2 k r).2 = mediaPacket k r calls.length c.1 c.2 := by
    rw [prepareMediaPacket_latched s c.1 c.2 k r hfirst (by omega), mediaPacket, hgroup, hseq]
  have hnext : groupMedia k r (calls ++ [c]) (calls.length / k) =
      s.mediaPackets ++ [mediaPacket k r calls.length c.1 c.2] := by
    rw [groupMedia_concat_current k r hk1 calls c (by omega), hmedia]
  have hlatched := prepareMediaPacket_fecFirstUse s c.1 c.2 k r
  have hpsize : (prepareMediaPacket s c.1 c.2 k r).1.packetSize = packetSize := by
    rw [prepareMediaPacket_packetSize_latched s c.1 c.2 k r hfirst, hps]
  by_cases hfull : calls.length % k + 1 = k
  · -- the call ends group `calls.length / k`: its FEC packets follow and the next group starts
    obtain ⟨hdiv, hmod'⟩ := succ_div_mod_of_eq calls.length k hk1 hfull
    obtain ⟨masks, hstep⟩ := packetByFEC_complete s c.1 c.2 k r hk hrk (by omega) (by omega) hfec
    have hempty : groupMedia k r (calls ++ [c]) ((calls ++ [c]).length / k) = [] := by
      apply List.eq_nil_of_length_eq_zero
      rw [length_groupMedia_current k r hk1, List.length_append, List.length_singleton, hmod']
    rw [hstep]
    refine ⟨hlatched, hpsize, ?_, ?_, ?_, rfl, ?_⟩
    · exact hempty.symm
    · simp [hmod']
    · simp [hdiv, hgroup]
    · rw [streamOut_concat, callOut_last, if_pos hmod', ← hbuf, hpkt, hnext, hpsize, hgroup]
  · -- the call adds to group `calls.length / k`
    obtain ⟨hdiv, hmod'⟩ := succ_div_mod_of_lt calls.length k hk1 (by omega)
    rw [packetByFEC_incomplete s c.1 c.2 k r (by omega)]
    refine ⟨hlatched, hpsize, ?_, ?_, ?_, ?_, ?_⟩
    · simp only [List.length_append, List.length_singleton, hdiv, hnext, hpkt]
    · simp [hseq, hmod']
    · simp [hdiv, hgroup]
    · simp [hfec]
    · rw [streamOut_concat, callOut_last, if_neg (by omega), ← hbuf, hpkt]

/-- The run lemma: the invariant holds after every sequence of chunks no longer than
`packet_size`. -/
theorem streamInv_run {k r packetSize : ℕ} (hk1 : 1 ≤ k) (hk : k ≤ 16) (hrk : r ≤ k)
    (calls pre : List (List UInt8 × ℕ)) (s : ForwardErrorCorrection) (hcalls : ∀ c ∈ calls, c.2 ≤ packetSize)
    (hinv : StreamInv k r packetSize pre s) :
    StreamInv k r packetSize (pre ++ calls) (runPacketByFEC s k r calls) :=
  foldl_invariant (fun (s : ForwardErrorCorrection) (c : List UInt8 × ℕ) => packetByFEC s c.1 c.2 k r)
    (StreamInv k r packetSize)
    (fun c => c.2 ≤ packetSize) (fun pre c s hc hinv => streamInv_step hk1 hk hrk pre c s hc hinv)
    calls pre s hcalls hinv

/-! ## The counters of any run -/

theorem runPacketByFEC_init (stale : Vector UInt8 packetMasksSize) (k r : ℕ) (buf₁ : List UInt8)
    (len₁ : ℕ) (rest : List (List UInt8 × ℕ)) :
    runPacketByFEC (ForwardErrorCorrection.init stale) k r ((buf₁, len₁) :: rest) =
      runPacketByFEC { ForwardErrorCorrection.init stale with packetSize := len₁, fecFirstUse := false }
        k r ((buf₁, len₁) :: rest) := by
  simp only [runPacketByFEC, List.foldl_cons]
  rw [packetByFEC_first _ _ _ _ _ rfl]

theorem streamInv_take (stale : Vector UInt8 packetMasksSize) {k r : ℕ} (hk1 : 1 ≤ k)
    (hk : k ≤ 16) (hrk : r ≤ k) (buf₁ : List UInt8) (len₁ : ℕ) (rest : List (List UInt8 × ℕ))
    (hlen : ∀ c ∈ rest, c.2 ≤ len₁) (n : ℕ) (hn : 1 ≤ n) :
    StreamInv k r len₁ (((buf₁, len₁) :: rest).take n)
      (runPacketByFEC (ForwardErrorCorrection.init stale) k r (((buf₁, len₁) :: rest).take n)) := by
  obtain ⟨m, rfl⟩ : ∃ m, n = m + 1 := ⟨n - 1, by omega⟩
  have hcalls : ∀ c ∈ ((buf₁, len₁) :: rest).take (m + 1), c.2 ≤ len₁ := by
    intro c hc
    rcases List.mem_cons.mp hc with rfl | hc
    · exact le_rfl
    · exact hlen c (List.mem_of_mem_take hc)
  have h := streamInv_run hk1 hk hrk (((buf₁, len₁) :: rest).take (m + 1)) [] _ hcalls
    (streamInv_init stale k r len₁)
  rw [List.nil_append] at h
  rw [List.take_succ_cons, runPacketByFEC_init]
  exact h

theorem bufferPackets_take (stale : Vector UInt8 packetMasksSize) {k r : ℕ} (hk1 : 1 ≤ k)
    (hk : k ≤ 16) (hrk : r ≤ k) (buf₁ : List UInt8) (len₁ : ℕ) (rest : List (List UInt8 × ℕ))
    (hlen : ∀ c ∈ rest, c.2 ≤ len₁) (n : ℕ) :
    (runPacketByFEC (ForwardErrorCorrection.init stale) k r (((buf₁, len₁) :: rest).take n)).bufferPackets =
      streamOut k r len₁ (((buf₁, len₁) :: rest).take n) := by
  cases n with
  | zero => simp [runPacketByFEC, streamOut, ForwardErrorCorrection.init]
  | succ m => exact (streamInv_take stale hk1 hk hrk buf₁ len₁ rest hlen (m + 1) (by omega)).buffer_eq

theorem bufferPackets_take_succ (stale : Vector UInt8 packetMasksSize) {k r : ℕ} (hk1 : 1 ≤ k)
    (hk : k ≤ 16) (hrk : r ≤ k) (buf₁ : List UInt8) (len₁ : ℕ) (rest : List (List UInt8 × ℕ))
    (hlen : ∀ c ∈ rest, c.2 ≤ len₁) (t : ℕ) (ht : t < ((buf₁, len₁) :: rest).length) :
    (runPacketByFEC (ForwardErrorCorrection.init stale) k r
        (((buf₁, len₁) :: rest).take (t + 1))).bufferPackets =
      (runPacketByFEC (ForwardErrorCorrection.init stale) k r
        (((buf₁, len₁) :: rest).take t)).bufferPackets ++ callOut k r len₁ ((buf₁, len₁) :: rest) t := by
  set calls := (buf₁, len₁) :: rest
  have htake : calls.take (t + 1) = calls.take t ++ [calls[t]] := by
    rw [List.take_add_one, List.getElem?_eq_getElem ht, Option.toList_some]
  have hlen_t : (calls.take t).length = t := by simp; omega
  have hcall := callOut_append k r len₁ (calls.take (t + 1)) (calls.drop (t + 1)) t
    (by simp; omega)
  rw [List.take_append_drop] at hcall
  rw [bufferPackets_take stale hk1 hk hrk buf₁ len₁ rest hlen (t + 1),
    bufferPackets_take stale hk1 hk hrk buf₁ len₁ rest hlen t, htake, streamOut_concat, hlen_t,
    ← htake, hcall]

/-- `PacketByFEC` on a fresh encoder, called with `k` and `r` fixed and chunks no longer than the
first: after the calls, `media_packets` holds the current group's media packets, as many as
`sequence_number` says (`calls.length % k`), the FEC list is empty, and `buffer_packets` holds the
reference stream; call `t` appended to it exactly `callOut t`, which is media packet `t`, followed,
when `t + 1` is a multiple of `k`, by the `r` FEC packets of its group. -/
theorem packetByFEC_stream (stale : Vector UInt8 packetMasksSize) (k r : ℕ) (hk1 : 1 ≤ k)
    (hk : k ≤ 16) (hrk : r ≤ k) (buf₁ : List UInt8) (len₁ : ℕ) (rest : List (List UInt8 × ℕ))
    (hlen : ∀ c ∈ rest, c.2 ≤ len₁) :
    let calls := (buf₁, len₁) :: rest
    let run := fun n => runPacketByFEC (ForwardErrorCorrection.init stale) k r (calls.take n)
    (run calls.length).mediaPackets = groupMedia k r calls (calls.length / k) ∧
      (run calls.length).mediaPackets.length = calls.length % k ∧
      (run calls.length).sequenceNumber = calls.length % k ∧
      (run calls.length).fecPackets = [] ∧
      (run calls.length).bufferPackets = streamOut k r len₁ calls ∧
      ∀ t < calls.length, (run (t + 1)).bufferPackets =
        (run t).bufferPackets ++ callOut k r len₁ calls t := by
  intro calls run
  have hinv : ∀ n, 1 ≤ n → StreamInv k r len₁ (calls.take n) (run n) :=
    streamInv_take stale hk1 hk hrk buf₁ len₁ rest hlen
  have hall := hinv calls.length (by simp [calls])
  rw [List.take_length] at hall
  refine ⟨hall.media_eq, ?_, hall.sequence_eq, hall.fec_eq, hall.buffer_eq, ?_⟩
  · rw [hall.media_eq, length_groupMedia_current k r hk1]
  · exact bufferPackets_take_succ stale hk1 hk hrk buf₁ len₁ rest hlen

/-- Three chunks in groups of two: one media packet is left in the open group. -/
theorem packetByFEC_stream_three_chunks :
    (runPacketByFEC (ForwardErrorCorrection.init (Vector.replicate packetMasksSize 0)) 2 1
      [([1, 2], 2), ([3], 1), ([4], 1)]).sequenceNumber = 3 % 2 :=
  (packetByFEC_stream (Vector.replicate packetMasksSize 0) 2 1 (by decide) (by decide) (by decide)
    [1, 2] 2 [([3], 1), ([4], 1)] (by simp)).2.2.1

end ChannelSim
