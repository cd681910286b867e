import ChannelSim.Fec.Stream

/-! # The two copies of `PacketByFEC`

`FEC_Encode/forward_error_correction.cpp` has a `PacketByFEC` of its own. Up to the end of the first
group it does what the `Channel_sim/` copy does (`packetByFECFecEncode_incomplete`); at the end of
a group it keeps `media_packets` and the FEC list where the `Channel_sim/` copy clears both. From
then on `media_packets.size() == k` never holds again, so that copy encodes the first group only:
`CopyInv` counts its packets, and `packetByFEC_copies_differ` compares the two streams call by call.
-/

namespace ChannelSim
open Lib ForwardErrorCorrection
set_option autoImplicit false

/-- The calls `PacketByFEC(buf_t, len_t, k, r)` of the `FEC_Encode/` copy, in order. -/
def runPacketByFECFecEncode (s : ForwardErrorCorrection) (k r : ℕ) (calls : List (List UInt8 × ℕ)) :
    ForwardErrorCorrection :=
  calls.foldl (fun s c => packetByFECFecEncode s c.1 c.2 k r) s

/-! ## One call -/

section Call
variable (s : ForwardErrorCorrection) (buf : List UInt8) (len k r : ℕ)

theorem packetByFECFecEncode_first (hfirst : s.fecFirstUse = true) :
    packetByFECFecEncode s buf len k r =
      packetByFECFecEncode { s with packetSize := len, fecFirstUse := false } buf len k r := by
  simp [packetByFECFecEncode, prepareMediaPacket, hfirst]

theorem packetByFECFecEncode_incomplete (hgroup : s.mediaPackets.length + 1 ≠ k) :
    packetByFECFecEncode s buf len k r = packetByFEC s buf len k r := by
  simp [packetByFECFecEncode, packetByFEC, hgroup]

theorem packetByFECFecEncode_complete (hk : k ≤ 16) (hrk : r ≤ k)
    (hgroup : s.mediaPackets.length + 1 = k) (hseq : s.sequenceNumber + 1 = k)
    (hfec : s.fecPackets = []) :
    ∃ masks : Vector UInt8 packetMasksSize, packetByFECFecEncode s buf len k r =
      { (prepareMediaPacket s buf len k r).1 with
        packetMasks := masks
        mediaPackets := s.mediaPackets ++ [(prepareMediaPacket s buf len k r).2]
        bufferPackets := s.bufferPackets ++ (prepareMediaPacket s buf len k r).2 ::
          fecGroupOf (generatedMask fecMaskType k r) (prepareMediaPacket s buf len k r).1.packetSize
            s.groupNumber (s.mediaPackets ++ [(prepareMediaPacket s buf len k r).2]) r
        fecPackets := fecGroupOf (generatedMask fecMaskType k r)
          (prepareMediaPacket s buf len k r).1.packetSize s.groupNumber
          (s.mediaPackets ++ [(prepareMediaPacket s buf len k r).2]) r
        groupNumber := s.groupNumber + 1
        sequenceNumber := 0 } := by
  have hmedia := prepareMediaPacket_mediaPackets s buf len k r
  have hbuffer := prepareMediaPacket_bufferPackets s buf len k r
  have hfec1 := prepareMediaPacket_fecPackets s buf len k r
  have hgroup1 := prepareMediaPacket_groupNumber s buf len k r
  have hseq1 := prepareMediaPacket_sequenceNumber s buf len k r
  rcases hp : prepareMediaPacket s buf len k r with ⟨s1, pkt⟩
  simp only [hp] at hmedia hbuffer hfec1 hgroup1 hseq1
  obtain ⟨masks, seq, henc⟩ := encodeFec_full_group
    { s1 with mediaPackets := s.mediaPackets ++ [pkt], bufferPackets := s.bufferPackets ++ [pkt] }
    (s.mediaPackets ++ [pkt]) k r kNumImportantPackets kUseUnequalProtection fecMaskType hk hrk
    (Or.inl rfl) (by simp [hgroup]) (by simp [hseq1, hseq])
  refine ⟨masks, ?_⟩
  simp only [hfec1, hfec, hgroup1] at henc
  simp only [packetByFECFecEncode, hp, hmedia, hbuffer]
  rw [if_pos (by simp [hgroup])]
  simp only [hfec1, hfec, hgroup1]
  rw [henc]
  simp

end Call

/-! ## Counting the packets of the `FEC_Encode/` copy -/

/-- The counters of the `FEC_Encode/` copy after `n` calls: the first group is encoded at call `k`,
and nothing is encoded after it. -/
structure CopyInv (k r n : ℕ) (s : ForwardErrorCorrection) : Prop where
  latched : s.fecFirstUse = false
  media_length : s.mediaPackets.length = n
  fec_length : s.fecPackets.length = if k ≤ n then r else 0
  buffer_length : s.bufferPackets.length = n + if k ≤ n then r else 0
  sequence_eq : s.sequenceNumber = if k ≤ n then n - k else n
  group_eq : s.groupNumber = if k ≤ n then 1 else 0

theorem copyInv_init (stale : Vector UInt8 packetMasksSize) {k : ℕ} (hk1 : 1 ≤ k) (r len₁ : ℕ) :
    CopyInv k r 0
      { ForwardErrorCorrection.init stale with packetSize := len₁, fecFirstUse := false } where
  latched := rfl
  media_length := rfl
  fec_length := by simp [ForwardErrorCorrection.init]; omega
  buffer_length := by simp [ForwardErrorCorrection.init]; omega
  sequence_eq := by simp [ForwardErrorCorrection.init]
  group_eq := by simp [ForwardErrorCorrection.init]; omega

theorem copyInv_step {k r n : ℕ} (hk : k ≤ 16) (hrk : r ≤ k)
    (s : ForwardErrorCorrection) (buf : List UInt8) (len : ℕ) (hinv : CopyInv k r n s) :
    CopyInv k r (n + 1) (packetByFECFecEncode s buf len k r) := by
  obtain ⟨hfirst, hmedia, hfec, hbuf, hseq, hgroup⟩ := hinv
  by_cases hend : n + 1 = k
  · -- call `k` encodes the first group
    have hbefore : ¬k ≤ n := by omega
    rw [if_neg hbefore] at hfec hbuf hseq hgroup
    obtain ⟨masks, hstep⟩ := packetByFECFecEncode_complete s buf len k r hk hrk (by omega)
      (by omega) (List.eq_nil_of_length_eq_zero hfec)
    rw [hstep]
    have hafter : k ≤ n + 1 := by omega
    refine ⟨prepareMediaPacket_fecFirstUse s buf len k r, ?_, ?_, ?_, ?_, ?_⟩
    · simp [hmedia]
    · simp [length_fecGroupOf, hafter]
    · simp [hbuf, length_fecGroupOf, hafter]
      omega
    · simp [hend]
    · simp [hafter, hgroup]
  · -- every other call only queues its media packet
    have hsame : (k ≤ n + 1) = (k ≤ n) := by
      apply propext
      omega
    rw [packetByFECFecEncode_incomplete s buf len k r (by omega),
      packetByFEC_incomplete s buf len k r (by omega)]
    refine ⟨prepareMediaPacket_fecFirstUse s buf len k r, ?_, ?_, ?_, ?_, ?_⟩
    · simp [hmedia]
    · simp [hfec, hsame]
    · simp [hbuf, hsame]
      omega
    · simp only [prepareMediaPacket_sequenceNumber, hseq, hsame]
      split_ifs <;> omega
    · simp [hgroup, hsame]

theorem copyInv_take (stale : Vector UInt8 packetMasksSize) {k r : ℕ} (hk1 : 1 ≤ k) (hk : k ≤ 16)
    (hrk : r ≤ k) (buf₁ : List UInt8) (len₁ : ℕ) (rest : List (List UInt8 × ℕ)) (n : ℕ)
    (hn : 1 ≤ n) (hlen : n ≤ rest.length + 1) :
    CopyInv k r n
      (runPacketByFECFecEncode (ForwardErrorCorrection.init stale) k r (((buf₁, len₁) :: rest).take n)) := by
  obtain ⟨m, rfl⟩ : ∃ m, n = m + 1 := ⟨n - 1, by omega⟩
  have h := foldl_invariant
    (fun (s : ForwardErrorCorrection) (c : List UInt8 × ℕ) => packetByFECFecEncode s c.1 c.2 k r)
    (fun pre s => CopyInv k r pre.length s) (fun _ => True)
    (fun pre c s _ hinv => by simpa using copyInv_step hk hrk s c.1 c.2 hinv)
    (((buf₁, len₁) :: rest).take (m + 1)) [] _ (fun _ _ => trivial) (copyInv_init stale hk1 r len₁)
  have hlength : (((buf₁, len₁) :: rest).take (m + 1)).length = m + 1 := by simp; omega
  simp only [List.nil_append, hlength] at h
  rw [List.take_succ_cons, runPacketByFECFecEncode, List.foldl_cons,
    packetByFECFecEncode_first _ _ _ _ _ rfl]
  exact h

/-! ## The two streams -/

/-- The two copies of `PacketByFEC` on fresh encoders, fed the same chunks with `k` and `r` fixed:
after `n` calls the `Channel_sim/` copy has put `n + (n / k) * r` packets into `buffer_packets` and
the `FEC_Encode/` copy `n + r` once `n ≥ k`; from call `k` on the latter keeps all `n` media
packets where the former keeps `n % k`, and from call `2 * k` on the two buffers differ. -/
theorem packetByFEC_copies_differ (stale : Vector UInt8 packetMasksSize) (k r : ℕ) (hk1 : 1 ≤ k)
    (hk : k ≤ 16) (hr : 1 ≤ r) (hrk : r ≤ k) (buf₁ : List UInt8) (len₁ : ℕ)
    (rest : List (List UInt8 × ℕ)) (hlen : ∀ c ∈ rest, c.2 ≤ len₁) (n : ℕ) (hn : 1 ≤ n)
    (hcalls : n ≤ rest.length + 1) :
    let calls := (buf₁, len₁) :: rest
    let channelSim := runPacketByFEC (ForwardErrorCorrection.init stale) k r (calls.take n)
    let fecEncode := runPacketByFECFecEncode (ForwardErrorCorrection.init stale) k r (calls.take n)
    channelSim.bufferPackets.length = n + n / k * r ∧
      fecEncode.bufferPackets.length = n + (if k ≤ n then r else 0) ∧
      (k ≤ n → channelSim.mediaPackets.length = n % k ∧ fecEncode.mediaPackets.length = n) ∧
      (2 * k ≤ n → channelSim.bufferPackets ≠ fecEncode.bufferPackets) := by
  intro calls channelSim fecEncode
  have htake : (calls.take n).length = n := by simp [calls]; omega
  have hstream := streamInv_take stale hk1 hk hrk buf₁ len₁ rest hlen n hn
  have hcopy := copyInv_take stale hk1 hk hrk buf₁ len₁ rest n hn hcalls
  have hchan : channelSim.bufferPackets.length = n + n / k * r := by
    rw [hstream.buffer_eq, length_streamOut k r len₁ hk1, htake]
  have hfe : fecEncode.bufferPackets.length = n + (if k ≤ n then r else 0) := hcopy.buffer_length
  refine ⟨hchan, hfe, ?_, ?_⟩
  · intro _
    refine ⟨?_, hcopy.media_length⟩
    rw [hstream.media_eq, length_groupMedia_current k r hk1, htake]
  · -- two groups complete: `2 * r` FEC packets against `r`
    intro h2k heq
    have htwo : 2 ≤ n / k := (Nat.le_div_iff_mul_le hk1).mpr (by omega)
    have hmore : r < n / k * r := by
      calc r < 2 * r := by omega
        _ ≤ n / k * r := Nat.mul_le_mul_right r htwo
    have hlens := congrArg List.length heq
    rw [hchan, hfe, if_pos (by omega)] at hlens
    omega

/-- Two one-byte chunks with `k = r = 1`: the `Channel_sim/` copy sends `M₀ F₀ M₁ F₁`, the
`FEC_Encode/` copy `M₀ F₀ M₁`. -/
theorem packetByFEC_copies_two_chunks :
    (runPacketByFEC (ForwardErrorCorrection.init (Vector.replicate packetMasksSize 0)) 1 1
        ([([1], 1), ([1], 1)].take 2)).bufferPackets ≠
      (runPacketByFECFecEncode (ForwardErrorCorrection.init (Vector.replicate packetMasksSize 0)) 1 1
        ([([1], 1), ([1], 1)].take 2)).bufferPackets :=
  (packetByFEC_copies_differ (Vector.replicate packetMasksSize 0) 1 1 le_rfl (by decide) le_rfl le_rfl
    [1] 1 [([1], 1)] (by simp) 2 (by decide) (by decide)).2.2.2 (by decide)

end ChannelSim
