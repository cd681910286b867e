import ChannelSim.Fec.Encoder
import ChannelSim.Fec.MaskSpec
import ChannelSim.Lib.XorParity

/-! # What `EncodeFec` produces

For a full group (`1 ≤ r ≤ k ≤ 16`, equal protection, an empty FEC list and the encoder's
`sequence_number` at `k`, which is what the stream functions guarantee), `encodeFec_spec` says
`EncodeFec` returns `r` and leaves the packets `fecGroupOf`: FEC packet `i` carries row `i` of the
generated mask as its header mask and, in its payload, the XOR of exactly the media payloads that
row selects.

The proof follows the two loops of the source. `xorCovered_eq` is the inner loop over the media
packets, an XOR parity in the sense of `Lib.xorSelFrom`; `encodeFecRow_loop` is the outer loop,
whose invariant is the rotation of the FEC list: after `m` passes the `r - m` fresh packets still
to fill are in front and the `m` finished ones behind them. The header copy reads row
`sequence_number - num_media_packets`, which is row `m` in pass `m` because the numbering starts at
`k` (`maskBit_generated`, `header_row`).
-/

namespace ChannelSim
open Lib ForwardErrorCorrection
set_option autoImplicit false

/-! ## The reference group -/

/-- FEC packet `i` of a group as it should be: row `i` of `masks` in the header, the group's numbers,
and the XOR of the media payloads that row selects over the first `packetSize` bytes. -/
def fecPacketOf (masks : List UInt8) (packetSize groupNumber : ℕ) (media : List Packet) (r i : ℕ) :
    Packet where
  packetMask := ofLe16 (masks.getD (2 * i) 0) (masks.getD (2 * i + 1) 0)
  groupNumber := UInt8.ofNat groupNumber
  sequenceNumber := UInt8.ofNat (media.length + i)
  k := UInt8.ofNat media.length
  r := UInt8.ofNat r
  data := Vector.ofFn fun p =>
    if p.val < packetSize then xorSelFrom (colSet (maskRow masks i)) 0 (media.map fun m => m.data.get p)
    else 0

/-- The `r` FEC packets of a group, in row order. -/
def fecGroupOf (masks : List UInt8) (packetSize groupNumber : ℕ) (media : List Packet) (r : ℕ) :
    List Packet :=
  (List.range r).map (fecPacketOf masks packetSize groupNumber media r)

theorem le16_fecPacketOf (masks : List UInt8) (packetSize groupNumber : ℕ) (media : List Packet)
    (r i : ℕ) : le16 (fecPacketOf masks packetSize groupNumber media r i).packetMask = maskRow masks i := by
  rw [fecPacketOf, le16_ofLe16, maskRow]

/-! ## The inner loop -/

theorem getElem_xorPayloads (src dst : Vector UInt8 kMaxDataSize) (length p : ℕ)
    (hp : p < kMaxDataSize) :
    (xorPayloads src dst length)[p] = if p < length then dst[p] ^^^ src[p] else dst[p] := by
  simp [xorPayloads]

theorem xorCovered_eq (masks : Vector UInt8 packetMasksSize) (rowStart packetSize : ℕ) :
    ∀ (j : ℕ) (media : List Packet) (dst : Vector UInt8 kMaxDataSize),
      xorCovered masks rowStart packetSize j media dst = Vector.ofFn fun p =>
        if p.val < packetSize then
          dst.get p ^^^ xorSelFrom (fun j => maskBit masks (rowStart + j / 8) (7 - j % 8)) j
            (media.map fun m => m.data.get p)
        else dst.get p := by
  intro j media
  induction media generalizing j with
  | nil =>
    intro dst
    ext p hp
    simp [xorCovered]
  | cons m ms ih =>
    intro dst
    rw [xorCovered, ih]
    ext p hp
    simp only [Vector.getElem_ofFn, List.map_cons, xorSelFrom_cons]
    by_cases hps : p < packetSize
    · by_cases hbit : maskBit masks (rowStart + j / 8) (7 - j % 8) = true
      · simp [hps, hbit, getElem_xorPayloads _ _ _ p hp, lxor_assoc]
      · simp [hps, hbit]
    · by_cases hbit : maskBit masks (rowStart + j / 8) (7 - j % 8) = true
      · simp [hps, hbit, getElem_xorPayloads _ _ _ p hp]
      · simp [hps, hbit]

/-! ## The masks of a call -/

/-- `packet_masks_` once `EncodeFec` has cleared its front and `GeneratePacketMasks` has copied
the mask in. -/
def encodeMasks (s : ForwardErrorCorrection) (fecMaskType : FecMaskType) (k r numImportantPackets : ℕ)
    (useUnequalProtection : Bool) : Vector UInt8 packetMasksSize :=
  generatePacketMasks k r numImportantPackets useUnequalProtection (PacketMaskTable.ofType fecMaskType k)
    (writeVec s.packetMasks 0 (List.replicate (r * packetMaskSize k) 0))

theorem packetMaskSize_of_le (k : ℕ) (hk : k ≤ 16) : packetMaskSize k = 2 := by
  simp [packetMaskSize, kUlpfecPacketMaskSizeLBitClear]
  omega

section Group
variable (s : ForwardErrorCorrection) (fecMaskType : FecMaskType) (k r numImportantPackets : ℕ)
  (useUnequalProtection : Bool)

theorem encodeMasks_getD (hk : k ≤ 16) (hr : 1 ≤ r) (hrk : r ≤ k)
    (hprot : useUnequalProtection = false ∨ numImportantPackets = 0) (idx : ℕ) (hidx : idx < 2 * r) :
    (encodeMasks s fecMaskType k r numImportantPackets useUnequalProtection).toList.getD idx 0 =
      (generatedMask fecMaskType k r).getD idx 0 := by
  have hlen := (generatedMask_covers fecMaskType k r hk hr hrk).1
  have hsize : packetMasksSize = 288 := rfl
  have hgen : (!useUnequalProtection || numImportantPackets == 0) = true := by
    rcases hprot with h | h <;> simp [h]
  have hfold : (PacketMaskTable.ofType fecMaskType k).lookUp k r = generatedMask fecMaskType k r := rfl
  have hsome : (generatedMask fecMaskType k r)[idx]? = some (generatedMask fecMaskType k r)[idx] :=
    List.getElem?_eq_getElem (by omega)
  have hidx' : idx < packetMasksSize := by omega
  rw [getD_toList_vector _ idx hidx', encodeMasks, generatePacketMasks, if_pos (by simpa using hgen),
    hfold, getElem_writeVec, if_pos ⟨Nat.zero_le _, by omega⟩, Nat.sub_zero, hsome,
    List.getD_eq_getElem?_getD, hsome, Option.getD_some, Option.getD_some]

theorem maskBit_generated (hk : k ≤ 16) (hr : 1 ≤ r) (hrk : r ≤ k)
    (hprot : useUnequalProtection = false ∨ numImportantPackets = 0) (i j : ℕ) (hi : i < r)
    (hj : j < 16) :
    maskBit (encodeMasks s fecMaskType k r numImportantPackets useUnequalProtection)
        (i * packetMaskSize k + j / 8) (7 - j % 8) =
      colSet (maskRow (generatedMask fecMaskType k r) i) j := by
  rw [packetMaskSize_of_le k hk, maskBit, and_one_shiftLeft_ne_zero,
    encodeMasks_getD s fecMaskType k r numImportantPackets useUnequalProtection hk hr hrk hprot _
      (by omega), colSet, maskRow]
  by_cases hlow : j < 8
  · have h0 : j / 8 = 0 := by omega
    simp [h0, Nat.mul_comm]
  · have h1 : j / 8 = 1 := by omega
    simp [h1, Nat.mul_comm]

theorem encodeFecRow_fresh (hk : k ≤ 16) (hr : 1 ≤ r) (hrk : r ≤ k)
    (hprot : useUnequalProtection = false ∨ numImportantPackets = 0) (media : List Packet)
    (hlen : media.length = k) (m : ℕ) (hm : m < r) (rest : List Packet) :
    encodeFecRow s (encodeMasks s fecMaskType k r numImportantPackets useUnequalProtection) media r
        (packetMaskSize k) (k + m, Packet.empty :: rest) m =
      (k + m + 1, rest ++ [fecPacketOf (generatedMask fecMaskType k r) s.packetSize s.groupNumber
        media r m]) := by
  have hsize := packetMaskSize_of_le k hk
  have hmask := encodeMasks_getD s fecMaskType k r numImportantPackets useUnequalProtection hk hr hrk
    hprot
  have hbit := maskBit_generated s fecMaskType k r numImportantPackets useUnequalProtection hk hr hrk
    hprot m
  -- the header copy reads row `(k + m) - k = m`
  have hrow : (k + m - k) * packetMaskSize k = 2 * m := by rw [hsize]; omega
  simp only [encodeFecRow, fecPacketOf, hlen, Prod.mk.injEq, true_and, List.append_cancel_left_eq,
    List.cons.injEq, and_true]
  rw [hrow, hmask (2 * m) (by omega), hmask (2 * m + 1) (by omega)]
  simp only [Packet.mk.injEq, true_and]
  rw [xorCovered_eq]
  apply Vector.ext
  intro p hp
  simp only [Vector.getElem_ofFn, Packet.empty, vector_get_eq_getElem, Vector.getElem_replicate, lzero_xor]
  split_ifs with hps
  · apply xorSelFrom_congr
    intro j _ hj
    simp only [List.length_map, Nat.zero_add, hlen] at hj
    exact hbit j hm (by omega)
  · rfl

theorem encodeFecRow_loop (hk : k ≤ 16) (hr : 1 ≤ r) (hrk : r ≤ k)
    (hprot : useUnequalProtection = false ∨ numImportantPackets = 0) (media : List Packet)
    (hlen : media.length = k) :
    ∀ m ≤ r, (List.range m).foldl
        (encodeFecRow s (encodeMasks s fecMaskType k r numImportantPackets useUnequalProtection) media r
          (packetMaskSize k)) (k, List.replicate r Packet.empty) =
      (k + m, List.replicate (r - m) Packet.empty ++
        (List.range m).map (fecPacketOf (generatedMask fecMaskType k r) s.packetSize s.groupNumber media r)) := by
  intro m
  induction m with
  | zero => intro _; simp
  | succ m ih =>
    intro hm
    have hfresh : r - m = (r - (m + 1)) + 1 := by omega
    rw [foldl_range_succ, ih (by omega), hfresh, List.replicate_succ, List.cons_append,
      encodeFecRow_fresh s fecMaskType k r numImportantPackets useUnequalProtection hk hr hrk hprot media
        hlen m (by omega), List.range_succ, List.map_append, List.append_assoc]
    simp only [List.map_cons, List.map_nil, Nat.add_assoc]

end Group

theorem encodeFec_frame (s : ForwardErrorCorrection) (media : List Packet)
    (r numImportantPackets : ℕ) (useUnequalProtection : Bool) (fecMaskType : FecMaskType)
    (fecPackets : List Packet) :
    ∃ (masks : Vector UInt8 packetMasksSize) (seq : ℕ),
      (encodeFec s media r numImportantPackets useUnequalProtection fecMaskType fecPackets).2.1 =
        { s with packetMasks := masks, sequenceNumber := seq } := by
  dsimp only [encodeFec]
  split_ifs
  · exact ⟨s.packetMasks, s.sequenceNumber, rfl⟩
  · exact ⟨_, _, rfl⟩

theorem encodeFec_fecFirstUse (s : ForwardErrorCorrection) (media : List Packet)
    (r numImportantPackets : ℕ) (useUnequalProtection : Bool) (fecMaskType : FecMaskType)
    (fecPackets : List Packet) :
    (encodeFec s media r numImportantPackets useUnequalProtection fecMaskType fecPackets).2.1.fecFirstUse =
      s.fecFirstUse := by
  obtain ⟨masks, seq, henc⟩ :=
    encodeFec_frame s media r numImportantPackets useUnequalProtection fecMaskType fecPackets
  rw [henc]

/-- `EncodeFec` on a full group: it returns `r`, numbers on from `k` to `k + r`, and leaves the
reference group `fecGroupOf` of the generated mask in the FEC list. -/
theorem encodeFec_spec (s : ForwardErrorCorrection) (media : List Packet) (k r numImportantPackets : ℕ)
    (useUnequalProtection : Bool) (fecMaskType : FecMaskType) (hk : k ≤ 16) (hr : 1 ≤ r)
    (hrk : r ≤ k) (hprot : useUnequalProtection = false ∨ numImportantPackets = 0)
    (hlen : media.length = k) (hseq : s.sequenceNumber = k) :
    encodeFec s media r numImportantPackets useUnequalProtection fecMaskType [] =
      (r, { s with packetMasks := encodeMasks s fecMaskType k r numImportantPackets useUnequalProtection,
                   sequenceNumber := k + r },
        fecGroupOf (generatedMask fecMaskType k r) s.packetSize s.groupNumber media r) := by
  have hloop := encodeFecRow_loop s fecMaskType k r numImportantPackets useUnequalProtection hk hr hrk
    hprot media hlen r le_rfl
  subst hlen
  rw [Nat.sub_self, List.replicate_zero, List.nil_append] at hloop
  simp only [encodeFec, if_neg (show ¬r = 0 by omega), List.nil_append]
  simp only [encodeMasks] at hloop
  rw [hseq, hloop, fecGroupOf]
  rfl

theorem encodeFec_full_group (s : ForwardErrorCorrection) (media : List Packet)
    (k r numImportantPackets : ℕ) (useUnequalProtection : Bool) (fecMaskType : FecMaskType)
    (hk : k ≤ 16) (hrk : r ≤ k) (hprot : useUnequalProtection = false ∨ numImportantPackets = 0)
    (hlen : media.length = k) (hseq : s.sequenceNumber = k) :
    ∃ (masks : Vector UInt8 packetMasksSize) (seq : ℕ),
      encodeFec s media r numImportantPackets useUnequalProtection fecMaskType [] =
        (r, { s with packetMasks := masks, sequenceNumber := seq },
          fecGroupOf (generatedMask fecMaskType k r) s.packetSize s.groupNumber media r) := by
  rcases Nat.eq_zero_or_pos r with hr | hr
  · -- no FEC packets: `EncodeFec` returns before touching anything
    subst hr
    exact ⟨s.packetMasks, s.sequenceNumber, by simp [encodeFec, fecGroupOf]⟩
  · exact ⟨_, _, encodeFec_spec s media k r numImportantPackets useUnequalProtection fecMaskType hk
      hr hrk hprot hlen hseq⟩

theorem length_fecGroupOf (masks : List UInt8) (packetSize groupNumber : ℕ) (media : List Packet)
    (r : ℕ) : (fecGroupOf masks packetSize groupNumber media r).length = r := by
  simp [fecGroupOf]

theorem getElem_fecGroupOf (masks : List UInt8) (packetSize groupNumber : ℕ) (media : List Packet)
    (r i : ℕ) (hi : i < (fecGroupOf masks packetSize groupNumber media r).length) :
    (fecGroupOf masks packetSize groupNumber media r)[i] =
      fecPacketOf masks packetSize groupNumber media r i := by
  simp [fecGroupOf]

theorem data_fecPacketOf (masks : List UInt8) (packetSize groupNumber : ℕ) (media : List Packet)
    (r i p : ℕ) (hp : p < packetSize) (hpmax : p < kMaxDataSize) :
    (fecPacketOf masks packetSize groupNumber media r i).data[p] =
      xorSelFrom (colSet (maskRow masks i)) 0 (media.map fun m => m.data[p]) := by
  simp [fecPacketOf, hp]

/-- `EncodeFec` on a full group, with the header mask and the payload of every FEC packet from the
same mask row: it returns `r` and leaves `r` FEC packets numbered `k, …, k + r - 1` in the group of
the encoder; packet `i` serializes row `i` of the generated mask as its `packet_mask`, that row has
no bit past column `k`, and its payload below `packet_size` is the XOR of the media payloads the
row selects. Every media packet is selected by some row, so any single lost media packet is that
row's FEC payload XOR the other media packets the row selects. -/
theorem encodeFec_single_erasure (s : ForwardErrorCorrection) (media : List Packet)
    (k r numImportantPackets : ℕ) (useUnequalProtection : Bool) (fecMaskType : FecMaskType)
    (hk : k ≤ 16) (hr : 1 ≤ r) (hrk : r ≤ k)
    (hprot : useUnequalProtection = false ∨ numImportantPackets = 0)
    (hps : s.packetSize ≤ kMaxDataSize) (hlen : media.length = k) (hseq : s.sequenceNumber = k) :
    let out := encodeFec s media r numImportantPackets useUnequalProtection fecMaskType []
    let row := maskRow (generatedMask fecMaskType k r)
    out.1 = r ∧ out.2.2.length = r ∧
      (∀ i (hi : i < out.2.2.length),
        out.2.2[i].sequenceNumber = UInt8.ofNat (k + i) ∧ out.2.2[i].k = UInt8.ofNat k ∧
          out.2.2[i].r = UInt8.ofNat r ∧ out.2.2[i].groupNumber = UInt8.ofNat s.groupNumber ∧
          le16 out.2.2[i].packetMask = row i ∧ (∀ j < 16, colSet (row i) j = true → j < k) ∧
          ∀ p (hp : p < s.packetSize),
            out.2.2[i].data[p] = xorSelFrom (colSet (row i)) 0 (media.map fun m => m.data[p])) ∧
      (∀ j < k, ∃ i < r, colSet (row i) j = true) ∧
      ∀ j (hj : j < k), ∃ (i : ℕ) (hi : i < out.2.2.length), colSet (row i) j = true ∧
        ∀ p (hp : p < s.packetSize),
          media[j].data[p] = out.2.2[i].data[p] ^^^
            xorSelFrom (fun j' => colSet (row i) j' && j' != j) 0 (media.map fun m => m.data[p]) := by
  intro out row
  have hspec := encodeFec_spec s media k r numImportantPackets useUnequalProtection fecMaskType hk
    hr hrk hprot hlen hseq
  obtain ⟨-, hnone, hall⟩ := generatedMask_covers fecMaskType k r hk hr hrk
  have hgroup : out.2.2 = fecGroupOf (generatedMask fecMaskType k r) s.packetSize s.groupNumber
      media r := by simp only [out, hspec]
  refine ⟨by simp only [out, hspec], by rw [hgroup, length_fecGroupOf], ?_, hall, ?_⟩
  · intro i hi
    have hi' : i < r := by rw [hgroup, length_fecGroupOf] at hi; exact hi
    simp only [hgroup, getElem_fecGroupOf]
    refine ⟨by simp [fecPacketOf, hlen], by simp [fecPacketOf, hlen], rfl, rfl,
      le16_fecPacketOf _ _ _ _ _ _, hnone i hi', ?_⟩
    intro p hp
    exact data_fecPacketOf _ _ _ _ _ _ _ hp (by omega)
  · intro j hj
    obtain ⟨i, hi, hset⟩ := hall j hj
    refine ⟨i, by rw [hgroup, length_fecGroupOf]; exact hi, hset, ?_⟩
    intro p hp
    simp only [hgroup, getElem_fecGroupOf]
    rw [data_fecPacketOf _ _ _ _ _ _ _ hp (by omega)]
    have hrec := xorSelFrom_recover (colSet (row i)) 0 (media.map fun m => m.data[p]) j
      (by simp; omega) (by simpa using hset)
    simp only [Nat.zero_add, List.getElem_map] at hrec
    exact hrec.symm

/-- Ten media packets whose payloads are the bytes `1` to `10`, two FEC packets over four bytes:
the masks of `kFecMaskRandom` cover every media packet, so any one of them can be lost. -/
theorem encodeFec_single_erasure_ten :
    let s := { ForwardErrorCorrection.init (Vector.replicate packetMasksSize 0) with
      packetSize := 4, sequenceNumber := 10 }
    let media := (List.range 10).map fun j =>
      { Packet.empty with data := Vector.replicate kMaxDataSize (UInt8.ofNat (j + 1)) }
    let out := encodeFec s media 2 0 false .kFecMaskRandom []
    out.1 = 2 ∧ out.2.2.length = 2 ∧
      (∀ j < 10, ∃ i < 2, colSet (maskRow (generatedMask .kFecMaskRandom 10 2) i) j = true) ∧
      ∃ (i : ℕ) (hi : i < out.2.2.length),
        colSet (maskRow (generatedMask .kFecMaskRandom 10 2) i) 3 = true ∧ ∀ p (hp : p < 4),
          media[3].data.get ⟨p, hp.trans (by decide)⟩ = out.2.2[i].data.get ⟨p, hp.trans (by decide)⟩ ^^^
            xorSelFrom (fun j' => colSet (maskRow (generatedMask .kFecMaskRandom 10 2) i) j' && j' != 3) 0
              (media.map fun m => m.data.get ⟨p, hp.trans (by decide)⟩) := by
  intro s media out
  have h := encodeFec_single_erasure s media 10 2 0 false .kFecMaskRandom (by decide) (by decide)
    (by decide) (Or.inl rfl) (by decide) (by rw [List.length_map, List.length_range]) rfl
  exact ⟨h.1, h.2.1, h.2.2.2.1, h.2.2.2.2 3 (by decide)⟩

end ChannelSim
