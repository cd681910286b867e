import ChannelSim.Fec.TableFormat

/-! # The masks `EncodeFec` works from

`generatedMask type k r` is what `GeneratePacketMasks` copies into `packet_masks_` under equal
protection. It is the shipped table's `kMask{Random,Bursty}{k}_{r}` up to 12 media packets
(`generatedMask_table`, through `LookUpInFecTable`) and the interleaved rows from 13 to 16
(`colSet_generatedMask_interleaved`). Either way, for `1 ≤ r ≤ k ≤ 16`, the mask has `r` rows of
two bytes, no row has a bit at a column `≥ k`, and every column `< k` is set in some row
(`generatedMask_covers`).
-/

namespace ChannelSim
open Lib
set_option autoImplicit false

/-- Column `j` of a mask row: bit `7 - j % 8` of byte `j / 8`. -/
def colSet (row : List UInt8) (j : ℕ) : Bool :=
  (row.getD (j / 8) 0).toNat.testBit (7 - j % 8)

/-- Row `i` of a mask of two-byte rows. -/
def maskRow (masks : List UInt8) (i : ℕ) : List UInt8 :=
  [masks.getD (2 * i) 0, masks.getD (2 * i + 1) 0]

/-- The mask `GeneratePacketMasks` copies for `k` media and `r` FEC packets. -/
def generatedMask (fecMaskType : FecMaskType) (k r : ℕ) : List UInt8 :=
  (PacketMaskTable.ofType fecMaskType k).lookUp k r

/-- The shipped mask `PickTable` selects for a mask type. -/
def tableMask : FecMaskType → ℕ → ℕ → List UInt8
  | .kFecMaskRandom => kMaskRandom
  | .kFecMaskBursty => kMaskBursty

/-- What makes a mask fit for `k` media and `r` FEC packets: `r` two-byte rows, no bit at a
column `≥ k`, and every column `< k` set in at least one row. -/
def MaskCovers (masks : List UInt8) (k r : ℕ) : Prop :=
  masks.length = 2 * r ∧ (∀ i < r, ∀ j < 16, colSet (maskRow masks i) j = true → j < k) ∧
    ∀ j < k, ∃ i < r, colSet (maskRow masks i) j = true

instance (masks : List UInt8) (k r : ℕ) : Decidable (MaskCovers masks k r) :=
  inferInstanceAs (Decidable (_ ∧ _ ∧ _))

/-! ## Up to 12 media packets: the shipped tables -/

theorem pickTable_of_le (fecMaskType : FecMaskType) (k : ℕ) (hk : k ≤ 12) :
    pickTable fecMaskType k =
      match fecMaskType with
      | .kFecMaskRandom => kPacketMaskRandomTbl
      | .kFecMaskBursty => kPacketMaskBurstyTbl := by
  have h12 : (kPacketMaskBurstyTbl.getD 0 0).toNat = 12 := rfl
  cases fecMaskType with
  | kFecMaskRandom => simp [pickTable]
  | kFecMaskBursty =>
    have hsel : FecMaskType.kFecMaskBursty ≠ .kFecMaskRandom ∧
        k ≤ (kPacketMaskBurstyTbl.getD 0 0).toNat := ⟨by decide, by rw [h12]; exact hk⟩
    rw [pickTable, if_pos hsel]

theorem generatedMask_table (fecMaskType : FecMaskType) (k r : ℕ) (hk : 1 ≤ k) (hk' : k ≤ 12)
    (hr : 1 ≤ r) (hrk : r ≤ k) : generatedMask fecMaskType k r = tableMask fecMaskType k r := by
  have hpick := pickTable_of_le fecMaskType k hk'
  have hdec := lookUpInFecTable_shipped (k - 1) (by omega) (r - 1) (by omega)
  have e1 : k - 1 + 1 = k := by omega
  have e2 : r - 1 + 1 = r := by omega
  rw [e1, e2] at hdec
  simp only [generatedMask, PacketMaskTable.lookUp, PacketMaskTable.ofType, if_pos hk', hpick]
  cases fecMaskType with
  | kFecMaskRandom => exact hdec.1
  | kFecMaskBursty => exact hdec.2

set_option maxRecDepth 8000 in
theorem kMaskRandom_covers : ∀ k < 13, ∀ r < k + 1, 1 ≤ r → MaskCovers (kMaskRandom k r) k r := by
  decide +kernel

set_option maxRecDepth 8000 in
theorem kMaskBursty_covers : ∀ k < 13, ∀ r < k + 1, 1 ≤ r → MaskCovers (kMaskBursty k r) k r := by
  decide +kernel

theorem tableMask_covers (fecMaskType : FecMaskType) (k r : ℕ) (hk : k ≤ 12) (hr : 1 ≤ r)
    (hrk : r ≤ k) : MaskCovers (tableMask fecMaskType k r) k r := by
  cases fecMaskType with
  | kFecMaskRandom => exact kMaskRandom_covers k (by omega) r (by omega) hr
  | kFecMaskBursty => exact kMaskBursty_covers k (by omega) r (by omega) hr

/-! ## From 13 media packets on: interleaved rows -/

theorem testBit_interleavedMaskByte (k r row col b : ℕ) (hb : b < 8) :
    (interleavedMaskByte k r row col).toNat.testBit (7 - b) =
      decide ((col * 8 + b) % r = row ∧ col * 8 + b < k) := by
  have h := testBit_byteOfFlags (decide ((col * 8 + 0) % r = row ∧ col * 8 + 0 < k))
    (decide ((col * 8 + 1) % r = row ∧ col * 8 + 1 < k))
    (decide ((col * 8 + 2) % r = row ∧ col * 8 + 2 < k))
    (decide ((col * 8 + 3) % r = row ∧ col * 8 + 3 < k))
    (decide ((col * 8 + 4) % r = row ∧ col * 8 + 4 < k))
    (decide ((col * 8 + 5) % r = row ∧ col * 8 + 5 < k))
    (decide ((col * 8 + 6) % r = row ∧ col * 8 + 6 < k))
    (decide ((col * 8 + 7) % r = row ∧ col * 8 + 7 < k)) b hb
  simp only [decide_eq_true_eq] at h
  rw [interleavedMaskByte]
  simp only
  rw [h]
  interval_cases b <;> rfl

/-- The rows `LookUp` computes from 13 to 16 media packets, each of two bytes. -/
def interleavedRows (k r : ℕ) : List (List UInt8) :=
  (List.range r).map fun row => [interleavedMaskByte k r row 0, interleavedMaskByte k r row 1]

theorem generatedMask_interleaved (fecMaskType : FecMaskType) (k r : ℕ) (hk : 12 < k)
    (hk' : k ≤ 16) : generatedMask fecMaskType k r = (interleavedRows k r).flatten := by
  have hsize : packetMaskSize k = 2 := by simp [packetMaskSize, kUlpfecPacketMaskSizeLBitClear]; omega
  simp only [generatedMask, PacketMaskTable.lookUp, if_neg (show ¬k ≤ 12 by omega), hsize,
    interleavedRows, List.flatMap_def]
  rfl

theorem maskRow_interleaved (k r i : ℕ) (hi : i < r) :
    maskRow (interleavedRows k r).flatten i =
      [interleavedMaskByte k r i 0, interleavedMaskByte k r i 1] := by
  have hw : ∀ i (h : i < (interleavedRows k r).length), (interleavedRows k r)[i].length = 2 := by
    intro i h; simp [interleavedRows]
  have hlen : i < (interleavedRows k r).length := by simpa [interleavedRows] using hi
  have h0 := getD_flatten_uniform _ 2 hw i 0 hlen (by omega) (0 : UInt8)
  have h1 := getD_flatten_uniform _ 2 hw i 1 hlen (by omega) (0 : UInt8)
  rw [Nat.add_zero] at h0
  rw [maskRow, h0, h1]
  simp [interleavedRows]

theorem colSet_generatedMask_interleaved (fecMaskType : FecMaskType) (k r i j : ℕ) (hk : 12 < k)
    (hk' : k ≤ 16) (hi : i < r) (hj : j < 16) :
    colSet (maskRow (generatedMask fecMaskType k r) i) j = decide (j % r = i ∧ j < k) := by
  rw [generatedMask_interleaved fecMaskType k r hk hk', maskRow_interleaved k r i hi, colSet]
  have hj8 : j / 8 * 8 + j % 8 = j := Nat.div_add_mod' j 8
  have hbyte := testBit_interleavedMaskByte k r i (j / 8) (j % 8) (Nat.mod_lt j (by omega))
  rw [hj8] at hbyte
  by_cases hlow : j < 8
  · have h0 : j / 8 = 0 := by omega
    rw [h0] at hbyte
    simpa [h0] using hbyte
  · have h1 : j / 8 = 1 := by omega
    rw [h1] at hbyte
    simpa [h1] using hbyte

theorem interleaved_covers (fecMaskType : FecMaskType) (k r : ℕ) (hk : 12 < k) (hk' : k ≤ 16)
    (hr : 1 ≤ r) : MaskCovers (generatedMask fecMaskType k r) k r := by
  refine ⟨?_, ?_, ?_⟩
  · have hw : ∀ i (h : i < (interleavedRows k r).length), (interleavedRows k r)[i].length = 2 := by
      intro i h; simp [interleavedRows]
    have hlen := length_flatten_take (interleavedRows k r) (fun _ => 2) hw r (by simp [interleavedRows])
    rw [List.take_of_length_le (by simp [interleavedRows])] at hlen
    rw [generatedMask_interleaved fecMaskType k r hk hk', hlen]
    simp [Nat.mul_comm]
  · intro i hi j hj hset
    rw [colSet_generatedMask_interleaved fecMaskType k r i j hk hk' hi hj] at hset
    simp at hset
    exact hset.2
  · intro j hj
    refine ⟨j % r, Nat.mod_lt j (by omega), ?_⟩
    rw [colSet_generatedMask_interleaved fecMaskType k r (j % r) j hk hk' (Nat.mod_lt j (by omega))
      (by omega)]
    simp [hj]

theorem generatedMask_covers (fecMaskType : FecMaskType) (k r : ℕ) (hk : k ≤ 16) (hr : 1 ≤ r)
    (hrk : r ≤ k) : MaskCovers (generatedMask fecMaskType k r) k r := by
  by_cases hsmall : k ≤ 12
  · rw [generatedMask_table fecMaskType k r (by omega) hsmall hr hrk]
    exact tableMask_covers fecMaskType k r hsmall hr hrk
  · exact interleaved_covers fecMaskType k r (by omega) hk hr

end ChannelSim
