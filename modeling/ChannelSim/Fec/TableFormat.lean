import ChannelSim.Fec.Masks

/-! # What `LookUpInFecTable` decodes

The mask tables are a byte format: the entry count, then per entry a count byte followed by that
many blocks, block `j` of entry `i` holding `j + 1` rows of `entryWidth i` bytes. `MaskTableLayout`
carries that shape as fields, `MaskTableLayout.encode` writes it out, and `lookUpInFecTable_encode`
shows that `LookUpInFecTable` points exactly at block `j` of entry `i`, for tables of any number
of entries, past entry 16 where the width changes included. The loop invariant of the outer hop
is `hop_invariant`: after `m` entries the cursor is at `entryStart m` and the width is that of the
entries just skipped.

The shipped tables are `randomLayout.encode` and `burstyLayout.encode`; their blocks are the
`kMask{Random,Bursty}{k}_{r}` macros.
-/

namespace ChannelSim
open Lib
set_option autoImplicit false

/-- Bytes per row in entry `i`: 2 for the first 16 entries (at most 16 media packets), 6 after. -/
def entryWidth (i : ℕ) : ℕ := if i < 16 then 2 else 6

/-- A mask table as `LookUpInFecTable` reads it: `entries[i][j]` is block `j` of entry `i`.
Counts are bytes, and block `j` of entry `i` has `j + 1` rows of `entryWidth i` bytes. -/
structure MaskTableLayout where
  entries : List (List (List UInt8))
  entries_lt : entries.length < 256
  count_lt : ∀ i (hi : i < entries.length), entries[i].length < 256
  block_length : ∀ i (hi : i < entries.length) j (hj : j < entries[i].length),
    entries[i][j].length = entryWidth i * (j + 1)

namespace MaskTableLayout

/-- An entry: its count byte, then its blocks. -/
def encodeEntry (blocks : List (List UInt8)) : List UInt8 :=
  blocks.length.toUInt8 :: blocks.flatten

/-- The table: the entry count, then the entries. -/
def encode (L : MaskTableLayout) : List UInt8 :=
  L.entries.length.toUInt8 :: (L.entries.map encodeEntry).flatten

/-- Where entry `i` (its count byte) starts. -/
def entryStart (L : MaskTableLayout) (i : ℕ) : ℕ :=
  1 + ((L.entries.take i).map encodeEntry).flatten.length

/-- The bytes before block `j` of entry `i`. -/
def blockPrefix (L : MaskTableLayout) (i j : ℕ) : List UInt8 :=
  L.entries.length.toUInt8 :: ((L.entries.take i).map encodeEntry).flatten ++
    (L.entries.getD i []).length.toUInt8 :: ((L.entries.getD i []).take j).flatten

/-- The bytes after block `j` of entry `i`. -/
def blockSuffix (L : MaskTableLayout) (i j : ℕ) : List UInt8 :=
  ((L.entries.getD i []).drop (j + 1)).flatten ++ ((L.entries.drop (i + 1)).map encodeEntry).flatten

theorem encode_eq_around (L : MaskTableLayout) (i : ℕ) (hi : i < L.entries.length) (j : ℕ)
    (hj : j < L.entries[i].length) :
    L.encode = L.blockPrefix i j ++ L.entries[i][j] ++ L.blockSuffix i j := by
  have hget : L.entries.getD i [] = L.entries[i] := by simp [hi]
  have houter := flatten_eq_around (L.entries.map encodeEntry) i (by simpa using hi)
  have hinner := flatten_eq_around L.entries[i] j hj
  rw [encode, houter, List.getElem_map, encodeEntry, hinner, blockPrefix, blockSuffix, hget,
    List.map_take, List.map_drop]
  simp only [List.cons_append, List.append_assoc]

theorem entryStart_succ (L : MaskTableLayout) (i : ℕ) (hi : i < L.entries.length) :
    L.entryStart (i + 1) = L.entryStart i + (encodeEntry L.entries[i]).length := by
  simp only [entryStart, List.take_succ_eq_append_getElem hi, List.map_append, List.flatten_append,
    List.length_append, List.map_cons, List.map_nil, List.flatten_cons, List.flatten_nil,
    List.append_nil]
  omega

theorem encodeEntry_length (L : MaskTableLayout) (i : ℕ) (hi : i < L.entries.length) :
    (encodeEntry L.entries[i]).length =
      1 + ((List.range L.entries[i].length).map fun j => entryWidth i * (j + 1)).sum := by
  have h := length_flatten_take L.entries[i] (fun j => entryWidth i * (j + 1))
    (L.block_length i hi) L.entries[i].length le_rfl
  rw [List.take_length] at h
  rw [encodeEntry, List.length_cons, h]
  omega

theorem count_at_entryStart (L : MaskTableLayout) (i : ℕ) (hi : i < L.entries.length) :
    (L.encode.getD (L.entryStart i) 0).toNat = L.entries[i].length := by
  have hdrop := drop_flatten_take (L.entries.map encodeEntry) i (by simpa using hi)
  have hat : ((L.entries.map encodeEntry).flatten)[((L.entries.take i).map encodeEntry).flatten.length]? =
      some (L.entries[i].length.toUInt8) := by
    have h0 := congrArg (fun l : List UInt8 => l[0]?) hdrop
    simp only [List.getElem?_drop, Nat.add_zero] at h0
    rw [List.map_take, h0, List.getElem_map, encodeEntry]
    rfl
  have hc := L.count_lt i hi
  rw [encode, entryStart, List.getD_eq_getElem?_getD, Nat.add_comm, List.getElem?_cons_succ, hat]
  simp [Nat.toUInt8, UInt8.toNat_ofNat', Nat.mod_eq_of_lt hc]

/-- The width `entry_size_increment` holds once the hop has stepped over `m` entries. -/
def widthAfter (m : ℕ) : ℕ := if m ≤ 16 then 2 else 6

theorem width_at (m : ℕ) : (if m = 16 then 6 else widthAfter m) = entryWidth m := by
  unfold widthAfter entryWidth
  split_ifs <;> omega

theorem hop_step (L : MaskTableLayout) (m : ℕ) (hm : m < L.entries.length) :
    hopEntry L.encode (L.entryStart m, widthAfter m) m =
      (L.entryStart (m + 1), widthAfter (m + 1)) := by
  have hw : entryWidth m = widthAfter (m + 1) := by
    unfold widthAfter entryWidth
    split_ifs <;> omega
  simp only [hopEntry, width_at, L.count_at_entryStart m hm, skipBlocks_eq,
    L.entryStart_succ m hm, L.encodeEntry_length m hm, hw]
  rw [Nat.add_assoc]

theorem hop_invariant (L : MaskTableLayout) :
    ∀ m ≤ L.entries.length,
      (List.range m).foldl (hopEntry L.encode) (1, 2) = (L.entryStart m, widthAfter m) := by
  intro m
  induction m with
  | zero => intro _; rfl
  | succ m ih =>
    intro hm
    rw [foldl_range_succ, ih (by omega), hop_step L m (by omega)]

theorem blockPrefix_length (L : MaskTableLayout) (i : ℕ) (hi : i < L.entries.length) (j : ℕ)
    (hj : j < L.entries[i].length) :
    (L.blockPrefix i j).length =
      L.entryStart i + 1 + ((List.range j).map fun j => entryWidth i * (j + 1)).sum := by
  have hget : L.entries.getD i [] = L.entries[i] := by simp [hi]
  have h := length_flatten_take L.entries[i] (fun j => entryWidth i * (j + 1))
    (L.block_length i hi) j (by omega)
  simp only [blockPrefix, entryStart, hget, List.length_cons, List.length_append, h]
  omega

theorem lookUpInFecTable_encode (L : MaskTableLayout) (i : ℕ) (hi : i < L.entries.length) (j : ℕ)
    (hj : j < L.entries[i].length) :
    lookUpInFecTable L.encode i j = ⟨(L.blockPrefix i j).length, L.entries[i][j].length⟩ := by
  simp only [lookUpInFecTable, L.hop_invariant i (by omega), width_at, skipBlocks_eq,
    L.blockPrefix_length i hi j hj, L.block_length i hi j hj]

theorem read_lookUpInFecTable_encode (L : MaskTableLayout) (i : ℕ) (hi : i < L.entries.length)
    (j : ℕ) (hj : j < L.entries[i].length) :
    (lookUpInFecTable L.encode i j).read L.encode = L.entries[i][j] := by
  have hview := L.lookUpInFecTable_encode i hi j hj
  have hlayout := L.encode_eq_around i hi j hj
  rw [hview, ArrayView.read]
  nth_rewrite 1 [hlayout]
  rw [List.append_assoc, List.drop_left, List.take_left]

end MaskTableLayout

/-! ## The shipped tables -/

/-- Entry `i` of a shipped table holds the masks `kMask (i + 1) (j + 1)` for `j ≤ i`. -/
def shippedEntries (kMask : ℕ → ℕ → List UInt8) : List (List (List UInt8)) :=
  (List.range 12).map fun i => (List.range (i + 1)).map fun j => kMask (i + 1) (j + 1)

@[simp] theorem length_shippedEntries (kMask : ℕ → ℕ → List UInt8) :
    (shippedEntries kMask).length = 12 := by
  simp [shippedEntries]

theorem getElem_shippedEntries (kMask : ℕ → ℕ → List UInt8) (i : ℕ)
    (hi : i < (shippedEntries kMask).length) (j : ℕ) (hj : j < (shippedEntries kMask)[i].length) :
    (shippedEntries kMask)[i][j] = kMask (i + 1) (j + 1) := by
  simp [shippedEntries]

theorem length_getElem_shippedEntries (kMask : ℕ → ℕ → List UInt8) (i : ℕ)
    (hi : i < (shippedEntries kMask).length) : (shippedEntries kMask)[i].length = i + 1 := by
  simp [shippedEntries]

set_option maxRecDepth 4000 in
theorem kMaskRandom_length : ∀ k < 13, ∀ r < k + 1, 1 ≤ r → (kMaskRandom k r).length = 2 * r := by
  decide

set_option maxRecDepth 4000 in
theorem kMaskBursty_length : ∀ k < 13, ∀ r < k + 1, 1 ≤ r → (kMaskBursty k r).length = 2 * r := by
  decide


namespace MaskTableLayout

/-- A shipped table as a layout, given that its masks have `r` two-byte rows. -/
def shipped (kMask : ℕ → ℕ → List UInt8)
    (hlen : ∀ k < 13, ∀ r < k + 1, 1 ≤ r → (kMask k r).length = 2 * r) : MaskTableLayout where
  entries := shippedEntries kMask
  entries_lt := by simp
  count_lt := by
    intro i hi
    rw [length_getElem_shippedEntries]
    simp at hi
    omega
  block_length := by
    intro i hi j hj
    have hi' : i < 12 := by simpa using hi
    have hj' : j < i + 1 := by rwa [length_getElem_shippedEntries] at hj
    rw [getElem_shippedEntries, hlen (i + 1) (by omega) (j + 1) (by omega) (by omega), entryWidth,
      if_pos (by omega)]

/-- `kPacketMaskRandomTbl` in the table layout. -/
def randomLayout : MaskTableLayout := shipped kMaskRandom kMaskRandom_length

/-- `kPacketMaskBurstyTbl` in the table layout. -/
def burstyLayout : MaskTableLayout := shipped kMaskBursty kMaskBursty_length

theorem shipped_encode (kMask : ℕ → ℕ → List UInt8)
    (hlen : ∀ k < 13, ∀ r < k + 1, 1 ≤ r → (kMask k r).length = 2 * r) :
    (shipped kMask hlen).encode =
      12 :: ((List.range 12).map fun i =>
        (i + 1).toUInt8 :: ((List.range (i + 1)).map fun r => kMask (i + 1) (r + 1)).flatten).flatten := by
  simp only [encode, shipped, shippedEntries, encodeEntry, List.length_map, List.length_range,
    List.map_map, Function.comp_def]
  rfl

theorem read_shipped (kMask : ℕ → ℕ → List UInt8)
    (hlen : ∀ k < 13, ∀ r < k + 1, 1 ≤ r → (kMask k r).length = 2 * r) (i : ℕ) (hi : i < 12)
    (j : ℕ) (hj : j ≤ i) :
    (lookUpInFecTable (shipped kMask hlen).encode i j).read (shipped kMask hlen).encode =
      kMask (i + 1) (j + 1) := by
  have hi' : i < (shipped kMask hlen).entries.length := by simp [shipped, hi]
  have hj' : j < (shipped kMask hlen).entries[i].length := by
    simp only [shipped, length_getElem_shippedEntries]
    omega
  rw [read_lookUpInFecTable_encode _ i hi' j hj']
  exact getElem_shippedEntries kMask i hi' j hj'

theorem randomLayout_encode : randomLayout.encode = kPacketMaskRandomTbl := by
  rw [randomLayout, shipped_encode]
  rfl

theorem burstyLayout_encode : burstyLayout.encode = kPacketMaskBurstyTbl := by
  rw [burstyLayout, shipped_encode]
  rfl

end MaskTableLayout

open MaskTableLayout in
theorem lookUpInFecTable_shipped (i : ℕ) (hi : i < 12) (j : ℕ) (hj : j ≤ i) :
    (lookUpInFecTable kPacketMaskRandomTbl i j).read kPacketMaskRandomTbl =
        kMaskRandom (i + 1) (j + 1) ∧
      (lookUpInFecTable kPacketMaskBurstyTbl i j).read kPacketMaskBurstyTbl =
        kMaskBursty (i + 1) (j + 1) := by
  rw [← randomLayout_encode, ← burstyLayout_encode]
  exact ⟨read_shipped kMaskRandom kMaskRandom_length i hi j hj,
    read_shipped kMaskBursty kMaskBursty_length i hi j hj⟩

open MaskTableLayout in
/-- `LookUpInFecTable` decodes the mask-table format: on every table of the layout it returns the
view that starts at the first byte of block `j` of entry `i` and spans exactly that block, and on
the two shipped tables that block is the mask for `i + 1` media and `j + 1` FEC packets. -/
theorem lookUpInFecTable_decodes :
    (∀ (L : MaskTableLayout) (i : ℕ) (hi : i < L.entries.length) (j : ℕ)
        (hj : j < L.entries[i].length),
      lookUpInFecTable L.encode i j = ⟨(L.blockPrefix i j).length, L.entries[i][j].length⟩ ∧
        L.encode = L.blockPrefix i j ++ L.entries[i][j] ++ L.blockSuffix i j) ∧
    (∀ i < 12, ∀ j ≤ i,
      (lookUpInFecTable kPacketMaskRandomTbl i j).read kPacketMaskRandomTbl =
          kMaskRandom (i + 1) (j + 1) ∧
        (lookUpInFecTable kPacketMaskBurstyTbl i j).read kPacketMaskBurstyTbl =
          kMaskBursty (i + 1) (j + 1)) := by
  refine ⟨fun L i hi j hj => ⟨L.lookUpInFecTable_encode i hi j hj, L.encode_eq_around i hi j hj⟩, ?_⟩
  intro i hi j hj
  exact lookUpInFecTable_shipped i hi j hj

open MaskTableLayout in
set_option maxRecDepth 8000 in
/-- The mask for 10 media and 2 FEC packets sits 343 bytes into the random table. -/
theorem lookUpInFecTable_decodes_random_10_2 :
    lookUpInFecTable kPacketMaskRandomTbl 9 1 = ⟨343, 4⟩ ∧
      (lookUpInFecTable kPacketMaskRandomTbl 9 1).read kPacketMaskRandomTbl = kMaskRandom 10 2 := by
  have hview := (lookUpInFecTable_decodes.1 randomLayout 9 (by decide) 1 (by decide)).1
  rw [randomLayout_encode] at hview
  refine ⟨hview.trans ?_, (lookUpInFecTable_decodes.2 9 (by decide) 1 (by decide)).1⟩
  decide

end ChannelSim
