import Mathlib

/-! # The ULPFEC packet-mask tables

`fec_private_tables_random.cpp` and `fec_private_tables_bursty.cpp` (identical in `Channel_sim/`
and `FEC_Encode/`). Each macro `kMask{Random,Bursty}{k}_{r}` is the `r`-row mask for `k` media
packets, two bytes per row, most significant bit first; `kPacketMask{Random,Bursty}{k}` is the
count `k` followed by the `k` masks for `r = 1, …, k`; the table is the entry count `12` followed
by the twelve entries. The bytes below are generated from the C sources, row by row.
-/

namespace ChannelSim
set_option autoImplicit false

/-- `kMaskRandom{k}_{r}`: the `r` rows of the random mask for `k` media packets; empty outside
`1 ≤ r ≤ k ≤ 12`, where the source has no such macro. -/
def kMaskRandom : ℕ → ℕ → List UInt8
  | 1, 1 => [0x80, 0x00]
  | 2, 1 => [0xc0, 0x00]
  | 2, 2 => [0xc0, 0x00,
             0x80, 0x00]
  | 3, 1 => [0xe0, 0x00]
  | 3, 2 => [0xc0, 0x00,
             0xa0, 0x00]
  | 3, 3 => [0xc0, 0x00,
             0xa0, 0x00,
             0x60, 0x00]
  | 4, 1 => [0xf0, 0x00]
  | 4, 2 => [0xc0, 0x00,
             0xb0, 0x00]
  | 4, 3 => [0xc0, 0x00,
             0xb0, 0x00,
             0x60, 0x00]
  | 4, 4 => [0xc0, 0x00,
             0xa0, 0x00,
             0x30, 0x00,
             0x50, 0x00]
  | 5, 1 => [0xf8, 0x00]
  | 5, 2 => [0xa8, 0x00,
             0xd0, 0x00]
  | 5, 3 => [0xb0, 0x00,
             0xc8, 0x00,
             0x50, 0x00]
  | 5, 4 => [0xc8, 0x00,
             0xb0, 0x00,
             0x50, 0x00,
             0x28, 0x00]
  | 5, 5 => [0xc0, 0x00,
             0x30, 0x00,
             0x18, 0x00,
             0xa0, 0x00,
             0x48, 0x00]
  | 6, 1 => [0xfc, 0x00]
  | 6, 2 => [0xa8, 0x00,
             0xd4, 0x00]
  | 6, 3 => [0xd0, 0x00,
             0x68, 0x00,
             0xa4, 0x00]
  | 6, 4 => [0xa8, 0x00,
             0x58, 0x00,
             0x64, 0x00,
             0x94, 0x00]
  | 6, 5 => [0xa8, 0x00,
             0x84, 0x00,
             0x64, 0x00,
             0x90, 0x00,
             0x58, 0x00]
  | 6, 6 => [0x98, 0x00,
             0x64, 0x00,
             0x50, 0x00,
             0x14, 0x00,
             0xa8, 0x00,
             0xe0, 0x00]
  | 7, 1 => [0xfe, 0x00]
  | 7, 2 => [0xd4, 0x00,
             0xaa, 0x00]
  | 7, 3 => [0xd0, 0x00,
             0xaa, 0x00,
             0x64, 0x00]
  | 7, 4 => [0xd0, 0x00,
             0xaa, 0x00,
             0x64, 0x00,
             0x1c, 0x00]
  | 7, 5 => [0x0c, 0x00,
             0xb0, 0x00,
             0x1a, 0x00,
             0xc4, 0x00,
             0x62, 0x00]
  | 7, 6 => [0x8c, 0x00,
             0x4a, 0x00,
             0x64, 0x00,
             0xd0, 0x00,
             0xa0, 0x00,
             0x32, 0x00]
  | 7, 7 => [0x4a, 0x00,
             0x94, 0x00,
             0x1a, 0x00,
             0xc4, 0x00,
             0x28, 0x00,
             0xc2, 0x00,
             0x34, 0x00]
  | 8, 1 => [0xff, 0x00]
  | 8, 2 => [0xaa, 0x00,
             0xd5, 0x00]
  | 8, 3 => [0xc5, 0x00,
             0x92, 0x00,
             0x6a, 0x00]
  | 8, 4 => [0x45, 0x00,
             0xb4, 0x00,
             0x6a, 0x00,
             0x89, 0x00]
  | 8, 5 => [0x8c, 0x00,
             0x92, 0x00,
             0x2b, 0x00,
             0x51, 0x00,
             0x64, 0x00]
  | 8, 6 => [0xa1, 0x00,
             0x52, 0x00,
             0x91, 0x00,
             0x2a, 0x00,
             0xc4, 0x00,
             0x4c, 0x00]
  | 8, 7 => [0x15, 0x00,
             0xc2, 0x00,
             0x25, 0x00,
             0x62, 0x00,
             0x58, 0x00,
             0x8c, 0x00,
             0xa3, 0x00]
  | 8, 8 => [0x25, 0x00,
             0x8a, 0x00,
             0x91, 0x00,
             0x68, 0x00,
             0x32, 0x00,
             0x43, 0x00,
             0xc4, 0x00,
             0x1c, 0x00]
  | 9, 1 => [0xff, 0x80]
  | 9, 2 => [0xaa, 0x80,
             0xd5, 0x00]
  | 9, 3 => [0xa5, 0x00,
             0xc8, 0x00,
             0x52, 0x80]
  | 9, 4 => [0xa2, 0x00,
             0xc9, 0x00,
             0x52, 0x80,
             0x24, 0x80]
  | 9, 5 => [0x8c, 0x00,
             0x25, 0x00,
             0x92, 0x80,
             0x41, 0x80,
             0x58, 0x00]
  | 9, 6 => [0x84, 0x80,
             0x27, 0x00,
             0x51, 0x80,
             0x1a, 0x00,
             0x68, 0x00,
             0x89, 0x00]
  | 9, 7 => [0x8c, 0x00,
             0x47, 0x00,
             0x81, 0x80,
             0x12, 0x80,
             0x58, 0x00,
             0x28, 0x80,
             0xb4, 0x00]
  | 9, 8 => [0x2c, 0x00,
             0x91, 0x00,
             0x40, 0x80,
             0x06, 0x80,
             0xc8, 0x00,
             0x45, 0x00,
             0x30, 0x80,
             0xa2, 0x00]
  | 9, 9 => [0x4c, 0x00,
             0x62, 0x00,
             0x91, 0x00,
             0x42, 0x80,
             0xa4, 0x00,
             0x13, 0x00,
             0x30, 0x80,
             0x88, 0x80,
             0x09, 0x00]
  | 10, 1 => [0xff, 0xc0]
  | 10, 2 => [0xaa, 0x80,
              0xd5, 0x40]
  | 10, 3 => [0xa4, 0x40,
              0xc9, 0x00,
              0x52, 0x80]
  | 10, 4 => [0xca, 0x00,
              0x32, 0x80,
              0xa1, 0x40,
              0x55, 0x00]
  | 10, 5 => [0xca, 0x00,
              0x32, 0x80,
              0xa1, 0x40,
              0x55, 0x00,
              0x08, 0xc0]
  | 10, 6 => [0x0e, 0x00,
              0x33, 0x00,
              0x10, 0xc0,
              0x45, 0x40,
              0x88, 0x80,
              0xe0, 0x00]
  | 10, 7 => [0x46, 0x00,
              0x33, 0x00,
              0x80, 0xc0,
              0x0c, 0x40,
              0x28, 0x80,
              0x94, 0x00,
              0xc1, 0x00]
  | 10, 8 => [0x2c, 0x00,
              0x81, 0x80,
              0xa0, 0x40,
              0x05, 0x40,
              0x18, 0x80,
              0xc2, 0x00,
              0x22, 0x80,
              0x50, 0x40]
  | 10, 9 => [0x4c, 0x00,
              0x23, 0x00,
              0x88, 0xc0,
              0x21, 0x40,
              0x52, 0x80,
              0x94, 0x00,
              0x26, 0x00,
              0x48, 0x40,
              0x91, 0x80]
  | 10, 10 => [0x4c, 0x00,
               0x51, 0x00,
               0xa0, 0x40,
               0x04, 0xc0,
               0x03, 0x80,
               0x86, 0x00,
               0x29, 0x00,
               0x42, 0x40,
               0x98, 0x00,
               0x30, 0x80]
  | 11, 1 => [0xff, 0xe0]
  | 11, 2 => [0xec, 0xc0,
              0x9b, 0xa0]
  | 11, 3 => [0xca, 0xc0,
              0xf1, 0x40,
              0xb6, 0x20]
  | 11, 4 => [0xc4, 0xc0,
              0x31, 0x60,
              0x4b, 0x20,
              0x2c, 0xa0]
  | 11, 5 => [0x86, 0x80,
              0x23, 0x20,
              0x16, 0x20,
              0x4c, 0x20,
              0x41, 0xc0]
  | 11, 6 => [0x64, 0x40,
              0x51, 0x40,
              0x0c, 0xa0,
              0xa1, 0x20,
              0x12, 0xa0,
              0x8a, 0x40]
  | 11, 7 => [0x46, 0x40,
              0x33, 0x20,
              0x91, 0x80,
              0xa4, 0x20,
              0x50, 0xa0,
              0x84, 0xc0,
              0x09, 0x60]
  | 11, 8 => [0x0c, 0x80,
              0x80, 0x60,
              0xa0, 0x80,
              0x05, 0x40,
              0x43, 0x00,
              0x1a, 0x00,
              0x60, 0x20,
              0x14, 0x20]
  | 11, 9 => [0x46, 0x40,
              0x62, 0x60,
              0x8c, 0x00,
              0x01, 0x60,
              0x07, 0x80,
              0xa0, 0x80,
              0x18, 0xa0,
              0x91, 0x00,
              0x78, 0x00]
  | 11, 10 => [0x64, 0x40,
               0x51, 0x40,
               0xa9, 0x00,
               0x04, 0xc0,
               0xd0, 0x00,
               0x82, 0x40,
               0x21, 0x20,
               0x0c, 0x20,
               0x4a, 0x00,
               0x12, 0xa0]
  | 11, 11 => [0x46, 0x40,
               0x33, 0x20,
               0x99, 0x00,
               0x05, 0x80,
               0x80, 0xa0,
               0x84, 0x40,
               0x40, 0x60,
               0x0a, 0x80,
               0x68, 0x00,
               0x10, 0x20,
               0x30, 0x40]
  | 12, 1 => [0xff, 0xf0]
  | 12, 2 => [0xec, 0xc0,
              0x93, 0xb0]
  | 12, 3 => [0x9b, 0x80,
              0x4f, 0x10,
              0x3c, 0x60]
  | 12, 4 => [0x8b, 0x20,
              0x14, 0xb0,
              0x22, 0xd0,
              0x45, 0x50]
  | 12, 5 => [0x53, 0x60,
              0x64, 0x20,
              0x0c, 0xc0,
              0x82, 0xa0,
              0x09, 0x30]
  | 12, 6 => [0x51, 0x40,
              0xc5, 0x10,
              0x21, 0x80,
              0x12, 0x30,
              0x08, 0xe0,
              0x2e, 0x00]
  | 12, 7 => [0x53, 0x60,
              0x21, 0x30,
              0x90, 0x90,
              0x02, 0x50,
              0x06, 0xa0,
              0x2c, 0x00,
              0x88, 0x60]
  | 12, 8 => [0x20, 0x60,
              0x80, 0x30,
              0x42, 0x40,
              0x01, 0x90,
              0x14, 0x10,
              0x0a, 0x80,
              0x38, 0x00,
              0xc5, 0x00]
  | 12, 9 => [0x53, 0x60,
              0xe4, 0x20,
              0x24, 0x40,
              0xa1, 0x10,
              0x18, 0x30,
              0x03, 0x90,
              0x8a, 0x10,
              0x04, 0x90,
              0x00, 0xe0]
  | 12, 10 => [0x51, 0x40,
               0x45, 0x10,
               0x80, 0xd0,
               0x24, 0x20,
               0x0a, 0x20,
               0x00, 0xe0,
               0xb8, 0x00,
               0x09, 0x10,
               0x56, 0x00,
               0xa2, 0x80]
  | 12, 11 => [0x53, 0x60,
               0x21, 0x30,
               0x10, 0x90,
               0x00, 0x70,
               0x0c, 0x10,
               0x40, 0xc0,
               0x6a, 0x00,
               0x86, 0x00,
               0x24, 0x80,
               0x89, 0x00,
               0xc0, 0x20]
  | 12, 12 => [0x10, 0x60,
               0x02, 0x30,
               0x40, 0x50,
               0x21, 0x80,
               0x81, 0x10,
               0x14, 0x80,
               0x98, 0x00,
               0x08, 0x90,
               0x62, 0x00,
               0x24, 0x20,
               0x8a, 0x00,
               0x84, 0x40]
  | _, _ => []

/-- `kPacketMaskRandom{k}`: the count `k`, then `kMaskRandom{k}_1, …, kMaskRandom{k}_{k}`. -/
def kPacketMaskRandom (k : ℕ) : List UInt8 :=
  (k.toUInt8) :: ((List.range k).map fun r => kMaskRandom k (r + 1)).flatten

/-- `kPacketMaskRandomTbl`: the entry count `12`, then `kPacketMaskRandom1, …, kPacketMaskRandom12`. -/
def kPacketMaskRandomTbl : List UInt8 :=
  12 :: ((List.range 12).map fun i => kPacketMaskRandom (i + 1)).flatten

/-- `kMaskBursty{k}_{r}`: the `r` rows of the bursty mask for `k` media packets; empty outside
`1 ≤ r ≤ k ≤ 12`, where the source has no such macro. -/
def kMaskBursty : ℕ → ℕ → List UInt8
  | 1, 1 => [0x80, 0x00]
  | 2, 1 => [0xc0, 0x00]
  | 2, 2 => [0x80, 0x00,
             0xc0, 0x00]
  | 3, 1 => [0xe0, 0x00]
  | 3, 2 => [0xc0, 0x00,
             0xa0, 0x00]
  | 3, 3 => [0x80, 0x00,
             0xc0, 0x00,
             0x60, 0x00]
  | 4, 1 => [0xf0, 0x00]
  | 4, 2 => [0xa0, 0x00,
             0xd0, 0x00]
  | 4, 3 => [0xc0, 0x00,
             0x60, 0x00,
             0x90, 0x00]
  | 4, 4 => [0x80, 0x00,
             0xc0, 0x00,
             0x60, 0x00,
             0x30, 0x00]
  | 5, 1 => [0xf8, 0x00]
  | 5, 2 => [0xd0, 0x00,
             0xa8, 0x00]
  | 5, 3 => [0x70, 0x00,
             0x90, 0x00,
             0xc8, 0x00]
  | 5, 4 => [0xc0, 0x00,
             0x60, 0x00,
             0x30, 0x00,
             0x88, 0x00]
  | 5, 5 => [0x80, 0x00,
             0xc0, 0x00,
             0x60, 0x00,
             0x30, 0x00,
             0x18, 0x00]
  | 6, 1 => [0xfc, 0x00]
  | 6, 2 => [0xa8, 0x00,
             0xd4, 0x00]
  | 6, 3 => [0x94, 0x00,
             0xc8, 0x00,
             0x64, 0x00]
  | 6, 4 => [0x60, 0x00,
             0x38, 0x00,
             0x88, 0x00,
             0xc4, 0x00]
  | 6, 5 => [0xc0, 0x00,
             0x60, 0x00,
             0x30, 0x00,
             0x18, 0x00,
             0x84, 0x00]
  | 6, 6 => [0x80, 0x00,
             0xc0, 0x00,
             0x60, 0x00,
             0x30, 0x00,
             0x18, 0x00,
             0x0c, 0x00]
  | 7, 1 => [0xfe, 0x00]
  | 7, 2 => [0xd4, 0x00,
             0xaa, 0x00]
  | 7, 3 => [0xc8, 0x00,
             0x74, 0x00,
             0x92, 0x00]
  | 7, 4 => [0x38, 0x00,
             0x8a, 0x00,
             0xc4, 0x00,
             0x62, 0x00]
  | 7, 5 => [0x60, 0x00,
             0x30, 0x00,
             0x1c, 0x00,
             0x84, 0x00,
             0xc2, 0x00]
  | 7, 6 => [0xc0, 0x00,
             0x60, 0x00,
             0x30, 0x00,
             0x18, 0x00,
             0x0c, 0x00,
             0x82, 0x00]
  | 7, 7 => [0x80, 0x00,
             0xc0, 0x00,
             0x60, 0x00,
             0x30, 0x00,
             0x18, 0x00,
             0x0c, 0x00,
             0x06, 0x00]
  | 8, 1 => [0xff, 0x00]
  | 8, 2 => [0xaa, 0x00,
             0xd5, 0x00]
  | 8, 3 => [0x74, 0x00,
             0x92, 0x00,
             0xc9, 0x00]
  | 8, 4 => [0x8a, 0x00,
             0xc5, 0x00,
             0x62, 0x00,
             0x31, 0x00]
  | 8, 5 => [0x30, 0x00,
             0x1c, 0x00,
             0x85, 0x00,
             0xc2, 0x00,
             0x61, 0x00]
  | 8, 6 => [0x60, 0x00,
             0x30, 0x00,
             0x18, 0x00,
             0x0e, 0x00,
             0x82, 0x00,
             0xc1, 0x00]
  | 8, 7 => [0xc0, 0x00,
             0x60, 0x00,
             0x30, 0x00,
             0x18, 0x00,
             0x0c, 0x00,
             0x06, 0x00,
             0x81, 0x00]
  | 8, 8 => [0x80, 0x00,
             0xc0, 0x00,
             0x60, 0x00,
             0x30, 0x00,
             0x18, 0x00,
             0x0c, 0x00,
             0x06, 0x00,
             0x03, 0x00]
  | 9, 1 => [0xff, 0x80]
  | 9, 2 => [0xd5, 0x00,
             0xaa, 0x80]
  | 9, 3 => [0x92, 0x00,
             0xc9, 0x00,
             0x74, 0x80]
  | 9, 4 => [0xc5, 0x00,
             0x62, 0x00,
             0x39, 0x00,
             0x8a, 0x80]
  | 9, 5 => [0x1c, 0x00,
             0x85, 0x00,
             0xc2, 0x80,
             0x61, 0x00,
             0x30, 0x80]
  | 9, 6 => [0x30, 0x00,
             0x18, 0x00,
             0x0e, 0x00,
             0x82, 0x80,
             0xc1, 0x00,
             0x60, 0x80]
  | 9, 7 => [0x60, 0x00,
             0x30, 0x00,
             0x18, 0x00,
             0x0c, 0x00,
             0x07, 0x00,
             0x81, 0x00,
             0xc0, 0x80]
  | 9, 8 => [0xc0, 0x00,
             0x60, 0x00,
             0x30, 0x00,
             0x18, 0x00,
             0x0c, 0x00,
             0x06, 0x00,
             0x03, 0x00,
             0x80, 0x80]
  | 9, 9 => [0x80, 0x00,
             0xc0, 0x00,
             0x60, 0x00,
             0x30, 0x00,
             0x18, 0x00,
             0x0c, 0x00,
             0x06, 0x00,
             0x03, 0x00,
             0x01, 0x80]
  | 10, 1 => [0xff, 0xc0]
  | 10, 2 => [0xaa, 0x80,
              0xd5, 0x40]
  | 10, 3 => [0xc9, 0x00,
              0x74, 0x80,
              0x92, 0x40]
  | 10, 4 => [0x62, 0x00,
              0x39, 0x00,
              0x8a, 0x80,
              0xc5, 0x40]
  | 10, 5 => [0x85, 0x00,
              0xc2, 0x80,
              0x61, 0x40,
              0x30, 0x80,
              0x18, 0x40]
  | 10, 6 => [0x18, 0x00,
              0x0e, 0x00,
              0x82, 0x80,
              0xc1, 0x40,
              0x60, 0x80,
              0x30, 0x40]
  | 10, 7 => [0x30, 0x00,
              0x18, 0x00,
              0x0c, 0x00,
              0x07, 0x00,
              0x81, 0x40,
              0xc0, 0x80,
              0x60, 0x40]
  | 10, 8 => [0x60, 0x00,
              0x30, 0x00,
              0x18, 0x00,
              0x0c, 0x00,
              0x06, 0x00,
              0x03, 0x00,
              0x80, 0x80,
              0xc0, 0x40]
  | 10, 9 => [0xc0, 0x00,
              0x60, 0x00,
              0x30, 0x00,
              0x18, 0x00,
              0x0c, 0x00,
              0x06, 0x00,
              0x03, 0x00,
              0x01, 0x80,
              0x80, 0x40]
  | 10, 10 => [0x80, 0x00,
               0xc0, 0x00,
               0x60, 0x00,
               0x30, 0x00,
               0x18, 0x00,
               0x0c, 0x00,
               0x06, 0x00,
               0x03, 0x00,
               0x01, 0x80,
               0x00, 0xc0]
  | 11, 1 => [0xff, 0xe0]
  | 11, 2 => [0xd5, 0x40,
              0xaa, 0xa0]
  | 11, 3 => [0x74, 0x80,
              0x92, 0x40,
              0xc9, 0x20]
  | 11, 4 => [0x39, 0x00,
              0x8a, 0x80,
              0xc5, 0x40,
              0x62, 0x20]
  | 11, 5 => [0xc2, 0xc0,
              0x61, 0x00,
              0x30, 0xa0,
              0x1c, 0x40,
              0x85, 0x20]
  | 11, 6 => [0x0e, 0x00,
              0x82, 0x80,
              0xc1, 0x40,
              0x60, 0xa0,
              0x30, 0x40,
              0x18, 0x20]
  | 11, 7 => [0x18, 0x00,
              0x0c, 0x00,
              0x07, 0x00,
              0x81, 0x40,
              0xc0, 0xa0,
              0x60, 0x40,
              0x30, 0x20]
  | 11, 8 => [0x30, 0x00,
              0x18, 0x00,
              0x0c, 0x00,
              0x06, 0x00,
              0x03, 0x40,
              0x80, 0xa0,
              0xc0, 0x40,
              0x60, 0x20]
  | 11, 9 => [0x60, 0x00,
              0x30, 0x00,
              0x18, 0x00,
              0x0c, 0x00,
              0x06, 0x00,
              0x03, 0x00,
              0x01, 0x80,
              0x80, 0x40,
              0xc0, 0x20]
  | 11, 10 => [0xc0, 0x00,
               0x60, 0x00,
               0x30, 0x00,
               0x18, 0x00,
               0x0c, 0x00,
               0x06, 0x00,
               0x03, 0x00,
               0x01, 0x80,
               0x00, 0xc0,
               0x80, 0x20]
  | 11, 11 => [0x80, 0x00,
               0xc0, 0x00,
               0x60, 0x00,
               0x30, 0x00,
               0x18, 0x00,
               0x0c, 0x00,
               0x06, 0x00,
               0x03, 0x00,
               0x01, 0x80,
               0x00, 0xc0,
               0x00, 0x60]
  | 12, 1 => [0xff, 0xf0]
  | 12, 2 => [0xaa, 0xa0,
              0xd5, 0x50]
  | 12, 3 => [0x92, 0x40,
              0xc9, 0x20,
              0x74, 0x90]
  | 12, 4 => [0x8a, 0x80,
              0xc5, 0x40,
              0x62, 0x20,
              0x39, 0x10]
  | 12, 5 => [0x61, 0x00,
              0x30, 0xa0,
              0x1c, 0x50,
              0x85, 0x20,
              0xc2, 0x90]
  | 12, 6 => [0x82, 0x90,
              0xc1, 0x40,
              0x60, 0xa0,
              0x30, 0x50,
              0x18, 0x20,
              0x0c, 0x10]
  | 12, 7 => [0x0c, 0x00,
              0x07, 0x00,
              0x81, 0x40,
              0xc0, 0xa0,
              0x60, 0x50,
              0x30, 0x20,
              0x18, 0x10]
  | 12, 8 => [0x18, 0x00,
              0x0c, 0x00,
              0x06, 0x00,
              0x03, 0x00,
              0x80, 0xa0,
              0xc0, 0x50,
              0x60, 0x20,
              0x30, 0x10]
  | 12, 9 => [0x30, 0x00,
              0x18, 0x00,
              0x0c, 0x00,
              0x06, 0x00,
              0x03, 0x00,
              0x01, 0x80,
              0x80, 0x50,
              0xc0, 0x20,
              0x60, 0x10]
  | 12, 10 => [0x60, 0x00,
               0x30, 0x00,
               0x18, 0x00,
               0x0c, 0x00,
               0x06, 0x00,
               0x03, 0x00,
               0x01, 0x80,
               0x00, 0xc0,
               0x80, 0x20,
               0xc0, 0x10]
  | 12, 11 => [0xc0, 0x00,
               0x60, 0x00,
               0x30, 0x00,
               0x18, 0x00,
               0x0c, 0x00,
               0x06, 0x00,
               0x03, 0x00,
               0x01, 0x80,
               0x00, 0xc0,
               0x00, 0x60,
               0x80, 0x10]
  | 12, 12 => [0x80, 0x00,
               0xc0, 0x00,
               0x60, 0x00,
               0x30, 0x00,
               0x18, 0x00,
               0x0c, 0x00,
               0x06, 0x00,
               0x03, 0x00,
               0x01, 0x80,
               0x00, 0xc0,
               0x00, 0x60,
               0x00, 0x30]
  | _, _ => []

/-- `kPacketMaskBursty{k}`: the count `k`, then `kMaskBursty{k}_1, …, kMaskBursty{k}_{k}`. -/
def kPacketMaskBursty (k : ℕ) : List UInt8 :=
  (k.toUInt8) :: ((List.range k).map fun r => kMaskBursty k (r + 1)).flatten

/-- `kPacketMaskBurstyTbl`: the entry count `12`, then `kPacketMaskBursty1, …, kPacketMaskBursty12`. -/
def kPacketMaskBurstyTbl : List UInt8 :=
  12 :: ((List.range 12).map fun i => kPacketMaskBursty (i + 1)).flatten

end ChannelSim
