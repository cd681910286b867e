import Mathlib

/-! # Byte layouts

A general library for C code that lays data out byte by byte in arrays:

* `le16`, `le32`: the little-endian bytes of a word (the layout `memcpy` copies out of an
  integer on x86), and `ofLe16`, the word `memcpy` builds from two bytes;
* `writeAt dst off src`: `memcpy(dst + off, src, |src|)` on an array modelled as a list, with what
  a later read sees at each position, and the rule that writes at adjacent offsets compose;
  `writeVec` is the same write into a fixed-size array;
* the bits of a byte: the C test `n & (1 << s)`, and bytes assembled from eight flags;
* block layouts: where the `j`-th block of a flattened list of blocks starts, and skip loops
  `for (j = 0; j < n; ++j) e += f(j)` as sums.
-/

namespace ChannelSim.Lib
set_option autoImplicit false

/-! ## Little-endian words -/

/-- The two bytes of a 16-bit word, low byte first. -/
def le16 (v : UInt16) : List UInt8 :=
  [UInt8.ofNat (v.toNat % 256), UInt8.ofNat (v.toNat / 256)]

/-- The 16-bit word whose little-endian bytes are `lo, hi`. -/
def ofLe16 (lo hi : UInt8) : UInt16 :=
  UInt16.ofNat (lo.toNat + 256 * hi.toNat)

/-- The four bytes of a 32-bit word, low byte first. -/
def le32 (v : UInt32) : List UInt8 :=
  [UInt8.ofNat (v.toNat % 256), UInt8.ofNat (v.toNat / 256 % 256),
    UInt8.ofNat (v.toNat / 65536 % 256), UInt8.ofNat (v.toNat / 16777216)]

@[simp] theorem le16_length (v : UInt16) : (le16 v).length = 2 := rfl

@[simp] theorem le32_length (v : UInt32) : (le32 v).length = 4 := rfl

theorem le16_ofLe16 (lo hi : UInt8) : le16 (ofLe16 lo hi) = [lo, hi] := by
  have hlo := lo.toNat_lt
  have hhi := hi.toNat_lt
  have hv : (ofLe16 lo hi).toNat = lo.toNat + 256 * hi.toNat := by
    rw [ofLe16, UInt16.toNat_ofNat']
    omega
  simp only [le16, hv, List.cons.injEq, and_true]
  constructor
  · apply UInt8.toNat_inj.mp
    rw [UInt8.toNat_ofNat']
    omega
  · apply UInt8.toNat_inj.mp
    rw [UInt8.toNat_ofNat']
    omega

/-! ## Bits of a byte -/

theorem and_one_shiftLeft_ne_zero (n s : ℕ) : ((n &&& 1 <<< s) != 0) = n.testBit s := by
  rw [Nat.one_shiftLeft]
  cases h : n.testBit s with
  | false =>
    have hz : n &&& 2 ^ s = 0 := by
      apply Nat.eq_of_testBit_eq
      intro i
      rw [Nat.testBit_and, Nat.testBit_two_pow, Nat.zero_testBit]
      by_cases hi : s = i
      · subst hi; simp [h]
      · simp [hi]
    simp [hz]
  | true =>
    have hbit : (n &&& 2 ^ s).testBit s = true := by
      rw [Nat.testBit_and, Nat.testBit_two_pow, h]; simp
    have hne : n &&& 2 ^ s ≠ 0 := by
      intro h0
      rw [h0, Nat.zero_testBit] at hbit
      exact Bool.false_ne_true hbit
    simp [hne]

theorem testBit_byteOfFlags : ∀ c0 c1 c2 c3 c4 c5 c6 c7 : Bool, ∀ b < 8,
    ((if c0 then (0x80 : UInt8) else 0) ||| (if c1 then 0x40 else 0) ||| (if c2 then 0x20 else 0) |||
      (if c3 then 0x10 else 0) ||| (if c4 then 0x08 else 0) ||| (if c5 then 0x04 else 0) |||
      (if c6 then 0x02 else 0) ||| (if c7 then 0x01 else 0)).toNat.testBit (7 - b) =
      [c0, c1, c2, c3, c4, c5, c6, c7].getD b false := by
  decide

/-! ## Writes into arrays -/

section
variable {α : Type}

/-- `memcpy(dst + off, src, |src|)`: the bytes of `src` replace those of `dst` from `off` on. -/
def writeAt (dst : List α) (off : ℕ) (src : List α) : List α :=
  dst.take off ++ src ++ dst.drop (off + src.length)

theorem length_writeAt (dst src : List α) (off : ℕ) (h : off + src.length ≤ dst.length) :
    (writeAt dst off src).length = dst.length := by
  simp only [writeAt, List.length_append, List.length_take, List.length_drop]
  omega

theorem getElem?_writeAt_of_lt (dst src : List α) (off i : ℕ) (hoff : off ≤ dst.length)
    (hi : i < off) : (writeAt dst off src)[i]? = dst[i]? := by
  have hw : i < (dst.take off).length := by rw [List.length_take]; omega
  rw [writeAt, List.append_assoc, List.getElem?_append_left hw, List.getElem?_take_of_lt hi]

theorem getElem?_writeAt_inside (dst src : List α) (off i : ℕ) (hoff : off ≤ dst.length)
    (hi : i < src.length) : (writeAt dst off src)[off + i]? = src[i]? := by
  have hw : (dst.take off).length = off := by rw [List.length_take]; omega
  rw [writeAt, List.append_assoc, List.getElem?_append_right (by omega), hw,
    Nat.add_sub_cancel_left, List.getElem?_append_left hi]

theorem getElem?_writeAt_of_ge (dst src : List α) (off i : ℕ) (hoff : off ≤ dst.length)
    (hi : off + src.length ≤ i) : (writeAt dst off src)[i]? = dst[i]? := by
  have hw : (dst.take off).length = off := by rw [List.length_take]; omega
  rw [writeAt, List.getElem?_append_right (by simp only [List.length_append, hw]; omega)]
  simp only [List.length_append, hw, List.getElem?_drop]
  congr 1
  omega

theorem take_writeAt (dst src : List α) (off : ℕ) (hoff : off ≤ dst.length) :
    (writeAt dst off src).take (off + src.length) = dst.take off ++ src := by
  have hw : (dst.take off ++ src).length = off + src.length := by
    rw [List.length_append, List.length_take]; omega
  rw [writeAt, List.take_append_of_le_length (by omega), List.take_of_length_le (by omega)]

theorem writeAt_writeAt (dst a b : List α) (off : ℕ) (h : off + a.length ≤ dst.length) :
    writeAt (writeAt dst off a) (off + a.length) b = writeAt dst off (a ++ b) := by
  have hw : (dst.take off ++ a).length = off + a.length := by
    rw [List.length_append, List.length_take]; omega
  have hdrop : (writeAt dst off a).drop (off + a.length) = dst.drop (off + a.length) := by
    rw [writeAt, ← hw, List.drop_left]
  have hrest : (writeAt dst off a).drop (off + a.length + b.length) =
      dst.drop (off + (a ++ b).length) := by
    rw [← List.drop_drop, hdrop, List.drop_drop, List.length_append, Nat.add_assoc]
  rw [writeAt, take_writeAt dst a off (by omega), hrest, writeAt]
  simp only [List.append_assoc]

theorem writeAt_writeAt_of_eq (dst a b : List α) {off off₂ : ℕ} (hoff : off₂ = off + a.length)
    (h : off + a.length ≤ dst.length) :
    writeAt (writeAt dst off a) off₂ b = writeAt dst off (a ++ b) := by
  subst hoff
  exact writeAt_writeAt dst a b off h

theorem writeAt_zero (dst src : List α) : writeAt dst 0 src = src ++ dst.drop src.length := by
  simp [writeAt]

/-- `memcpy(dst + off, src, |src|)` into a fixed-size array; bytes past its end are not written. -/
def writeVec {n : ℕ} (dst : Vector α n) (off : ℕ) (src : List α) : Vector α n :=
  Vector.ofFn fun i => if off ≤ i.val then (src[i.val - off]?).getD dst[i] else dst[i]

theorem getElem_writeVec {n : ℕ} (dst : Vector α n) (off : ℕ) (src : List α) (i : ℕ) (hi : i < n) :
    (writeVec dst off src)[i] =
      if off ≤ i ∧ i < off + src.length then src[i - off]?.getD dst[i] else dst[i] := by
  simp only [writeVec, Vector.getElem_ofFn]
  by_cases h1 : off ≤ i
  · by_cases h2 : i < off + src.length
    · simp [h1, h2]
    · have hnone : src[i - off]? = none := List.getElem?_eq_none (by omega)
      simp [h1, h2, hnone]
  · simp [h1]

theorem getD_toList_vector {n : ℕ} (v : Vector α n) (i : ℕ) (hi : i < n) (d : α) :
    v.toList.getD i d = v[i] := by
  simp [List.getD_eq_getElem?_getD, hi]

@[simp] theorem vector_get_eq_getElem {n : ℕ} (v : Vector α n) (i : Fin n) : v.get i = v[i.val] :=
  rfl

theorem getElem_foldl_setIfInBounds_range {n : ℕ} (v : Vector α n) (x : α) (i j : ℕ) (hj : j < n) :
    ((List.range i).foldl (fun v t => v.setIfInBounds t x) v)[j] = if j < i then x else v[j] := by
  induction i with
  | zero => simp
  | succ i ih =>
    rw [List.range_succ, List.foldl_append, List.foldl_cons, List.foldl_nil,
      Vector.getElem_setIfInBounds hj, ih]
    by_cases hji : j = i
    · simp [hji]
    · have hne : i ≠ j := fun h => hji h.symm
      by_cases hlt : j < i
      · simp [hne, hlt, show j < i + 1 by omega]
      · simp [hne, hlt, show ¬ j < i + 1 by omega]

/-! ## Block layouts -/

theorem flatten_eq_around (L : List (List α)) (j : ℕ) (hj : j < L.length) :
    L.flatten = (L.take j).flatten ++ L[j] ++ (L.drop (j + 1)).flatten := by
  conv_lhs => rw [← List.take_append_drop j L, List.drop_eq_getElem_cons hj]
  simp only [List.flatten_append, List.flatten_cons, List.append_assoc]

theorem drop_flatten_take (L : List (List α)) (j : ℕ) (hj : j < L.length) :
    L.flatten.drop (L.take j).flatten.length = L[j] ++ (L.drop (j + 1)).flatten := by
  rw [flatten_eq_around L j hj, List.append_assoc, List.drop_left]

theorem length_flatten_take (L : List (List α)) (f : ℕ → ℕ)
    (hf : ∀ j (h : j < L.length), L[j].length = f j) :
    ∀ j, j ≤ L.length → (L.take j).flatten.length = ((List.range j).map f).sum := by
  intro j
  induction j with
  | zero => intro _; simp
  | succ j ih =>
    intro hj
    rw [List.take_succ_eq_append_getElem (by omega), List.flatten_append, List.length_append,
      ih (by omega), List.range_succ, List.map_append, List.sum_append]
    simp [hf j (by omega)]

theorem getD_flatten_uniform (L : List (List α)) (w : ℕ) (hw : ∀ i (h : i < L.length), L[i].length = w)
    (i c : ℕ) (hi : i < L.length) (hc : c < w) (d : α) :
    L.flatten.getD (w * i + c) d = L[i].getD c d := by
  have hpre := length_flatten_take L (fun _ => w) hw i (by omega)
  have hsum : ((List.range i).map fun _ => w).sum = w * i := by simp [Nat.mul_comm]
  have hdrop := drop_flatten_take L i hi
  rw [hpre, hsum] at hdrop
  have hat := congrArg (fun l : List α => l.getD c d) hdrop
  simp only [List.getD_eq_getElem?_getD, List.getElem?_drop] at hat
  rw [List.getD_eq_getElem?_getD, hat, List.getElem?_append_left (by rw [hw i hi]; exact hc),
    List.getD_eq_getElem?_getD]

end

/-! ## Skip loops -/

theorem foldl_range_succ {β : Type} (g : β → ℕ → β) (b : β) (n : ℕ) :
    (List.range (n + 1)).foldl g b = g ((List.range n).foldl g b) n := by
  rw [List.range_succ, List.foldl_append, List.foldl_cons, List.foldl_nil]

theorem foldl_range_add (f : ℕ → ℕ) (n e : ℕ) :
    (List.range n).foldl (fun e j => e + f j) e = e + ((List.range n).map f).sum := by
  induction n generalizing e with
  | zero => simp
  | succ n ih =>
    rw [foldl_range_succ, ih, List.range_succ, List.map_append, List.sum_append]
    simp only [List.map_cons, List.map_nil, List.sum_cons, List.sum_nil]
    omega

end ChannelSim.Lib
