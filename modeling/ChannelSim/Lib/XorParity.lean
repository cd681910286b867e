import Mathlib

/-! # XOR parity over selected entries of a list

A general library for single-erasure codes built from XOR: `xorSelFrom sel j xs` is the XOR of
the entries of `xs` whose position (counted from `j`) is selected by `sel`. The main fact is
`xorSelFrom_recover`: XORing the parity of a selection with all selected entries but one gives
that entry back. Everything is stated for any type whose `^^^` is a group of exponent two
(`LawfulXor`); bytes are the instance used later.
-/

namespace ChannelSim.Lib
set_option autoImplicit false

/-- `^^^` is associative and commutative, `0` is its identity and every element is its own
inverse. -/
class LawfulXor (α : Type) [XorOp α] [Zero α] : Prop where
  xor_assoc : ∀ a b c : α, a ^^^ b ^^^ c = a ^^^ (b ^^^ c)
  xor_comm : ∀ a b : α, a ^^^ b = b ^^^ a
  xor_zero : ∀ a : α, a ^^^ 0 = a
  xor_self : ∀ a : α, a ^^^ a = 0

instance : LawfulXor UInt8 where
  xor_assoc := UInt8.xor_assoc
  xor_comm := UInt8.xor_comm
  xor_zero _ := UInt8.xor_zero
  xor_self _ := UInt8.xor_self

section
variable {α : Type} [XorOp α] [Zero α]

/-- XOR of the entries of a list whose positions, numbered from `j`, are selected. -/
def xorSelFrom (sel : ℕ → Bool) : ℕ → List α → α
  | _, [] => 0
  | j, x :: xs => (if sel j then x else 0) ^^^ xorSelFrom sel (j + 1) xs

@[simp] theorem xorSelFrom_nil (sel : ℕ → Bool) (j : ℕ) : xorSelFrom sel j ([] : List α) = 0 := rfl

theorem xorSelFrom_cons (sel : ℕ → Bool) (j : ℕ) (x : α) (xs : List α) :
    xorSelFrom sel j (x :: xs) = (if sel j then x else 0) ^^^ xorSelFrom sel (j + 1) xs := rfl

variable [LawfulXor α]

theorem lxor_assoc (a b c : α) : a ^^^ b ^^^ c = a ^^^ (b ^^^ c) := LawfulXor.xor_assoc a b c

theorem lxor_comm (a b : α) : a ^^^ b = b ^^^ a := LawfulXor.xor_comm a b

@[simp] theorem lxor_zero (a : α) : a ^^^ 0 = a := LawfulXor.xor_zero a

@[simp] theorem lzero_xor (a : α) : 0 ^^^ a = a := by rw [lxor_comm, lxor_zero]

@[simp] theorem lxor_self (a : α) : a ^^^ a = 0 := LawfulXor.xor_self a

theorem lxor_left_comm (a b c : α) : a ^^^ (b ^^^ c) = b ^^^ (a ^^^ c) := by
  rw [← lxor_assoc, lxor_comm a b, lxor_assoc]

theorem lxor_eq_zero_iff (a b : α) : a ^^^ b = 0 ↔ a = b := by
  constructor
  · intro h
    calc a = a ^^^ (b ^^^ b) := by rw [lxor_self, lxor_zero]
      _ = a ^^^ b ^^^ b := by rw [lxor_assoc]
      _ = b := by rw [h, lzero_xor]
  · rintro rfl
    exact lxor_self a

omit [LawfulXor α] in
theorem xorSelFrom_congr (sel sel' : ℕ → Bool) (j : ℕ) (xs : List α)
    (h : ∀ i, j ≤ i → i < j + xs.length → sel i = sel' i) :
    xorSelFrom sel j xs = xorSelFrom sel' j xs := by
  induction xs generalizing j with
  | nil => rfl
  | cons x xs ih =>
    have hj : sel j = sel' j := h j le_rfl (by simp)
    have hrest := ih (j + 1) (fun i h1 h2 => h i (by omega) (by simp at h2 ⊢; omega))
    rw [xorSelFrom_cons, xorSelFrom_cons, hj, hrest]

theorem xorSelFrom_split (sel : ℕ → Bool) (j : ℕ) (xs : List α) (i : ℕ) (hi : i < xs.length)
    (hsel : sel (j + i) = true) :
    xorSelFrom sel j xs = xs[i] ^^^ xorSelFrom (fun p => sel p && p != j + i) j xs := by
  induction xs generalizing j i with
  | nil => simp at hi
  | cons x xs ih =>
    cases i with
    | zero =>
      have hrest : xorSelFrom (fun p => sel p && p != j + 0) (j + 1) xs = xorSelFrom sel (j + 1) xs :=
        xorSelFrom_congr _ _ _ _ (fun p hp _ => by simp; omega)
      simp only [Nat.add_zero] at hsel hrest
      simp [xorSelFrom_cons, hsel, hrest]
    | succ i =>
      have hi' : i < xs.length := by simpa using hi
      have hs : sel (j + 1 + i) = true := by rw [← hsel]; congr 1; omega
      have e : j + (i + 1) = j + 1 + i := by omega
      rw [xorSelFrom_cons, xorSelFrom_cons, ih (j + 1) i hi' hs, e]
      have hj : (sel j && j != j + 1 + i) = sel j := by simp; omega
      simp only [List.getElem_cons_succ, hj]
      rw [lxor_left_comm]

/-- Single-erasure recovery: the parity of a selection XOR every other selected entry is the
missing entry. -/
theorem xorSelFrom_recover (sel : ℕ → Bool) (j : ℕ) (xs : List α) (i : ℕ) (hi : i < xs.length)
    (hsel : sel (j + i) = true) :
    xorSelFrom sel j xs ^^^ xorSelFrom (fun p => sel p && p != j + i) j xs = xs[i] := by
  rw [xorSelFrom_split sel j xs i hi hsel, lxor_assoc, lxor_self, lxor_zero]

theorem xorSelFrom_erase_eq_iff (sel : ℕ → Bool) (j : ℕ) (xs : List α) (i : ℕ) (hi : i < xs.length)
    (hsel : sel (j + i) = true) :
    xorSelFrom (fun p => sel p && p != j + i) j xs = xs[i] ↔ xorSelFrom sel j xs = 0 := by
  rw [xorSelFrom_split sel j xs i hi hsel, lxor_eq_zero_iff, eq_comm]

end

end ChannelSim.Lib
