import Mathlib.Dynamics.PeriodicPts.Lemmas
import Mathlib.Data.List.Nodup
import Mathlib.Data.UInt

/-! # Logs of runs

A run of a step function is observed through what each step logs, `runLog`. Two accounting rules
lift a fact about one step to the whole run: `runLog_fifo` for a queue appended to at the back and
taken from at the front, and `runLog_stamps` for a counter that each stamp reads and advances. The
values such a counter hands out repeat exactly when the run outlasts its period
(`nodup_stamps_iff`, from `nodup_map_range_iff` for any values periodic in their index): 256 stamps
for a `uint8_t` counter (`minimalPeriod_succ_uint8`).
-/

namespace ChannelSim.Lib
open Function
set_option autoImplicit false

variable {σ α ε β : Type*}

/-- The events of a run, step after step. -/
def runLog (step : σ → α → σ) (log : σ → α → List ε) : σ → List α → List ε
  | _, [] => []
  | s, a :: xs => log s a ++ runLog step log (step s a) xs

@[simp] theorem runLog_nil (step : σ → α → σ) (log : σ → α → List ε) (s : σ) :
    runLog step log s [] = [] := rfl

@[simp] theorem runLog_cons (step : σ → α → σ) (log : σ → α → List ε) (s : σ) (a : α) (xs : List α) :
    runLog step log s (a :: xs) = log s a ++ runLog step log (step s a) xs := rfl

/-! ## Queues -/

section Fifo
variable (step : σ → α → σ) (log : σ → α → List ε) (queue : σ → List β) (pushed taken : ε → List β)

/-- A queue that every step extends by what it logs as pushed and shortens at the front by what it
logs as taken loses and duplicates nothing over a run. -/
theorem runLog_fifo
    (hstep : ∀ s a, queue s ++ (log s a).flatMap pushed = (log s a).flatMap taken ++ queue (step s a)) :
    ∀ (xs : List α) (s : σ), queue s ++ (runLog step log s xs).flatMap pushed =
      (runLog step log s xs).flatMap taken ++ queue (xs.foldl step s) := by
  intro xs
  induction xs with
  | nil => intro s; simp
  | cons a xs ih =>
    intro s
    calc queue s ++ (runLog step log s (a :: xs)).flatMap pushed
        = (queue s ++ (log s a).flatMap pushed) ++
            (runLog step log (step s a) xs).flatMap pushed := by simp
      _ = (log s a).flatMap taken ++
            (queue (step s a) ++ (runLog step log (step s a) xs).flatMap pushed) := by
          rw [hstep, List.append_assoc]
      _ = (log s a).flatMap taken ++
            ((runLog step log (step s a) xs).flatMap taken ++ queue (xs.foldl step (step s a))) := by
          rw [ih]
      _ = (runLog step log s (a :: xs)).flatMap taken ++ queue ((a :: xs).foldl step s) := by simp

end Fifo

/-! ## Counters -/

/-- The values a counter at `c` hands out when it is read and advanced by `f`, `n` times. -/
def stamps (f : β → β) (c : β) (n : ℕ) : List β :=
  (List.range n).map fun k => f^[k] c

@[simp] theorem length_stamps (f : β → β) (c : β) (n : ℕ) : (stamps f c n).length = n := by
  simp [stamps]

theorem stamps_add (f : β → β) (c : β) (m n : ℕ) :
    stamps f c (m + n) = stamps f c m ++ stamps f (f^[m] c) n := by
  simp only [stamps, List.range_add, List.map_append, List.map_map]
  congr 1
  apply List.map_congr_left
  intro k _
  rw [comp_apply, Nat.add_comm, iterate_add_apply]

section Counter
variable (step : σ → α → σ) (log : σ → α → List ε) (counter : σ → β) (stamp : ε → List β)
  (f : β → β)

/-- A counter that every step advances once per stamp it logs, each stamp the value read. -/
theorem runLog_stamps
    (hstep : ∀ s a, (log s a).flatMap stamp =
        stamps f (counter s) ((log s a).flatMap stamp).length ∧
      counter (step s a) = f^[((log s a).flatMap stamp).length] (counter s)) :
    ∀ (xs : List α) (s : σ), (runLog step log s xs).flatMap stamp =
        stamps f (counter s) ((runLog step log s xs).flatMap stamp).length ∧
      counter (xs.foldl step s) = f^[((runLog step log s xs).flatMap stamp).length] (counter s) := by
  intro xs
  induction xs with
  | nil => intro s; simp [stamps]
  | cons a xs ih =>
    intro s
    obtain ⟨hone, hcount⟩ := hstep s a
    obtain ⟨hrest, hfinal⟩ := ih (step s a)
    -- the run's stamps are the first step's, then the rest's from where the first left the counter
    have hsplit : (runLog step log s (a :: xs)).flatMap stamp =
        (log s a).flatMap stamp ++ (runLog step log (step s a) xs).flatMap stamp := by simp
    rw [hsplit, List.length_append, stamps_add, ← hcount, ← hone, ← hrest, List.foldl_cons, hfinal,
      hcount, ← iterate_add_apply, Nat.add_comm]
    exact ⟨rfl, rfl⟩

end Counter

/-- Values that repeat with period `p` and only so are pairwise distinct over the first `n`
indices exactly when `n ≤ p`. -/
theorem nodup_map_range_iff {h : ℕ → β} {p : ℕ} (hp : 0 < p)
    (hper : ∀ i j, h i = h j ↔ i % p = j % p) (n : ℕ) :
    ((List.range n).map h).Nodup ↔ n ≤ p := by
  constructor
  · intro hnodup
    by_contra hlong
    -- indices `0` and `p` give the same value
    have h0 : 0 ∈ List.range n := List.mem_range.mpr (by omega)
    have hp' : p ∈ List.range n := List.mem_range.mpr (by omega)
    have heq : 0 = p := List.inj_on_of_nodup_map hnodup h0 hp' ((hper 0 p).mpr (by simp))
    omega
  · intro hle
    apply List.Nodup.map_on _ List.nodup_range
    intro i hi j hj hij
    rw [List.mem_range] at hi hj
    have hmod := (hper i j).mp hij
    rwa [Nat.mod_eq_of_lt (by omega), Nat.mod_eq_of_lt (by omega)] at hmod

theorem iterate_eq_iterate_iff_mod (f : β → β) {c : β} (hc : c ∈ periodicPts f) (i j : ℕ) :
    f^[i] c = f^[j] c ↔ i % minimalPeriod f c = j % minimalPeriod f c := by
  have hpos := minimalPeriod_pos_of_mem_periodicPts hc
  rw [← iterate_mod_minimalPeriod_eq, ← @iterate_mod_minimalPeriod_eq _ f c j]
  exact iterate_eq_iterate_iff_of_lt_minimalPeriod (Nat.mod_lt _ hpos) (Nat.mod_lt _ hpos)

theorem nodup_stamps_iff (f : β → β) {c : β} (hc : c ∈ periodicPts f) (n : ℕ) :
    (stamps f c n).Nodup ↔ n ≤ minimalPeriod f c :=
  nodup_map_range_iff (minimalPeriod_pos_of_mem_periodicPts hc) (iterate_eq_iterate_iff_mod f hc) n

/-! ## `uint8_t` counters -/

theorem iterate_succ_uint8 (c : UInt8) (k : ℕ) : (· + 1)^[k] c = c + UInt8.ofNat k := by
  induction k with
  | zero => simp
  | succ k ih =>
    rw [iterate_succ_apply', ih]
    apply UInt8.toNat_inj.mp
    simp [UInt8.toNat_add, UInt8.toNat_ofNat]
    omega

theorem isPeriodicPt_succ_uint8 (c : UInt8) (k : ℕ) : IsPeriodicPt (· + 1) k c ↔ k % 256 = 0 := by
  rw [IsPeriodicPt, IsFixedPt, iterate_succ_uint8, add_eq_left, ← UInt8.toNat_inj]
  simp [UInt8.toNat_ofNat]

theorem minimalPeriod_succ_uint8 (c : UInt8) : minimalPeriod (· + 1) c = 256 := by
  have h7 : ¬ IsPeriodicPt (· + 1) (2 ^ 7) c := by
    rw [isPeriodicPt_succ_uint8]
    decide
  have h8 : IsPeriodicPt (· + 1) (2 ^ (7 + 1)) c := (isPeriodicPt_succ_uint8 c _).mpr rfl
  exact minimalPeriod_eq_prime_pow h7 h8

theorem mem_periodicPts_succ_uint8 (c : UInt8) : c ∈ periodicPts (· + 1) := by
  rw [← minimalPeriod_pos_iff_mem_periodicPts, minimalPeriod_succ_uint8]
  decide

end ChannelSim.Lib
