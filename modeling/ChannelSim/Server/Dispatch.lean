import ChannelSim.Lib.CyclicScan
import ChannelSim.Server.Udpserver

/-! # Channel selection in `fileReaderTask`

Each pass of the reader loop scans the channels from `currentSocket`, wrapping around, for one
whose `enabled` flag it reads as `1`, moves the cursor just past it and only then reads a chunk.
The scan is `Lib.cyclicFirst` (`selectChannel_eq`), so with the flags held fixed the passes of the
reader loop queue the chunks of a file on the channels of a `Lib.roundRobin` (`readerRun_fixed`,
`readerRun_succ_fixed`): the enabled channels in increasing cyclic order, each served `⌊m / |E|⌋`
or `⌈m / |E|⌉` times over `m` chunks.
-/

namespace ChannelSim
open Lib
set_option autoImplicit false

namespace Udpserver

/-! ## One selection -/

section Selection
variable (N : ℕ) (enabled : ℕ → Bool)

theorem selectLoop_eq_find (attempts : ℕ) :
    ∀ searchStartIndex, selectLoop N enabled searchStartIndex attempts =
      ((List.range attempts).find? fun d => enabled ((searchStartIndex + d) % N)).map
        fun d => (searchStartIndex + d) % N := by
  induction attempts with
  | zero => intro s; rfl
  | succ attempts ih =>
    intro s
    rw [selectLoop, List.range_succ_eq_map, List.find?_cons]
    cases hen : enabled (s % N) with
    | true => simp
    | false =>
      -- the loop moves on to `search_start_index + 1`, one offset further
      have hshift : ∀ d, s + 1 + d = s + (d + 1) := fun d => by omega
      simp only [Bool.false_eq_true, if_false, ih (s + 1), List.find?_map, Option.map_map,
        Function.comp_def, Nat.succ_eq_add_one, hshift]

theorem selectChannel_eq (currentSocket : ℕ) :
    selectChannel N enabled currentSocket =
      match cyclicFirst N enabled currentSocket with
      | some i => (some i, (i + 1) % N)
      | none => (none, currentSocket) := by
  rw [selectChannel, selectLoop_eq_find]
  rfl

theorem selectChannel_fst (currentSocket : ℕ) :
    (selectChannel N enabled currentSocket).1 = cyclicFirst N enabled currentSocket := by
  rw [selectChannel_eq]
  cases cyclicFirst N enabled currentSocket <;> rfl

theorem selectChannel_snd_of_some {currentSocket i : ℕ}
    (h : (selectChannel N enabled currentSocket).1 = some i) :
    (selectChannel N enabled currentSocket).2 = (i + 1) % N := by
  rw [selectChannel_fst] at h
  rw [selectChannel_eq, h]

theorem selectChannel_of_none {currentSocket : ℕ}
    (h : (selectChannel N enabled currentSocket).1 = none) :
    selectChannel N enabled currentSocket = (none, currentSocket) := by
  rw [selectChannel_fst] at h
  rw [selectChannel_eq, h]

end Selection

/-! ## No chunk is read without a channel -/

theorem readerPass_of_none (s : Udpserver) (enabled : ℕ → Bool) (file : List UInt8)
    (h : (selectChannel socketPoolSize enabled s.currentSocket).1 = none) :
    readerPass s enabled file = (s, file) := by
  rw [readerPass, selectChannel_of_none socketPoolSize enabled h]

theorem readerPass_of_some (s : Udpserver) (enabled : ℕ → Bool) (file : List UInt8) {target : ℕ}
    (h : (selectChannel socketPoolSize enabled s.currentSocket).1 = some target) :
    readerPass s enabled file =
      (enqueueChunk { s with currentSocket := (target + 1) % socketPoolSize } target
        (file.take readChunkSize), file.drop readChunkSize) := by
  have hsnd := selectChannel_snd_of_some socketPoolSize enabled h
  rw [readerPass]
  rcases hsel : selectChannel socketPoolSize enabled s.currentSocket with ⟨sel, cursor⟩
  rw [hsel] at h hsnd
  simp only at h hsnd
  rw [h, hsnd]

/-! ## The reader loop with the flags held fixed -/

theorem readerRun_succ (flags : ℕ → ℕ → Bool) (s : Udpserver) (file : List UInt8) (n : ℕ) :
    readerRun flags s file (n + 1) =
      if (readerRun flags s file n).2.isEmpty then readerRun flags s file n
      else readerPass (readerRun flags s file n).1 (flags n) (readerRun flags s file n).2 := rfl

section Fixed
variable (enabled : ℕ → Bool) (s : Udpserver) (file : List UInt8)

theorem currentSocket_enqueueChunk (s : Udpserver) (target : ℕ) (chunk : List UInt8) :
    (enqueueChunk s target chunk).currentSocket = s.currentSocket := rfl

theorem selectChannel_of_enabled (hE : ∃ i < socketPoolSize, enabled i = true) (c : ℕ) :
    ∃ i, cyclicFirst socketPoolSize enabled c = some i ∧
      (selectChannel socketPoolSize enabled c).1 = some i := by
  rw [selectChannel_fst]
  cases h : cyclicFirst socketPoolSize enabled c with
  | some i => exact ⟨i, rfl, rfl⟩
  | none =>
    obtain ⟨i, hi, hen⟩ := hE
    rw [cyclicFirst_eq_none_iff.mp h i hi] at hen
    exact absurd hen Bool.false_ne_true

/-- The run lemma of the reader loop with the flags held fixed and some channel enabled: while the
file lasts, the first `t` passes read the first `t` chunks, and the round robin from the first
cursor goes on from the cursor they leave. -/
theorem readerRun_fixed (hE : ∃ i < socketPoolSize, enabled i = true) (t : ℕ)
    (ht : ∀ j < t, j * readChunkSize < file.length) :
    (readerRun (fun _ => enabled) s file t).2 = file.drop (t * readChunkSize) ∧
      ∀ k, roundRobin socketPoolSize enabled s.currentSocket (t + k) =
        roundRobin socketPoolSize enabled s.currentSocket t ++
          roundRobin socketPoolSize enabled (readerRun (fun _ => enabled) s file t).1.currentSocket k := by
  induction t with
  | zero => exact ⟨rfl, fun k => by rw [Nat.zero_add, roundRobin_zero, List.nil_append]; rfl⟩
  | succ t ih =>
    obtain ⟨hrest, hrr⟩ := ih fun j hj => ht j (by omega)
    -- pass `t` finds the file not at its end and some channel enabled
    have hmore : (readerRun (fun _ => enabled) s file t).2 ≠ [] := by
      rw [hrest, Ne, List.drop_eq_nil_iff, not_le]
      exact ht t (Nat.lt_succ_self t)
    obtain ⟨i, hfirst, hsel⟩ := selectChannel_of_enabled enabled hE
      (readerRun (fun _ => enabled) s file t).1.currentSocket
    rw [readerRun_succ, if_neg (by simpa using hmore), readerPass_of_some _ _ _ hsel]
    refine ⟨by rw [hrest, List.drop_drop, Nat.succ_mul, Nat.add_comm], fun k => ?_⟩
    -- the pass takes the channel the round robin takes next, and moves the cursor past it
    have hone : roundRobin socketPoolSize enabled s.currentSocket (t + 1) =
        roundRobin socketPoolSize enabled s.currentSocket t ++ [i] := by
      rw [hrr 1, roundRobin_succ_of_some hfirst, roundRobin_zero]
    rw [currentSocket_enqueueChunk, hone, List.append_assoc, List.singleton_append,
      ← roundRobin_succ_of_some hfirst, ← hrr, Nat.add_right_comm, Nat.add_assoc]

/-- With the flags held fixed and some channel enabled, pass `t`, while the file lasts, reads chunk
`t` and queues it on the channel the round robin from the first cursor takes `t`-th. -/
theorem readerRun_succ_fixed (hE : ∃ i < socketPoolSize, enabled i = true) (t : ℕ)
    (ht : t * readChunkSize < file.length) :
    ∃ target, roundRobin socketPoolSize enabled s.currentSocket (t + 1) =
        roundRobin socketPoolSize enabled s.currentSocket t ++ [target] ∧
      readerRun (fun _ => enabled) s file (t + 1) =
        (enqueueChunk { (readerRun (fun _ => enabled) s file t).1 with
            currentSocket := (target + 1) % socketPoolSize } target
          ((file.drop (t * readChunkSize)).take readChunkSize), file.drop ((t + 1) * readChunkSize)) := by
  have hbefore : ∀ j < t, j * readChunkSize < file.length := fun j hj =>
    lt_of_le_of_lt (Nat.mul_le_mul_right _ hj.le) ht
  obtain ⟨hrest, hrr⟩ := readerRun_fixed enabled s file hE t hbefore
  obtain ⟨i, hfirst, hsel⟩ := selectChannel_of_enabled enabled hE
    (readerRun (fun _ => enabled) s file t).1.currentSocket
  have hmore : (readerRun (fun _ => enabled) s file t).2 ≠ [] := by
    rw [hrest, Ne, List.drop_eq_nil_iff, not_le]
    exact ht
  refine ⟨i, by rw [hrr 1, roundRobin_succ_of_some hfirst, roundRobin_zero], ?_⟩
  rw [readerRun_succ, if_neg (by simpa using hmore), readerPass_of_some _ _ _ hsel, hrest,
    List.drop_drop, Nat.succ_mul, Nat.add_comm (t * readChunkSize)]

end Fixed

/-- `fileReaderTask`'s selection: for every pool size and cursor `c < N`, one pass takes the first
enabled channel in the cyclic order `c, c + 1, …` and moves the cursor just past it, or finds none
exactly when no channel is enabled, and then reads nothing. With the set `E` of enabled channels
fixed and not empty, the `t`-th chunk goes to the `(j₀ + t) % |E|`-th element of `E`, from the first
element `j₀` at or after `c`: on the pool, every pass `t` of the reader loop that finds the file not
at its end reads chunk `t` and queues it on that channel. So over `m` chunks each element of `E` gets
`⌊m / |E|⌋` or `⌈m / |E|⌉` of them and no other channel gets any. -/
theorem selectChannel_round_robin (N : ℕ) (enabled : ℕ → Bool) (c : ℕ) (hc : c < N) :
    (∀ i, (selectChannel N enabled c).1 = some i ↔
        ∃ d < N, (c + d) % N = i ∧ enabled i = true ∧ ∀ e < d, enabled ((c + e) % N) = false) ∧
    (∀ i, (selectChannel N enabled c).1 = some i → (selectChannel N enabled c).2 = (i + 1) % N) ∧
    ((selectChannel N enabled c).1 = none ↔ ∀ i < N, enabled i = false) ∧
    (∀ (s : Udpserver) (file : List UInt8), (∀ i < socketPoolSize, enabled i = false) →
      readerPass s enabled file = (s, file)) ∧
    (0 < (positions N enabled).length →
      (N = socketPoolSize → ∀ (s : Udpserver) (file : List UInt8), s.currentSocket = c →
        ∀ t, t * readChunkSize < file.length →
          readerRun (fun _ => enabled) s file (t + 1) =
            (enqueueChunk { (readerRun (fun _ => enabled) s file t).1 with
                currentSocket := ((positions N enabled).getD (((positions N enabled).findIdx (c ≤ ·) %
                  (positions N enabled).length + t) % (positions N enabled).length) 0 + 1) % N }
              ((positions N enabled).getD (((positions N enabled).findIdx (c ≤ ·) %
                (positions N enabled).length + t) % (positions N enabled).length) 0)
              ((file.drop (t * readChunkSize)).take readChunkSize),
              file.drop ((t + 1) * readChunkSize))) ∧
      ∀ m i,
        let targets := (List.range m).map fun t => (positions N enabled).getD
          (((positions N enabled).findIdx (c ≤ ·) % (positions N enabled).length + t) %
            (positions N enabled).length) 0
        (i < N ∧ enabled i = true →
          targets.count i = m / (positions N enabled).length ∨
            targets.count i = (m + (positions N enabled).length - 1) / (positions N enabled).length) ∧
        (¬ (i < N ∧ enabled i = true) → targets.count i = 0)) := by
  refine ⟨?_, ?_, ?_, ?_, ?_⟩
  · intro i
    rw [selectChannel_fst]
    exact cyclicFirst_eq_some_iff
  · intro i h
    exact selectChannel_snd_of_some N enabled h
  · rw [selectChannel_fst]
    exact cyclicFirst_eq_none_iff
  · intro s file hnone
    have hsel : (selectChannel socketPoolSize enabled s.currentSocket).1 = none := by
      rw [selectChannel_fst]
      exact cyclicFirst_eq_none_iff.mpr hnone
    exact readerPass_of_none s enabled file hsel
  · intro hK
    refine ⟨?_, fun m i => ⟨?_, ?_⟩⟩
    · rintro rfl s file rfl t ht
      have hE : ∃ i < socketPoolSize, enabled i = true :=
        ⟨_, (mem_positions _ _).mp (List.getElem_mem hK)⟩
      obtain ⟨target, hone, hpass⟩ := readerRun_succ_fixed enabled s file hE t ht
      -- the round robin's closed form names the channel pass `t` takes
      rw [roundRobin_eq_map hc hK, roundRobin_eq_map hc hK, List.range_succ, List.map_append,
        List.map_singleton] at hone
      rw [hpass, List.singleton_inj.mp (List.append_cancel_left hone)]
    · rintro ⟨hi, hen⟩
      rw [← roundRobin_eq_map hc hK]
      exact count_roundRobin hc hK m hi hen
    · intro hnot
      rw [← roundRobin_eq_map hc hK]
      exact count_roundRobin_of_not hnot

/-- Channels `0` and `2` enabled and the cursor at `1`: the reader queues the first chunk of a file
on channel `2`, which moves the cursor to `0`. -/
theorem selectChannel_round_robin_skip :
    readerRun (fun _ i => i == 0 || i == 2)
        { create (Vector.replicate packetMasksSize 0) true (fun _ => true) with currentSocket := 1 }
        [1, 2, 3] 1 =
      (enqueueChunk { create (Vector.replicate packetMasksSize 0) true (fun _ => true) with
        currentSocket := 0 } 2 [1, 2, 3], []) :=
  ((selectChannel_round_robin 3 (fun i => i == 0 || i == 2) 1 (by decide)).2.2.2.2 (by decide)).1 rfl
    { create (Vector.replicate packetMasksSize 0) true (fun _ => true) with currentSocket := 1 }
    [1, 2, 3] rfl 0 (by decide)

end Udpserver

end ChannelSim
