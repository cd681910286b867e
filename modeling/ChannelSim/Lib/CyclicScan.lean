import Mathlib

/-! # Cyclic scans and round robin

A scan over the slots `0, …, N - 1` that starts at a cursor `c` and wraps around takes the first
slot of the cyclic order `c, c + 1, …, c + N - 1` (mod `N`) that a predicate accepts:
`cyclicFirst`. A scan that moves the cursor past each slot it takes, again and again, is a round
robin: `roundRobin`.

With `positions N p` the accepted slots in increasing order and `K` their number, the scan from
`c < N` takes the first accepted slot at or after `c`, and the smallest one when there is none
(`cyclicFirst_of_findIdx_lt`, `cyclicFirst_of_findIdx_eq`); from just past the `a`-th accepted slot
it takes the `(a + 1) % K`-th (`cyclicFirst_after`). So the round robin visits the accepted slots in
increasing cyclic order (`roundRobin_eq_map`), and over `m` picks it takes each accepted slot
`⌊m / K⌋` or `⌈m / K⌉` times and no other slot (`count_roundRobin`, `count_roundRobin_of_not`).
-/

namespace ChannelSim.Lib
set_option autoImplicit false

section CyclicScan
variable (N : ℕ) (p : ℕ → Bool)

/-- The first slot of the cyclic order `c, c + 1, …, c + N - 1` (mod `N`) that `p` accepts. -/
def cyclicFirst (c : ℕ) : Option ℕ :=
  ((List.range N).find? fun d => p ((c + d) % N)).map fun d => (c + d) % N

/-- The slots below `N` that `p` accepts, in increasing order. -/
def positions : List ℕ := (List.range N).filter p

/-- `m` scans, each from just past the slot the one before took. It stops at a scan that finds
nothing. -/
def roundRobin : ℕ → ℕ → List ℕ
  | _, 0 => []
  | c, m + 1 =>
    match cyclicFirst N p c with
    | some i => i :: roundRobin ((i + 1) % N) m
    | none => []

/-! ## The scan -/

variable {N p}

theorem cyclicFirst_eq_some_iff {c i : ℕ} :
    cyclicFirst N p c = some i ↔
      ∃ d < N, (c + d) % N = i ∧ p i = true ∧ ∀ e < d, p ((c + e) % N) = false := by
  simp only [cyclicFirst, Option.map_eq_some_iff, List.find?_range_eq_some, List.mem_range,
    Bool.not_eq_true']
  constructor
  · rintro ⟨d, ⟨hp, hd, hmin⟩, rfl⟩
    exact ⟨d, hd, rfl, hp, hmin⟩
  · rintro ⟨d, hd, rfl, hp, hmin⟩
    exact ⟨d, ⟨hp, hd, hmin⟩, rfl⟩

theorem exists_offset {i : ℕ} (hi : i < N) (c : ℕ) : ∃ d < N, (c + d) % N = i := by
  have hdiv := Nat.div_add_mod c N
  have hmod := Nat.mod_lt c (show 0 < N by omega)
  by_cases hle : c % N ≤ i
  · refine ⟨i - c % N, by omega, ?_⟩
    have hsum : c + (i - c % N) = i + N * (c / N) := by omega
    rw [hsum, Nat.add_mul_mod_self_left, Nat.mod_eq_of_lt hi]
  · refine ⟨N - c % N + i, by omega, ?_⟩
    have hsum : c + (N - c % N + i) = i + N * (c / N + 1) := by rw [Nat.mul_add]; omega
    rw [hsum, Nat.add_mul_mod_self_left, Nat.mod_eq_of_lt hi]

theorem cyclicFirst_eq_none_iff {c : ℕ} : cyclicFirst N p c = none ↔ ∀ i < N, p i = false := by
  simp only [cyclicFirst, Option.map_eq_none_iff, List.find?_range_eq_none, Bool.not_eq_true']
  constructor
  · intro h i hi
    obtain ⟨d, hd, hcd⟩ := exists_offset hi c
    rw [← hcd]
    exact h d hd
  · intro h d hd
    exact h _ (Nat.mod_lt _ (by omega))

theorem cyclicFirst_accepts {c i : ℕ} (h : cyclicFirst N p c = some i) : i < N ∧ p i = true := by
  obtain ⟨d, hd, rfl, hp, -⟩ := cyclicFirst_eq_some_iff.mp h
  exact ⟨Nat.mod_lt _ (by omega), hp⟩

theorem cyclicFirst_of_le {c x : ℕ} (hcx : c ≤ x) (hx : x < N) (hpx : p x = true)
    (hgap : ∀ y, c ≤ y → y < x → p y = false) : cyclicFirst N p c = some x := by
  refine cyclicFirst_eq_some_iff.mpr ⟨x - c, by omega, ?_, hpx, ?_⟩
  · rw [Nat.add_sub_cancel' hcx, Nat.mod_eq_of_lt hx]
  · intro e he
    rw [Nat.mod_eq_of_lt (by omega)]
    exact hgap _ (by omega) (by omega)

theorem cyclicFirst_of_lt {c x : ℕ} (hc : c < N) (hxc : x < c) (hpx : p x = true)
    (htop : ∀ y, c ≤ y → y < N → p y = false) (hbot : ∀ y < x, p y = false) :
    cyclicFirst N p c = some x := by
  refine cyclicFirst_eq_some_iff.mpr ⟨N - c + x, by omega, ?_, hpx, ?_⟩
  · have hsum : c + (N - c + x) = x + N * 1 := by omega
    rw [hsum, Nat.add_mul_mod_self_left, Nat.mod_eq_of_lt (by omega)]
  · intro e he
    by_cases hwrap : c + e < N
    · rw [Nat.mod_eq_of_lt hwrap]
      exact htop _ (by omega) hwrap
    · have hsum : c + e = (c + e - N) + N * 1 := by omega
      rw [hsum, Nat.add_mul_mod_self_left, Nat.mod_eq_of_lt (by omega)]
      exact hbot _ (by omega)

/-! ## Accepted slots in order -/

variable (N p)

theorem mem_positions {x : ℕ} : x ∈ positions N p ↔ x < N ∧ p x = true := by
  simp [positions]

theorem positions_pairwise : (positions N p).Pairwise (· < ·) :=
  List.pairwise_lt_range.filter p

variable {N p}

theorem getElem_positions_lt_iff {i j : ℕ} (hi : i < (positions N p).length)
    (hj : j < (positions N p).length) : (positions N p)[i] < (positions N p)[j] ↔ i < j := by
  have hmono := List.pairwise_iff_getElem.mp (positions_pairwise N p)
  constructor
  · intro hlt
    by_contra hge
    rcases Nat.lt_or_eq_of_le (Nat.le_of_not_lt hge) with hji | rfl
    · exact absurd (hmono j i hj hi hji) (by omega)
    · exact Nat.lt_irrefl _ hlt
  · exact hmono i j hi hj

theorem getElem_positions_lt (i : ℕ) (hi : i < (positions N p).length) : (positions N p)[i] < N :=
  ((mem_positions N p).mp (List.getElem_mem hi)).1

theorem getElem_positions_accepted (i : ℕ) (hi : i < (positions N p).length) :
    p (positions N p)[i] = true :=
  ((mem_positions N p).mp (List.getElem_mem hi)).2

theorem exists_getElem_positions {y : ℕ} (hy : y < N) (hpy : p y = true) :
    ∃ i, ∃ hi : i < (positions N p).length, (positions N p)[i] = y :=
  List.getElem_of_mem ((mem_positions N p).mpr ⟨hy, hpy⟩)

theorem accepted_between {a : ℕ} (ha : a + 1 < (positions N p).length) {y : ℕ}
    (hlo : (positions N p)[a] < y) (hhi : y < (positions N p)[a + 1]) : p y = false := by
  cases hpy : p y with
  | false => rfl
  | true =>
    obtain ⟨i, hi, rfl⟩ := exists_getElem_positions
      (show y < N by have := getElem_positions_lt _ ha; omega) hpy
    have h1 := (getElem_positions_lt_iff (by omega) hi).mp hlo
    have h2 := (getElem_positions_lt_iff hi ha).mp hhi
    omega

theorem accepted_below_head (hK : 0 < (positions N p).length) {y : ℕ}
    (hy : y < (positions N p)[0]) : p y = false := by
  cases hpy : p y with
  | false => rfl
  | true =>
    obtain ⟨i, hi, rfl⟩ := exists_getElem_positions
      (show y < N by have := getElem_positions_lt _ hK; omega) hpy
    have := (getElem_positions_lt_iff hi hK).mp hy
    omega

theorem accepted_above_last {a : ℕ} (ha : a + 1 = (positions N p).length) {y : ℕ}
    (hy : (positions N p)[a] < y) (hyN : y < N) : p y = false := by
  cases hpy : p y with
  | false => rfl
  | true =>
    obtain ⟨i, hi, rfl⟩ := exists_getElem_positions hyN hpy
    have := (getElem_positions_lt_iff (by omega) hi).mp hy
    omega

/-! ## Where a scan lands -/

theorem cyclicFirst_of_findIdx_lt {c : ℕ}
    (hj : (positions N p).findIdx (c ≤ ·) < (positions N p).length) :
    cyclicFirst N p c = some (positions N p)[(positions N p).findIdx (c ≤ ·)] := by
  have hcx : c ≤ (positions N p)[(positions N p).findIdx (c ≤ ·)] := by
    simpa using @List.findIdx_getElem _ _ _ hj
  refine cyclicFirst_of_le hcx (getElem_positions_lt _ hj) (getElem_positions_accepted _ hj) ?_
  intro y hcy hy
  cases hpy : p y with
  | false => rfl
  | true =>
    obtain ⟨i, hi, rfl⟩ := exists_getElem_positions
      (show y < N by have := getElem_positions_lt _ hj; omega) hpy
    -- slots before the found index are below the cursor, the others at or above the found slot
    have hbefore : (positions N p).findIdx (c ≤ ·) ≤ i := by
      by_contra hlt
      have := List.not_of_lt_findIdx (Nat.lt_of_not_le hlt)
      simp only [decide_eq_false_iff_not, Nat.not_le] at this
      omega
    have := (getElem_positions_lt_iff hi hj).mp hy
    omega

theorem cyclicFirst_of_findIdx_eq {c : ℕ} (hc : c < N) (hK : 0 < (positions N p).length)
    (hj : (positions N p).findIdx (c ≤ ·) = (positions N p).length) :
    cyclicFirst N p c = some (positions N p)[0] := by
  have hbelow : ∀ i (hi : i < (positions N p).length), (positions N p)[i] < c := by
    intro i hi
    have := List.findIdx_eq_length.mp hj _ (List.getElem_mem hi)
    simpa using this
  refine cyclicFirst_of_lt hc (hbelow 0 hK) (getElem_positions_accepted _ hK) ?_
    (fun y hy => accepted_below_head hK hy)
  intro y hcy hyN
  cases hpy : p y with
  | false => rfl
  | true =>
    obtain ⟨i, hi, rfl⟩ := exists_getElem_positions hyN hpy
    have := hbelow i hi
    omega

theorem cyclicFirst_eq_getD {c : ℕ} (hc : c < N) (hK : 0 < (positions N p).length) :
    cyclicFirst N p c =
      some ((positions N p).getD ((positions N p).findIdx (c ≤ ·) % (positions N p).length) 0) := by
  rcases Nat.lt_or_eq_of_le (@List.findIdx_le_length _ (c ≤ ·) (positions N p)) with hj | hj
  · rw [Nat.mod_eq_of_lt hj, List.getD_eq_getElem _ _ hj]
    exact cyclicFirst_of_findIdx_lt hj
  · rw [hj, Nat.mod_self, List.getD_eq_getElem _ _ hK]
    exact cyclicFirst_of_findIdx_eq hc hK hj

theorem cyclicFirst_after {a : ℕ} (ha : a < (positions N p).length) :
    cyclicFirst N p (((positions N p)[a] + 1) % N) =
      some ((positions N p).getD ((a + 1) % (positions N p).length) 0) := by
  have hlt := getElem_positions_lt a ha
  rcases Nat.lt_or_ge (a + 1) (positions N p).length with hnext | hlast
  · -- the next accepted slot lies above this one
    have hmono := (getElem_positions_lt_iff ha hnext).mpr (Nat.lt_succ_self a)
    have hnextN := getElem_positions_lt _ hnext
    rw [Nat.mod_eq_of_lt hnext, List.getD_eq_getElem _ _ hnext, Nat.mod_eq_of_lt (by omega)]
    exact cyclicFirst_of_le (by omega) hnextN (getElem_positions_accepted _ hnext)
      (fun y hy1 hy2 => accepted_between hnext (by omega) hy2)
  · -- the last accepted slot: the scan wraps around to the smallest one
    have hK : 0 < (positions N p).length := by omega
    have hend : a + 1 = (positions N p).length := by omega
    rw [hend, Nat.mod_self, List.getD_eq_getElem _ _ hK]
    by_cases htop : (positions N p)[a] + 1 < N
    · have hhead : (positions N p)[0] ≤ (positions N p)[a] := by
        rcases Nat.eq_zero_or_pos a with rfl | hpos
        · exact le_refl _
        · exact Nat.le_of_lt ((getElem_positions_lt_iff hK ha).mpr hpos)
      rw [Nat.mod_eq_of_lt htop]
      exact cyclicFirst_of_lt htop (by omega) (getElem_positions_accepted _ hK)
        (fun y hy hyN => accepted_above_last hend (by omega) hyN)
        (fun y hy => accepted_below_head hK hy)
    · have hzero : ((positions N p)[a] + 1) % N = 0 := by
        rw [show (positions N p)[a] + 1 = N by omega, Nat.mod_self]
      rw [hzero]
      exact cyclicFirst_of_le (Nat.zero_le _) (getElem_positions_lt _ hK)
        (getElem_positions_accepted _ hK) (fun y _ hy => accepted_below_head hK hy)

/-! ## Round robin -/

theorem roundRobin_zero (c : ℕ) : roundRobin N p c 0 = [] := rfl

theorem roundRobin_succ_of_some {c i : ℕ} (h : cyclicFirst N p c = some i) (m : ℕ) :
    roundRobin N p c (m + 1) = i :: roundRobin N p ((i + 1) % N) m := by
  simp only [roundRobin, h]

theorem mem_roundRobin {c m x : ℕ} (hx : x ∈ roundRobin N p c m) : x < N ∧ p x = true := by
  induction m generalizing c with
  | zero => simp [roundRobin] at hx
  | succ m ih =>
    cases hfirst : cyclicFirst N p c with
    | none => simp [roundRobin, hfirst] at hx
    | some i =>
      rw [roundRobin_succ_of_some hfirst] at hx
      rcases List.mem_cons.mp hx with rfl | hx
      · exact cyclicFirst_accepts hfirst
      · exact ih hx

theorem roundRobin_from {a : ℕ} (ha : a < (positions N p).length) {c : ℕ}
    (hfirst : cyclicFirst N p c = some ((positions N p).getD a 0)) (m : ℕ) :
    roundRobin N p c m =
      (List.range m).map fun t => (positions N p).getD ((a + t) % (positions N p).length) 0 := by
  induction m generalizing a c with
  | zero => rfl
  | succ m ih =>
    have hK : 0 < (positions N p).length := by omega
    have hnext := cyclicFirst_after ha
    rw [List.getD_eq_getElem _ _ ha] at hfirst
    rw [roundRobin_succ_of_some hfirst, ih (Nat.mod_lt _ hK) hnext, List.range_succ_eq_map,
      List.map_cons, List.map_map]
    congr 1
    · simp only [Nat.add_zero, Nat.mod_eq_of_lt ha, List.getD_eq_getElem _ _ ha]
    · -- the rest of the round robin starts one accepted slot further on
      apply List.map_congr_left
      intro t _
      simp only [Function.comp, Nat.mod_add_mod, Nat.succ_eq_add_one]
      congr 2
      omega

/-- The round robin from a cursor `c < N` visits the accepted slots in increasing cyclic order,
from the first one at or after `c`. -/
theorem roundRobin_eq_map {c : ℕ} (hc : c < N) (hK : 0 < (positions N p).length) (m : ℕ) :
    roundRobin N p c m =
      (List.range m).map fun t => (positions N p).getD
        (((positions N p).findIdx (c ≤ ·) % (positions N p).length + t) % (positions N p).length) 0 :=
  roundRobin_from (Nat.mod_lt _ hK) (cyclicFirst_eq_getD hc hK) m

/-! ## How often each slot is taken -/

theorem countP_shifted_mod {K a b : ℕ} (ha : a < K) (hb : b < K) (m : ℕ) :
    (List.range m).countP (fun t => (a + t) % K == b) =
      m / K + if (b + K - a) % K < m % K then 1 else 0 := by
  have hsum : a + (b + K - a) = b + K * 1 := by omega
  -- `a + t` hits `b` modulo `K` exactly when `t` is `b + K - a` modulo `K`
  have hshift : ∀ t, (a + t) % K = b ↔ t ≡ b + K - a [MOD K] := by
    intro t
    constructor
    · intro h
      apply Nat.ModEq.add_left_cancel' a
      change (a + t) % K = (a + (b + K - a)) % K
      rw [h, hsum, Nat.add_mul_mod_self_left, Nat.mod_eq_of_lt hb]
    · intro h
      have h' := Nat.ModEq.add_left a h
      change (a + t) % K = (a + (b + K - a)) % K at h'
      rw [h', hsum, Nat.add_mul_mod_self_left, Nat.mod_eq_of_lt hb]
  rw [← Nat.count_modEq_card m (show 0 < K by omega) (b + K - a), Nat.count]
  apply List.countP_congr
  intro t _
  simpa using hshift t

theorem div_add_ite_eq_floor_or_ceil {m K v : ℕ} (hK : 0 < K) :
    (m / K + if v < m % K then 1 else 0) = m / K ∨
      (m / K + if v < m % K then 1 else 0) = (m + K - 1) / K := by
  split_ifs with hv
  · right
    have hdiv := Nat.div_add_mod m K
    have hsum : m + K - 1 = (m % K - 1) + K * (m / K + 1) := by rw [Nat.mul_add]; omega
    have hlt : m % K - 1 < K := by have := Nat.mod_lt m hK; omega
    rw [hsum, Nat.add_mul_div_left _ _ hK, Nat.div_eq_of_lt hlt]
    omega
  · left
    rfl

theorem count_map_getD_positions {a b : ℕ} (ha : a < (positions N p).length)
    (hb : b < (positions N p).length) (m : ℕ) :
    ((List.range m).map fun t =>
        (positions N p).getD ((a + t) % (positions N p).length) 0).count (positions N p)[b] =
      m / (positions N p).length +
        if (b + (positions N p).length - a) % (positions N p).length < m % (positions N p).length
        then 1 else 0 := by
  have hK : 0 < (positions N p).length := by omega
  rw [List.count_eq_countP, List.countP_map, ← countP_shifted_mod ha hb m]
  apply List.countP_congr
  intro t _
  have ht : (a + t) % (positions N p).length < (positions N p).length := Nat.mod_lt _ hK
  simp only [Function.comp, List.getD_eq_getElem _ _ ht, beq_iff_eq,
    ((positions_pairwise N p).nodup).getElem_inj_iff]

/-- Over `m` picks from a cursor `c < N`, each accepted slot is taken `⌊m / K⌋` or `⌈m / K⌉`
times. -/
theorem count_roundRobin {c : ℕ} (hc : c < N) (hK : 0 < (positions N p).length) (m : ℕ) {x : ℕ}
    (hx : x < N) (hpx : p x = true) :
    (roundRobin N p c m).count x = m / (positions N p).length ∨
      (roundRobin N p c m).count x =
        (m + (positions N p).length - 1) / (positions N p).length := by
  obtain ⟨b, hb, rfl⟩ := exists_getElem_positions hx hpx
  rw [roundRobin_eq_map hc hK, count_map_getD_positions (Nat.mod_lt _ hK) hb]
  exact div_add_ite_eq_floor_or_ceil hK

theorem count_roundRobin_of_not {c m x : ℕ} (hx : ¬ (x < N ∧ p x = true)) :
    (roundRobin N p c m).count x = 0 :=
  List.count_eq_zero.mpr fun hmem => hx (mem_roundRobin hmem)

end CyclicScan

end ChannelSim.Lib
