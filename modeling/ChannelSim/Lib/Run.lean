import Mathlib

/-! # Runs of a step function

A run feeds a list of inputs, one at a time, to a step function: `xs.foldl step s`. The
invariants of a stateful component usually speak of the inputs consumed so far (how many, which),
so the induction rule here carries them: `foldl_invariant` turns a one-step preservation lemma into
a statement about every run, `foldl_invariant_take` into one about every prefix of a run.
-/

namespace ChannelSim.Lib
set_option autoImplicit false

variable {α σ : Type*}

/-- An invariant indexed by the inputs consumed so far that one step preserves holds after every
run from a state where it holds. -/
theorem foldl_invariant (step : σ → α → σ) (Inv : List α → σ → Prop) (Ok : α → Prop)
    (hstep : ∀ pre a s, Ok a → Inv pre s → Inv (pre ++ [a]) (step s a)) :
    ∀ (xs pre : List α) (s : σ), (∀ a ∈ xs, Ok a) → Inv pre s → Inv (pre ++ xs) (xs.foldl step s) := by
  intro xs
  induction xs with
  | nil =>
    intro pre s _ hs
    simpa using hs
  | cons a xs ih =>
    intro pre s hok hs
    have hone : Inv (pre ++ [a]) (step s a) := hstep pre a s (hok a List.mem_cons_self) hs
    have hrest := ih (pre ++ [a]) (step s a) (fun b hb => hok b (List.mem_cons_of_mem a hb)) hone
    simpa using hrest

theorem foldl_invariant_at (step : σ → α → σ) (Inv : ℕ → σ → Prop) (Ok : ℕ → α → Prop)
    (hstep : ∀ n a s, Ok n a → Inv n s → Inv (n + 1) (step s a)) :
    ∀ (xs : List α) (n : ℕ) (s : σ), (∀ i (hi : i < xs.length), Ok (n + i) xs[i]) → Inv n s →
      Inv (n + xs.length) (xs.foldl step s) := by
  intro xs
  induction xs with
  | nil =>
    intro n s _ hs
    simpa using hs
  | cons a xs ih =>
    intro n s hok hs
    have hone : Inv (n + 1) (step s a) := hstep n a s (hok 0 (by simp)) hs
    have hrest := ih (n + 1) (step s a) (fun i hi => by
      have h := hok (i + 1) (by simp; omega)
      rwa [List.getElem_cons_succ, ← Nat.add_assoc, Nat.add_right_comm] at h) hone
    have hlen : n + 1 + xs.length = n + (a :: xs).length := by simp; omega
    rw [← hlen]
    exact hrest

theorem foldl_invariant_take (step : σ → α → σ) (Inv : List α → σ → Prop) (Ok : α → Prop)
    (hstep : ∀ pre a s, Ok a → Inv pre s → Inv (pre ++ [a]) (step s a)) (xs : List α) (s : σ)
    (hok : ∀ a ∈ xs, Ok a) (hs : Inv [] s) (t : ℕ) : Inv (xs.take t) ((xs.take t).foldl step s) := by
  have h := foldl_invariant step Inv Ok hstep (xs.take t) [] s
    (fun a ha => hok a (List.mem_of_mem_take ha)) hs
  simpa using h

theorem foldl_take_succ (step : σ → α → σ) (xs : List α) (s : σ) (t : ℕ) (ht : t < xs.length) :
    (xs.take (t + 1)).foldl step s = step ((xs.take t).foldl step s) xs[t] := by
  rw [List.take_add_one, List.getElem?_eq_getElem ht, Option.toList_some, List.foldl_append,
    List.foldl_cons, List.foldl_nil]

end ChannelSim.Lib
