import Mathlib.Data.List.Basic
import Mathlib.Data.Nat.Notation

/-!
# Runs of atomic operations

When every call of a process is one atomic operation on the shared state, an
interleaving of calls is a list of operations.  `stateAt` is the state before the
`k`-th of them.

* `stateAt_induction` — what every operation keeps from some point on holds from
  that point on;
* `stateAt_related` — a preorder that every operation respects relates each state
  to all later ones;
* `exists_step` — what holds later and not earlier was brought about by one
  operation between.
-/

namespace Concurrency

variable {C σ : Type} (effect : C → σ → σ)

/-- The state before the `k`-th operation of a run. -/
def stateAt (start : σ) (operations : List C) (k : ℕ) : σ :=
  (operations.take k).foldl (fun state c => effect c state) start

variable {effect} {start : σ} {operations : List C}

@[simp]
theorem stateAt_zero : stateAt effect start operations 0 = start := rfl

theorem stateAt_succ {k : ℕ} {c : C} (found : operations[k]? = some c) :
    stateAt effect start operations (k + 1) = effect c (stateAt effect start operations k) := by
  rw [stateAt, List.take_add_one, found, List.foldl_append]
  rfl

/-- After the last operation nothing changes. -/
theorem stateAt_succ_of_none {k : ℕ} (missing : operations[k]? = none) :
    stateAt effect start operations (k + 1) = stateAt effect start operations k := by
  rw [stateAt, List.take_add_one, missing, Option.toList_none, List.append_nil]
  rfl

/-- What every operation from the `i`-th on keeps, it keeps. -/
theorem stateAt_induction {I : ℕ → σ → Prop} {i : ℕ}
    (holds : I i (stateAt effect start operations i))
    (step : ∀ k c, i ≤ k → operations[k]? = some c → I k (stateAt effect start operations k) →
      I (k + 1) (effect c (stateAt effect start operations k)))
    (idle : ∀ k state, i ≤ k → I k state → I (k + 1) state) {j : ℕ}
    (le : i ≤ j) : I j (stateAt effect start operations j) := by
  induction le with
  | refl => exact holds
  | @step k le ih =>
    grind [stateAt_succ_of_none, stateAt_succ]

/-- An invariant of the operations of a run. -/
theorem stateAt_invariant {I : σ → Prop} (holds : I start)
    (step : ∀ c ∈ operations, ∀ state, I state → I (effect c state)) (k : ℕ) :
    I (stateAt effect start operations k) :=
  stateAt_induction (I := fun _ => I) (i := 0) holds
    (fun _ c _ found => step c (List.mem_of_getElem? found) _)
    (fun _ _ _ => id) (Nat.zero_le k)

/-- A preorder that the operations of a run respect. -/
theorem stateAt_related {R : σ → σ → Prop} (refl : ∀ state, R state state)
    (trans : ∀ {a b c}, R a b → R b c → R a c) (step : ∀ k c, operations[k]? = some c →
      R (stateAt effect start operations k)
        (effect c (stateAt effect start operations k))) {i j : ℕ} (le : i ≤ j) :
    R (stateAt effect start operations i) (stateAt effect start operations j) :=
  stateAt_induction (I := fun _ => R (stateAt effect start operations i))
    (refl _) (fun k c _ found related => trans related (step k c found))
    (fun _ _ _ => id) le

/-- What holds at the end and not at the start of a part of a run begins to hold
with one of its operations. -/
theorem exists_step {P : σ → Prop} {i j : ℕ} (le : i ≤ j)
    (before : ¬P (stateAt effect start operations i))
    (after : P (stateAt effect start operations j)) :
    ∃ k c, i ≤ k ∧ k < j ∧ operations[k]? = some c ∧ ¬P (stateAt effect start operations k) ∧
      P (effect c (stateAt effect start operations k)) := by
  induction le with
  | refl => exact absurd after before
  | @step k le ih =>
    by_cases already : P (stateAt effect start operations k)
    · grind
    · grind [stateAt_succ_of_none, stateAt_succ]

end Concurrency
