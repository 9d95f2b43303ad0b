import Tubo.Concurrency.Program

/-!
# Executions of one program

A program that runs alone, in surroundings that may answer each command in more than one
way.  `Execution` are its finite executions, complete or not, with every moment of them;
`Program.Meets` follows a program through all of them at once.

* `Program.meets_bind` — a program and its continuation;
* `Program.meets_iff` — a program meets a condition exactly if every moment and every
  result of each of its executions does.
-/

namespace Concurrency

variable {C : Type} {R : C → Type} {α β σ : Type}

/-- A command that took effect, with the states around it. -/
structure Moment (C : Type) (R : C → Type) (σ : Type) where
  command : C
  response : R command
  before : σ
  after : σ

/-- The executions of a program: their moments, the result if there is one by then, and the
last state. -/
inductive Execution (exec : (c : C) → σ → R c → σ → Prop) :
    Program C R α → σ → List (Moment C R σ) → Option α → σ → Prop
  | stop (program : Program C R α) (s : σ) : Execution exec program s [] none s
  | done (value : α) (s : σ) : Execution exec (.done value) s [] (some value) s
  | call {c : C} {next : R c → Program C R α} {s s' last : σ} {response : R c}
      {moments : List (Moment C R σ)} {result : Option α}
      (effect : exec c s response s')
      (rest : Execution exec (next response) s' moments result last) :
      Execution exec (.call c next) s (⟨c, response, s, s'⟩ :: moments) result last

namespace Program

variable {exec : (c : C) → σ → R c → σ → Prop} {check : Moment C R σ → Prop}

variable (exec check) in
/-- Every moment of every execution from a state passes the check, and every result is as
it should be. -/
def Meets (post : α → σ → Prop) : Program C R α → σ → Prop
  | .done value, s => post value s
  | .call c next, s => ∀ response s', exec c s response s' →
      check ⟨c, response, s, s'⟩ ∧ Meets post (next response) s'

variable {program : Program C R α} {s : σ}

theorem Meets.mono {post weaker : α → σ → Prop} (weaken : ∀ value s, post value s → weaker value s)
    (meets : program.Meets exec check post s) : program.Meets exec check weaker s := by
  induction program generalizing s with
  | done value => exact weaken value s meets
  | call c next ih =>
    intro response s' effect
    obtain ⟨checked, rest⟩ := meets response s' effect
    exact ⟨checked, ih response rest⟩

/-- A program and what comes after it. -/
theorem meets_bind {post : β → σ → Prop} {after : α → Program C R β} :
    (program.bind after).Meets exec check post s ↔
      program.Meets exec check (fun value s => (after value).Meets exec check post s) s := by
  induction program generalizing s with
  | done value => exact Iff.rfl
  | call c next ih =>
    refine forall_congr' fun response => forall_congr' fun s' => forall_congr' fun _ => ?_
    exact and_congr_right fun _ => ih response

/-- **Executions.**  A program meets a condition exactly if all its executions do. -/
theorem meets_iff {post : α → σ → Prop} : program.Meets exec check post s ↔
      ∀ moments result last, Execution exec program s moments result last →
        (∀ moment ∈ moments, check moment) ∧ ∀ value, result = some value → post value last := by
  constructor
  · intro meets moments result last execution
    induction execution with
    | stop => exact ⟨by simp, by simp⟩
    | done value s =>
      refine ⟨by simp, ?_⟩
      rintro value' ⟨⟩
      exact meets
    | call effect rest ih =>
      obtain ⟨checked, meets⟩ := meets _ _ effect
      grind
  · intro all
    induction program generalizing s with
    | done value => exact (all [] (some value) s (.done value s)).2 value rfl
    | call c next ih =>
      intro response s' effect
      refine ⟨?_, ih response ?_⟩
      · exact (all _ none s' (.call effect (.stop _ _))).1 _ List.mem_cons_self
      · intro moments result last execution
        obtain ⟨moments, results⟩ := all _ _ _ (.call effect execution)
        exact ⟨fun moment member => moments moment (List.mem_cons_of_mem _ member), results⟩

end Program

end Concurrency
