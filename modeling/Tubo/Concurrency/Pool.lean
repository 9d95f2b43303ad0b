import Mathlib.Logic.Relation
import Tubo.Concurrency.Program

/-!
# Pools of interleaved programs

A pool runs any number of programs against one shared state.  Threads are
started at any time from a fixed family of jobs, and at each moment any thread
may take its next step; a step executes exactly one command.  The *history*
records every event in order, with the shared state before and after it, so a
statement about all interleavings is a statement about the histories of
reachable pools.

* `System` — the jobs, their code, the effect of a command, and which jobs may
  be started after a given history;
* `System.Step` and `System.Reachable` — one event, and any number of them;
* `System.Reachable.ordered` — a preorder that every command follows orders
  all the states of a history;
* `System.Reachable.invariant_iff` — when an invariant that some commands break
  holds throughout a history;
* `play` — an executable schedule, for exhibiting particular interleavings;
* `perform` — the same for commands that may block, with inputs of the
  environment.

The effect of a command is a relation, so a command may block (no response is
related to the state) or fail nondeterministically.
-/

namespace Concurrency

/-- What a thread can be seen to do: it is started with a job, it executes a
command, or it returns. -/
inductive Action (J C : Type) (R : C → Type) (α : Type)
  | spawned (job : J)
  | ran (command : C) (response : R command)
  | returned (value : α)

/-- An action of a thread between two shared states. -/
structure Event (J C : Type) (R : C → Type) (α σ : Type) where
  thread : ℕ
  action : Action J C R α
  before : σ
  after : σ

/-- The shared state together with everything that happened so far. -/
structure World (J C : Type) (R : C → Type) (α σ : Type) where
  state : σ
  history : List (Event J C R α σ)

/-- A world together with the remaining program of every thread; a thread that
has returned is `none`. -/
structure Pool (J C : Type) (R : C → Type) (α σ : Type) extends
    World J C R α σ where
  threads : List (Option (Program C R α))

/-- A concurrent system.  `exec c s r s'` says that command `c` may answer `r`
and take the shared state from `s` to `s'`; `admits h j` says that job `j` may
be started after history `h`. -/
structure System (J C : Type) (R : C → Type) (α σ : Type) where
  code : J → Program C R α
  exec : (c : C) → σ → R c → σ → Prop
  admits : List (Event J C R α σ) → J → Prop

variable {J C : Type} {R : C → Type} {α σ : Type}

namespace World

/-- No event of the history belongs to this thread or a later one. -/
def Fresh (world : World J C R α σ) (thread : ℕ) : Prop :=
  ∀ event ∈ world.history, event.thread < thread

/-- The thread was started with this job. -/
def Runs (world : World J C R α σ) (thread : ℕ) (job : J) : Prop :=
  ∃ event ∈ world.history, event.thread = thread ∧ event.action = .spawned job

theorem Runs.mono {world next : World J C R α σ} {thread : ℕ} {job : J}
    (runs : world.Runs thread job) (grows : world.history <+: next.history) :
    next.Runs thread job := by
  obtain ⟨event, member, isThread, isSpawn⟩ := runs
  exact ⟨event, grows.subset member, isThread, isSpawn⟩

/-- The world after an action that leaves the shared state `after`. -/
def record (world : World J C R α σ) (thread : ℕ) (action : Action J C R α)
    (after : σ) : World J C R α σ :=
  ⟨after, world.history ++ [⟨thread, action, world.state, after⟩]⟩

variable (world : World J C R α σ) (thread : ℕ) (action : Action J C R α)
  (after : σ)

@[simp]
theorem record_state : (world.record thread action after).state = after := rfl

@[simp]
theorem record_history : (world.record thread action after).history =
      world.history ++ [⟨thread, action, world.state, after⟩] := rfl

theorem runs_record_spawned (job : J) :
    (world.record thread (.spawned job) after).Runs thread job :=
  ⟨_, List.mem_append_right _ (List.mem_singleton_self _), rfl, rfl⟩

theorem Runs.of_record {world : World J C R α σ} {thread other : ℕ}
    {action : Action J C R α} {after : σ} {job : J}
    (runs : (world.record other action after).Runs thread job)
    (notSpawn : ∀ started, action ≠ .spawned started) : world.Runs thread job := by
  obtain ⟨event, member, isThread, isSpawn⟩ := runs
  rcases List.mem_append.mp member with old | new
  · exact ⟨event, old, isThread, isSpawn⟩
  · grind

end World

/-- The pool without threads over a shared state. -/
def Pool.start (state : σ) : Pool J C R α σ :=
  ⟨⟨state, []⟩, []⟩

namespace System

variable (S : System J C R α σ)

/-- One event of a pool. -/
inductive Step : Pool J C R α σ → Pool J C R α σ → Prop
  | spawn {pool : Pool J C R α σ} {job : J}
      (admitted : S.admits pool.history job) :
      Step pool ⟨pool.toWorld.record pool.threads.length (.spawned job) pool.state,
          pool.threads ++ [some (S.code job)]⟩
  | move {pool : Pool J C R α σ} {thread : ℕ} {command : C}
      {next : R command → Program C R α} {response : R command} {after : σ}
      (ready : pool.threads[thread]? = some (some (.call command next)))
      (effect : S.exec command pool.state response after) :
      Step pool ⟨pool.toWorld.record thread (.ran command response) after,
          pool.threads.set thread (some (next response))⟩
  | finish {pool : Pool J C R α σ} {thread : ℕ} {value : α}
      (ready : pool.threads[thread]? = some (some (.done value))) :
      Step pool ⟨pool.toWorld.record thread (.returned value) pool.state,
          pool.threads.set thread none⟩

/-- The pools that some interleaving reaches from a shared state. -/
def Reachable (state : σ) (pool : Pool J C R α σ) : Prop :=
  Relation.ReflTransGen S.Step (Pool.start state) pool

variable {S}

theorem Reachable.start (state : σ) : S.Reachable state (Pool.start state) :=
  Relation.ReflTransGen.refl

variable {state start : σ} {pool next : Pool J C R α σ}

theorem Reachable.step
    (reachable : S.Reachable state pool) (step : S.Step pool next) : S.Reachable state next :=
  Relation.ReflTransGen.tail reachable step

/-! ### Threads and their jobs -/

/-- Thread numbers are given out in order, so every recorded thread exists. -/
theorem Step.fresh (step : S.Step pool next)
    (fresh : pool.toWorld.Fresh pool.threads.length) : next.toWorld.Fresh next.threads.length := by
  intro event member
  cases step with
  | spawn _ =>
    simp only [World.record_history, List.mem_append, List.mem_singleton,
      List.length_append, List.length_singleton] at member ⊢
    rcases member with old | rfl
    · exact Nat.lt_succ_of_lt (fresh event old)
    · exact Nat.lt_succ_self _
  | move ready _ =>
    simp only [World.record_history, List.mem_append, List.mem_singleton,
      List.length_set] at member ⊢
    rcases member with old | rfl
    · exact fresh event old
    · exact (List.getElem?_eq_some_iff.mp ready).1
  | finish ready =>
    simp only [World.record_history, List.mem_append, List.mem_singleton,
      List.length_set] at member ⊢
    rcases member with old | rfl
    · exact fresh event old
    · exact (List.getElem?_eq_some_iff.mp ready).1

theorem Reachable.fresh (reachable : S.Reachable state pool) :
    pool.toWorld.Fresh pool.threads.length := by
  induction reachable with
  | refl => simp [World.Fresh, Pool.start]
  | tail _ step ih => exact step.fresh ih

/-- A thread has one job. -/
theorem Reachable.runs_unique (reachable : S.Reachable state pool) {thread : ℕ} {job other : J}
    (first : pool.toWorld.Runs thread job)
    (second : pool.toWorld.Runs thread other) : job = other := by
  induction reachable with
  | refl =>
    obtain ⟨event, member, -⟩ := first
    simp [Pool.start] at member
  | tail earlier step ih =>
    have fresh := Reachable.fresh earlier
    -- Only a start adds a job, and it adds it to a thread without events.
    cases step with
    | spawn _ =>
      obtain ⟨event, member, isThread, isSpawn⟩ := first
      obtain ⟨event', member', isThread', isSpawn'⟩ := second
      simp only [World.record_history, List.mem_append, List.mem_singleton] at member member'
      rcases member with old | rfl <;> rcases member' with old' | rfl
      · exact ih ⟨event, old, isThread, isSpawn⟩ ⟨event', old', isThread', isSpawn'⟩
      · have below := fresh event old
        simp only at isThread'
        omega
      · have below := fresh event' old'
        simp only at isThread
        omega
      · exact Action.spawned.inj (isSpawn.symm.trans isSpawn')
    | move _ _ =>
      exact ih (first.of_record (by simp)) (second.of_record (by simp))
    | finish _ =>
      exact ih (first.of_record (by simp)) (second.of_record (by simp))

/-! ### States along a history -/

/-- A step records one action; it changes the shared state only if the action
is a command, and then as that command may. -/
theorem Step.record (step : S.Step pool next) : ∃ thread action after,
      next.toWorld = pool.toWorld.record thread action after ∧ (after = pool.state ∨
          ∃ command response, action = .ran command response ∧
            S.exec command pool.state response after) := by
  cases step with
  | spawn _ => exact ⟨_, _, _, rfl, Or.inl rfl⟩
  | move _ effect => exact ⟨_, _, _, rfl, Or.inr ⟨_, _, rfl, effect⟩⟩
  | finish _ => exact ⟨_, _, _, rfl, Or.inl rfl⟩

/-- Every recorded command had an effect it may have. -/
theorem Reachable.exec_of_mem (reachable : S.Reachable start pool) {event : Event J C R α σ}
    (member : event ∈ pool.history) {command : C} {response : R command}
    (isRan : event.action = .ran command response) :
    S.exec command event.before response event.after := by
  induction reachable with
  | refl => simp [Pool.start] at member
  | tail _ step ih =>
    cases step with
    | spawn _ =>
      rcases List.mem_append.mp member with old | new
      · exact ih old
      · grind
    | move _ effect =>
      rcases List.mem_append.mp member with old | new
      · exact ih old
      · grind
    | finish _ =>
      rcases List.mem_append.mp member with old | new
      · exact ih old
      · grind

/-- The states of a history are ordered by `le`: within one event, from one
event to every later one, and up to the current state. -/
structure Ordered (le : σ → σ → Prop) (start : σ) (world : World J C R α σ) : Prop where
  current : le start world.state
  within : ∀ event ∈ world.history, le event.before event.after
  reached : ∀ event ∈ world.history, le event.after world.state
  pairwise : world.history.Pairwise fun earlier later => le earlier.after later.before

/-- **Monotone commands.**  If every command takes the shared state up in a
preorder, the preorder orders all states of every reachable history. -/
theorem Reachable.ordered {le : σ → σ → Prop} (refl : ∀ s, le s s)
    (trans : ∀ {a b c}, le a b → le b c → le a c) (mono : ∀ c s r s', S.exec c s r s' → le s s')
    (reachable : S.Reachable start pool) : Ordered le start pool.toWorld := by
  induction reachable with
  | refl => exact ⟨refl start, by simp [Pool.start], by simp [Pool.start],
      List.Pairwise.nil⟩
  | tail _ step ih =>
    obtain ⟨thread, action, after, recorded, effect⟩ := step.record
    rename_i pool next _
    have grows : le pool.state after := by
      grind
    rw [recorded]
    refine ⟨trans ih.current grows, ?_, ?_, ?_⟩
    · intro event member
      rcases List.mem_append.mp member with old | new
      · exact ih.within event old
      · grind
    · intro event member
      rcases List.mem_append.mp member with old | new
      · exact trans (ih.reached event old) grows
      · obtain rfl := List.mem_singleton.mp new
        exact refl _
    · refine List.pairwise_append.mpr ⟨ih.pairwise, List.pairwise_singleton _ _, ?_⟩
      grind [System.Ordered.reached]

/-- **Invariants of the shared state.**  What every command preserves holds in
every reachable pool. -/
theorem Reachable.invariant {P : σ → Prop}
    (reachable : S.Reachable start pool) (initially : P start)
    (preserves : ∀ c s r s', S.exec c s r s' → P s → P s') : P pool.state := by
  have ordered : Ordered (fun s after => P s → P after) start pool.toWorld :=
    reachable.ordered (fun _ holds => holds)
      (fun first second holds => second (first holds)) preserves
  exact ordered.current initially

/-- **Invariants that some commands break.**  If a command preserves `P` exactly in
the states that are `good` for it, `P` holds throughout a history exactly if each
command was executed in such a state. -/
theorem Reachable.invariant_iff {P : σ → Prop} {good : (c : C) → R c → σ → Prop}
    (reachable : S.Reachable start pool) (initially : P start)
    (preserves : ∀ c s r s', S.exec c s r s' → P s → (P s' ↔ good c r s)) :
    (∀ event ∈ pool.history, P event.after) ↔ ∀ event ∈ pool.history, ∀ command response,
        event.action = .ran command response →
        good command response event.before := by
  suffices both : ((∀ event ∈ pool.history, P event.after) ↔
      ∀ event ∈ pool.history, ∀ command response, event.action = .ran command response →
        good command response event.before) ∧
      ((∀ event ∈ pool.history, P event.after) → P pool.state) from both.1
  induction reachable with
  | refl => exact ⟨by simp [Pool.start], fun _ => initially⟩
  | tail _ step ih =>
    obtain ⟨same, holds⟩ := ih
    cases step with
    | spawn _ | finish _ =>
      simp only [World.record_history, World.record_state, List.mem_append,
        List.mem_singleton, or_imp, forall_and, forall_eq, reduceCtorEq,
        false_imp_iff, implies_true, and_true, ← same]
      exact ⟨⟨fun both => both.1, fun all => ⟨all, holds all⟩⟩, fun both => both.2⟩
    | move _ effect =>
      refine ⟨⟨?_, ?_⟩, ?_⟩
      · intro all event member command response isRan
        have earlier : ∀ event ∈ World.history _, P event.after :=
          fun event member => all event (List.mem_append_left _ member)
        rcases List.mem_append.mp member with old | new
        · exact same.mp earlier event old command response isRan
        · grind
      · intro good event member
        have earlier : ∀ event ∈ World.history _, P event.after :=
          same.mpr fun event member =>
            good event (List.mem_append_left _ member)
        rcases List.mem_append.mp member with old | new
        · exact earlier event old
        · grind
      · intro all
        exact all _ (List.mem_append_right _ (List.mem_singleton_self _))

/-- Reading `Ordered.pairwise` at two positions of the history. -/
theorem Ordered.at_index {le : σ → σ → Prop}
    {world : World J C R α σ} (ordered : Ordered le start world) {i j : ℕ}
    {earlier later : Event J C R α σ} (first : world.history[i]? = some earlier)
    (second : world.history[j]? = some later) (less : i < j) : le earlier.after later.before := by
  obtain ⟨firstBound, rfl⟩ := List.getElem?_eq_some_iff.mp first
  obtain ⟨secondBound, rfl⟩ := List.getElem?_eq_some_iff.mp second
  exact List.pairwise_iff_getElem.mp ordered.pairwise _ _ firstBound secondBound less

end System

/-! ## Schedules -/

/-- A scheduling decision: start a job, or let a thread take its next step. -/
inductive Choice (J : Type)
  | spawn (job : J)
  | move (thread : ℕ)

variable (S : System J C R α σ) (handler : (c : C) → σ → R c × σ)

/-- The pool after one decision, with commands answered by a handler.  A
decision naming a thread that cannot move changes nothing. -/
def choose (pool : Pool J C R α σ) : Choice J → Pool J C R α σ
  | .spawn job =>
    ⟨pool.toWorld.record pool.threads.length (.spawned job) pool.state,
      pool.threads ++ [some (S.code job)]⟩
  | .move thread =>
    match pool.threads[thread]? with
    | some (some (.call command next)) =>
      ⟨pool.toWorld.record thread (.ran command (handler command pool.state).1)
          (handler command pool.state).2,
        pool.threads.set thread (some (next (handler command pool.state).1))⟩
    | some (some (.done value)) =>
      ⟨pool.toWorld.record thread (.returned value) pool.state, pool.threads.set thread none⟩
    | _ => pool

/-- The pool after a schedule. -/
def play (schedule : List (Choice J)) (pool : Pool J C R α σ) : Pool J C R α σ :=
  schedule.foldl (choose S handler) pool

/-- Every job of a schedule is admitted when it is started. -/
def Admitted : List (Choice J) → Pool J C R α σ → Prop
  | [], _ => True
  | .spawn job :: rest, pool =>
    S.admits pool.history job ∧ Admitted rest (choose S handler pool (.spawn job))
  | .move thread :: rest, pool =>
    Admitted rest (choose S handler pool (.move thread))

variable {S handler}

/-- Letting a thread move is a step of the system, or changes nothing. -/
theorem choose_move_step (sound : ∀ c s, S.exec c s (handler c s).1 (handler c s).2)
    (pool : Pool J C R α σ) (thread : ℕ) :
    choose S handler pool (.move thread) = pool ∨
      S.Step pool (choose S handler pool (.move thread)) := by
  unfold choose
  dsimp only
  split
  · rename_i command next ready
    exact Or.inr (.move ready (sound command pool.state))
  · rename_i value ready
    exact Or.inr (.finish ready)
  · exact Or.inl rfl

/-- **Schedules are interleavings.**  A schedule whose jobs are admitted
reaches its pool. -/
theorem play_reachable {state : σ} (sound : ∀ c s, S.exec c s (handler c s).1 (handler c s).2)
    {schedule : List (Choice J)} {pool : Pool J C R α σ} (reachable : S.Reachable state pool)
    (admitted : Admitted S handler schedule pool) :
    S.Reachable state (play S handler schedule pool) := by
  induction schedule generalizing pool with
  | nil => exact reachable
  | cons choice rest ih =>
    cases choice with
    | spawn job =>
      exact ih (reachable.step (.spawn admitted.1)) admitted.2
    | move thread =>
      refine ih ?_ admitted
      grind [choose_move_step, System.Reachable.step]

/-! ## Scripts -/

/-- A scheduling decision together with what the environment puts in. -/
inductive Decision (J ι : Type)
  | spawn (job : J)
  | move (thread : ℕ) (input : ι)

section Scripts

variable {ι : Type} (S : System J C R α σ)
  (attempt : ι → (c : C) → σ → Option (R c × σ))
  (ready : List (Event J C R α σ) → J → Bool)

/-- The pool after one decision; there is none if the job may not be started, or
if the thread is blocked or has returned. -/
def carryOut (pool : Pool J C R α σ) : Decision J ι → Option (Pool J C R α σ)
  | .spawn job =>
    if ready pool.history job then
      some ⟨pool.toWorld.record pool.threads.length (.spawned job) pool.state,
        pool.threads ++ [some (S.code job)]⟩
    else none
  | .move thread input =>
    match pool.threads[thread]? with
    | some (some (.call command next)) =>
      (attempt input command pool.state).map fun (response, after) =>
        ⟨pool.toWorld.record thread (.ran command response) after,
          pool.threads.set thread (some (next response))⟩
    | some (some (.done value)) =>
      some ⟨pool.toWorld.record thread (.returned value) pool.state, pool.threads.set thread none⟩
    | _ => none

/-- The pool after a script. -/
def perform : List (Decision J ι) → Pool J C R α σ → Option (Pool J C R α σ)
  | [], pool => some pool
  | decision :: rest, pool =>
    (carryOut S attempt ready pool decision).bind (perform rest)

variable {S attempt ready}

variable {pool last : Pool J C R α σ} {script : List (Decision J ι)}

section

variable (sound : ∀ i c s r s', attempt i c s = some (r, s') → S.exec c s r s')
  (admits : ∀ history job, ready history job = true → S.admits history job)

include sound admits

theorem carryOut_step {next : Pool J C R α σ} {decision : Decision J ι}
    (carried : carryOut S attempt ready pool decision = some next) : S.Step pool next := by
  cases decision with
  | spawn job =>
    simp only [carryOut] at carried
    split at carried
    · rename_i isReady
      cases carried
      exact .spawn (admits _ _ isReady)
    · cases carried
  | move thread input =>
    simp only [carryOut] at carried
    split at carried
    · rename_i command following found
      simp only [Option.map_eq_some_iff] at carried
      obtain ⟨⟨response, after⟩, attempted, same⟩ := carried
      cases same
      exact .move found (sound _ _ _ _ _ attempted)
    · rename_i value found
      cases carried
      exact .finish found
    · cases carried

/-- **Scripts are interleavings.** -/
theorem perform_reachable {state : σ} (reachable : S.Reachable state pool)
    (performed : perform S attempt ready script pool = some last) : S.Reachable state last := by
  induction script generalizing pool with
  | nil =>
    cases performed
    exact reachable
  | cons decision rest ih =>
    grind [Option.bind_eq_some_iff, System.Reachable.step, carryOut_step, perform]

end

theorem perform_append (first second : List (Decision J ι)) (pool : Pool J C R α σ) :
    perform S attempt ready (first ++ second) pool = (perform S attempt ready first pool).bind
        (perform S attempt ready second) := by
  induction first generalizing pool with
  | nil => rfl
  | cons decision rest ih =>
    rw [List.cons_append, perform, perform, Option.bind_assoc]
    exact congrArg _ (funext fun next => ih next)

/-- A script only adds to the history. -/
theorem perform_history (performed : perform S attempt ready script pool = some last) :
    pool.history <+: last.history := by
  induction script generalizing pool with
  | nil =>
    cases performed
    exact List.prefix_rfl
  | cons decision rest ih =>
    simp only [perform, Option.bind_eq_some_iff] at performed
    obtain ⟨next, carried, performed⟩ := performed
    refine List.IsPrefix.trans ?_ (ih performed)
    cases decision with
    | spawn job =>
      simp only [carryOut] at carried
      split at carried <;> cases carried
      exact List.prefix_append _ _
    | move thread input =>
      simp only [carryOut] at carried
      split at carried
      · simp only [Option.map_eq_some_iff] at carried
        obtain ⟨result, -, same⟩ := carried
        cases same
        exact List.prefix_append _ _
      · cases carried
        exact List.prefix_append _ _
      · cases carried

/-- A job that a script starts is run by the next thread. -/
theorem perform_runs {before after : List (Decision J ι)} {job : J}
    (performed : perform S attempt ready (before ++ .spawn job :: after) pool = some last) :
    ∃ middle, perform S attempt ready before pool = some middle ∧
      last.toWorld.Runs middle.threads.length job := by
  rw [perform_append, Option.bind_eq_some_iff] at performed
  obtain ⟨middle, first, performed⟩ := performed
  simp only [perform, Option.bind_eq_some_iff] at performed
  obtain ⟨next, carried, performed⟩ := performed
  simp only [carryOut] at carried
  split at carried <;> cases carried
  exact ⟨middle, first, (World.runs_record_spawned _ _ _ job).mono (perform_history performed)⟩

end Scripts

end Concurrency
