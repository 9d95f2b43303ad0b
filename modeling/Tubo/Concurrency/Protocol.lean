import Tubo.Concurrency.Threads

/-!
# Protocols of threads

A protocol is an automaton that reads the exchanges of one thread: its state says
which commands the thread may issue next, and it expects certain responses.  A
program obeys a protocol if it does so whatever the expected responses are.

In a pool of programs that obey a protocol, every thread has a protocol state,
and an invariant of the system may relate the shared state to the protocol states
of all threads: who holds which token, how many threads are inside a section,
how far the one thread in charge has come.  `System.Reachable.protocol` is the
induction that such an invariant needs, one obligation for each command.

* `Program.Obeys` — a program follows a protocol in every environment;
* `Protocol.stateOf` — the protocol state of a thread after a history;
* `System.Reachable.obeyed` — threads of a pool are where their programs say;
* `System.Reachable.protocol` — invariants over shared state and protocol
  states;
* `System.Reachable.protocol_meets` — the same in the runs whose steps all meet a
  condition;
* `System.Reachable.lasting` — facts about one thread that its exchanges keep;
* `System.Reachable.at_event` — everything above holds at each event.
-/

namespace Concurrency

variable {J C : Type} {R : C → Type} {α β σ : Type}

/-- An automaton over the exchanges of a thread. -/
structure Protocol (C : Type) (R : C → Type) where
  State : Type
  permits : State → C → Prop
  expects : (c : C) → R c → Prop
  next : State → (c : C) → R c → State

namespace Program

variable (P : Protocol C R)

/-- Whatever expected answer the environment gives, each command is permitted by
the protocol state it is issued in, and a returned value satisfies `post` of the
last state. -/
def Obeys (post : P.State → α → Prop) : Program C R α → P.State → Prop
  | .done value, q => post q value
  | .call command next, q =>
    P.permits q command ∧ ∀ response, P.expects command response →
      (next response).Obeys post (P.next q command response)

variable {P}

theorem Obeys.bind {post : P.State → β → Prop} {program : Program C R α}
    {after : α → Program C R β} {q : P.State}
    (first : program.Obeys P (fun q value => (after value).Obeys P post q) q) :
    (program.bind after).Obeys P post q := by
  induction program generalizing q with
  | done value => exact first
  | call command next ih =>
    exact ⟨first.1, fun response expected =>
      ih response (first.2 response expected)⟩

theorem Obeys.mono {post weaker : P.State → α → Prop}
    {program : Program C R α} {q : P.State} (obeys : program.Obeys P post q)
    (weaken : ∀ q value, post q value → weaker q value) : program.Obeys P weaker q := by
  induction program generalizing q with
  | done value => exact weaken _ _ obeys
  | call command next ih =>
    exact ⟨obeys.1, fun response expected =>
      ih response (obeys.2 response expected)⟩

end Program

namespace Protocol

variable (P : Protocol C R) (init : J → P.State)

/-- The protocol state of a thread after an event. -/
def after (thread : ℕ) (q : P.State) (event : Event J C R α σ) : P.State :=
  if event.thread = thread then
    match event.action with
    | .spawned job => init job
    | .ran command response => P.next q command response
    | .returned _ => q
  else q

/-- The protocol state of a thread after some events; a thread that has not been
started is in the state `idle`. -/
def stateOf (idle : P.State) (thread : ℕ) (events : List (Event J C R α σ)) : P.State :=
  events.foldl (P.after init thread) idle

variable {P init} {idle : P.State} {world : World J C R α σ}

theorem stateOf_record {thread other : ℕ} {action : Action J C R α} {next : σ} :
    P.stateOf init idle thread (world.record other action next).history =
      P.after init thread (P.stateOf init idle thread world.history)
        ⟨other, action, world.state, next⟩ := by
  rw [World.record_history, stateOf, List.foldl_append]
  rfl

/-- An event changes the protocol state of its own thread only. -/
theorem stateOf_update {thread : ℕ} {action : Action J C R α} {next : σ} :
    (fun t => P.stateOf init idle t (world.record thread action next).history) =
      Function.update (fun t => P.stateOf init idle t world.history) thread
        (P.after init thread (P.stateOf init idle thread world.history)
          ⟨thread, action, world.state, next⟩) := by
  grind [Protocol.stateOf_record, Protocol.after]

/-- A thread without events is idle. -/
theorem stateOf_fresh {thread : ℕ} (fresh : world.Fresh thread) :
    P.stateOf init idle thread world.history = idle := by
  have untouched : ∀ event ∈ world.history, event.thread ≠ thread :=
    fun event member => Nat.ne_of_lt (fresh event member)
  revert untouched
  rw [stateOf]
  induction world.history with
  | nil => exact fun _ => rfl
  | cons event rest ih =>
    grind [Protocol.after]

/-- An event meets a condition on commands, in a protocol state of its thread. -/
def Met (condition : P.State → (c : C) → R c → σ → Prop) (q : P.State)
    (event : Event J C R α σ) : Prop :=
  match event.action with
  | .ran command response => condition q command response event.before
  | _ => True

instance (condition : P.State → (c : C) → R c → σ → Prop)
    [∀ q c r s, Decidable (condition q c r s)] (q : P.State)
    (event : Event J C R α σ) : Decidable (Met condition q event) := by
  unfold Met
  split <;> infer_instance

variable (P init) in
/-- Every command of a history met a condition on the protocol state of its thread
and on the shared state. -/
def Meets (idle : P.State) (condition : P.State → (c : C) → R c → σ → Prop)
    (events : List (Event J C R α σ)) : Prop :=
  ∀ k (below : k < events.length),
    Met condition (P.stateOf init idle events[k].thread (events.take k)) events[k]

instance decidableMeets (condition : P.State → (c : C) → R c → σ → Prop)
    [∀ q c r s, Decidable (condition q c r s)] (events : List (Event J C R α σ)) :
    Decidable (P.Meets init idle condition events) :=
  Nat.decidableBallLT _ _

variable {condition : P.State → (c : C) → R c → σ → Prop} {thread : ℕ}
  {action : Action J C R α} {next : σ}

theorem Meets.of_record
    (meets : P.Meets init idle condition (world.record thread action next).history) :
    P.Meets init idle condition world.history := by
  intro k below
  have later : k < (world.record thread action next).history.length := by
    grind [World.record_history]
  have met := meets k later
  grind [World.record_history]

theorem Meets.last {command : C} {response : R command} (meets : P.Meets init idle condition
      (world.record thread (.ran command response) next).history) :
    condition (P.stateOf init idle thread world.history) command response
      world.state := by
  have met := meets world.history.length (by simp [World.record_history])
  simpa [World.record_history, Met] using met

end Protocol

namespace System

variable {S : System J C R α σ} {P : Protocol C R} {init : J → P.State}
  {post : J → P.State → α → Prop} {idle : P.State}

variable (P init post idle) in
/-- Every thread of a pool is where its program says, and a thread that has
returned met its postcondition. -/
structure Obeyed (pool : Pool J C R α σ) : Prop where
  fresh : pool.toWorld.Fresh pool.threads.length
  threads : ∀ (thread : ℕ) (program : Program C R α), pool.threads[thread]? = some (some program) →
    ∃ job, pool.toWorld.Runs thread job ∧
      program.Obeys P (post job) (P.stateOf init idle thread pool.history)
  returned : ∀ event ∈ pool.history, ∀ value, event.action = .returned value →
    pool.threads[event.thread]? = some none ∧ ∃ job, pool.toWorld.Runs event.thread job ∧
        post job (P.stateOf init idle event.thread pool.history) value

variable {pool : Pool J C R α σ} {state : σ}

/-- The threads that do not act stay where they are. -/
theorem Obeyed.record (obeyed : Obeyed P init post idle pool) {thread : ℕ}
    {action : Action J C R α} {after : σ} {threads : List (Option (Program C R α))}
    (active : pool.threads[thread]? ≠ some none) (bound : thread < threads.length)
    (longer : pool.threads.length ≤ threads.length) (others : ∀ other, other ≠ thread →
      threads[other]? = pool.threads[other]?)
    (own : ∀ program, threads[thread]? = some (some program) →
      ∃ job, (pool.toWorld.record thread action after).Runs thread job ∧ program.Obeys P (post job)
          (P.stateOf init idle thread (pool.toWorld.record thread action after).history))
    (result : ∀ value, action = .returned value → threads[thread]? = some none ∧
        ∃ job, pool.toWorld.Runs thread job ∧
          post job (P.stateOf init idle thread pool.history) value) :
    Obeyed P init post idle ⟨pool.toWorld.record thread action after, threads⟩ := by
  have grows : pool.history <+: (pool.toWorld.record thread action after).history :=
    List.prefix_append _ _
  have elsewhere : ∀ other, other ≠ thread → P.stateOf init idle other
          (pool.toWorld.record thread action after).history =
        P.stateOf init idle other pool.history := by
    grind [Protocol.stateOf_record, Protocol.after]
  refine ⟨?_, ?_, ?_⟩
  · intro event member
    rcases List.mem_append.mp member with old | new
    · exact Nat.lt_of_lt_of_le (obeyed.fresh event old) longer
    · grind
  · intro other program found
    by_cases same : other = thread
    · subst same
      exact own program found
    · rw [others other same] at found
      obtain ⟨job, runs, obeys⟩ := obeyed.threads other program found
      grind [World.Runs.mono]
  · intro event member value isReturn
    rcases List.mem_append.mp member with old | new
    · obtain ⟨gone, job, runs, holds⟩ :=
        obeyed.returned event old value isReturn
      grind [World.Runs.mono]
    · obtain rfl := List.mem_singleton.mp new
      grind [World.Runs.mono, Protocol.stateOf_record, Protocol.after]

theorem Obeyed.step (expected : ∀ c s r s', S.exec c s r s' → P.expects c r)
    (obeys : ∀ job, (S.code job).Obeys P (post job) (init job))
    {next : Pool J C R α σ} (obeyed : Obeyed P init post idle pool)
    (step : S.Step pool next) : Obeyed P init post idle next := by
  cases step with
  | @spawn job admitted =>
    refine obeyed.record (by simp) (by simp) (by simp) ?_ ?_ (by simp)
    · grind
    · intro program found
      have started : program = S.code job := by simpa using found.symm
      rw [started, Protocol.stateOf_record, Protocol.after, if_pos rfl]
      exact ⟨job, pool.toWorld.runs_record_spawned _ _ _, obeys job⟩
  | move ready effect =>
    rename_i thread command following response after
    obtain ⟨job, runs, holds⟩ := obeyed.threads thread _ ready
    have bound := (List.getElem?_eq_some_iff.mp ready).1
    refine obeyed.record (by simp [ready]) (by simpa using bound) (by simp)
      (fun other different => List.getElem?_set_ne (Ne.symm different)) ?_
      (by simp)
    intro program found
    have continued : program = following response := by
      simpa [List.getElem?_set_self bound] using found.symm
    rw [continued, Protocol.stateOf_record, Protocol.after, if_pos rfl]
    exact ⟨job, runs.mono (List.prefix_append _ _), holds.2 response (expected _ _ _ _ effect)⟩
  | finish ready =>
    rename_i thread value
    obtain ⟨job, runs, holds⟩ := obeyed.threads thread _ ready
    have bound := (List.getElem?_eq_some_iff.mp ready).1
    refine obeyed.record (by simp [ready]) (by simpa using bound) (by simp)
      (fun other different => List.getElem?_set_ne (Ne.symm different)) ?_ ?_
    · grind
    · intro result isReturn
      cases isReturn
      exact ⟨List.getElem?_set_self bound, job, runs, holds⟩

section

variable (reachable : S.Reachable state pool)
  (expected : ∀ c s r s', S.exec c s r s' → P.expects c r)
  (obeys : ∀ job, (S.code job).Obeys P (post job) (init job))

include reachable expected obeys

/-- **Threads follow their protocol**, in every interleaving. -/
theorem Reachable.obeyed
    : Obeyed P init post idle pool := by
  induction reachable with
  | refl => refine ⟨?_, ?_, ?_⟩ <;> simp [World.Fresh, Pool.start]
  | tail _ step ih =>
    exact ih.step expected obeys step

/-- **Invariants over worlds and protocol states.**  It is enough that the start
and the end of a thread and every permitted command preserve the invariant. -/
theorem Reachable.protocol_world
    {I : World J C R α σ → (ℕ → P.State) → Prop} (start : I ⟨state, []⟩ fun _ => idle)
    (spawn : ∀ world q thread job, q thread = idle → I world q →
      I (world.record thread (.spawned job) world.state) (Function.update q thread (init job)))
    (step : ∀ world q thread command response after, P.permits (q thread) command →
      S.exec command world.state response after → I world q →
      I (world.record thread (.ran command response) after)
        (Function.update q thread (P.next (q thread) command response)))
    (finish : ∀ world q thread value, I world q →
      I (world.record thread (.returned value) world.state) q) :
    I pool.toWorld fun t => P.stateOf init idle t pool.history := by
  induction reachable with
  | refl => exact start
  | tail earlier moved ih =>
    have obeyed : Obeyed P init post idle _ :=
      Reachable.obeyed earlier expected obeys
    cases moved with
    | spawn admitted =>
      rw [Protocol.stateOf_update, Protocol.after, if_pos rfl]
      exact spawn _ _ _ _ (Protocol.stateOf_fresh obeyed.fresh)
        ih
    | move ready effect =>
      obtain ⟨job, -, holds⟩ := obeyed.threads _ _ ready
      rw [Protocol.stateOf_update, Protocol.after, if_pos rfl]
      exact step _ _ _ _ _ _ holds.1 effect ih
    | finish ready =>
      rw [Protocol.stateOf_update, Protocol.after, if_pos rfl]
      grind [Function.update_eq_self]

/-- **Invariants over shared state and protocol states.** -/
theorem Reachable.protocol {I : σ → (ℕ → P.State) → Prop}
    (start : I state fun _ => idle) (spawn : ∀ s q thread job, q thread = idle → I s q →
      I s (Function.update q thread (init job)))
    (step : ∀ s q thread command response s',
      P.permits (q thread) command → S.exec command s response s' →
      I s q → I s' (Function.update q thread (P.next (q thread) command response))) :
    I pool.state fun t => P.stateOf init idle t pool.history :=
  reachable.protocol_world (I := fun world q => I world.state q)
    expected obeys start (fun world => spawn world.state)
    (fun world => step world.state) fun _ _ _ _ holds => holds

/-- **Invariants of the runs that meet a condition.** -/
theorem Reachable.protocol_meets {condition : P.State → (c : C) → R c → σ → Prop}
    (meets : P.Meets init idle condition pool.history) {I : σ → (ℕ → P.State) → Prop}
    (start : I state fun _ => idle) (spawn : ∀ s q thread job, q thread = idle → I s q →
      I s (Function.update q thread (init job)))
    (step : ∀ s q thread command response s',
      P.permits (q thread) command → S.exec command s response s' →
      condition (q thread) command response s → I s q → I s'
        (Function.update q thread (P.next (q thread) command response))) :
    I pool.state fun t => P.stateOf init idle t pool.history := by
  -- The rule for worlds forgets where the protocol states come from, but the
  -- condition is about the states of the history.
  let Traced (world : World J C R α σ) (q : ℕ → P.State) : Prop :=
    (q = fun t => P.stateOf init idle t world.history) ∧
      (P.Meets init idle condition world.history → I world.state q)
  suffices held : Traced pool.toWorld fun t => P.stateOf init idle t pool.history from held.2 meets
  refine reachable.protocol_world (I := Traced) expected obeys ⟨rfl, fun _ => start⟩ ?_ ?_ ?_
  · rintro world q thread job isIdle ⟨rfl, invariant⟩
    refine ⟨?_, fun meets => spawn _ _ _ _ isIdle (invariant meets.of_record)⟩
    rw [Protocol.stateOf_update, Protocol.after, if_pos rfl]
  · rintro world q thread command response after permitted effect ⟨rfl, invariant⟩
    refine ⟨?_, fun meets => step _ _ _ _ _ _ permitted effect meets.last
      (invariant meets.of_record)⟩
    rw [Protocol.stateOf_update, Protocol.after, if_pos rfl]
  · rintro world q thread value ⟨rfl, invariant⟩
    refine ⟨?_, fun meets => invariant meets.of_record⟩
    rw [Protocol.stateOf_update, Protocol.after, if_pos rfl]
    exact (Function.update_eq_self _ fun t => P.stateOf init idle t world.history).symm

end

/-- **Lasting facts.**  What holds of the first protocol state of a job, and every
exchange keeps, holds of each thread with that job. -/
theorem Reachable.lasting
    (reachable : S.Reachable state pool) {K : J → P.State → Prop} (start : ∀ job, K job (init job))
    (keeps : ∀ job q c r, K job q → K job (P.next q c r)) {thread : ℕ} {job : J}
    (runs : pool.toWorld.Runs thread job) : K job (P.stateOf init idle thread pool.history) := by
  induction reachable with
  | refl =>
    obtain ⟨event, member, -⟩ := runs
    simp [Pool.start] at member
  | tail earlier moved ih =>
    have fresh := Reachable.fresh earlier
    cases moved with
    | spawn admitted =>
      obtain ⟨event, member, sameThread, isSpawn⟩ := runs
      rw [Protocol.stateOf_record, Protocol.after]
      rcases List.mem_append.mp member with old | new
      · have below := fresh event old
        rw [if_neg (by simp only; omega)]
        exact ih ⟨event, old, sameThread, isSpawn⟩
      · grind
    | move ready effect =>
      grind [World.Runs.of_record, Protocol.stateOf_record, Protocol.after]
    | finish ready =>
      grind [World.Runs.of_record, Protocol.stateOf_record, Protocol.after]

/-- **Events.**  Each event happened in a reachable pool with the history before
it, and a command was the next one of its thread. -/
theorem Reachable.at_event (reachable : S.Reachable state pool) {k : ℕ} {event : Event J C R α σ}
    (found : pool.history[k]? = some event) :
    ∃ earlier, S.Reachable state earlier ∧ earlier.state = event.before ∧
      earlier.history = pool.history.take k ∧
      ∀ command response, event.action = .ran command response →
        S.exec command event.before response event.after ∧
        ∃ next, earlier.threads[event.thread]? = some (some (.call command next)) := by
  induction reachable with
  | refl => simp [Pool.start] at found
  | tail earlier moved ih =>
    rename_i before after
    cases moved with
    | spawn admitted =>
      rcases getElem?_record found with ⟨old, sameTake⟩ | ⟨rfl, wholeTake⟩
      · grind
      · exact ⟨before, earlier, rfl, wholeTake.symm, by simp⟩
    | move ready effect =>
      rcases getElem?_record found with ⟨old, sameTake⟩ | ⟨rfl, wholeTake⟩
      · grind
      · refine ⟨before, earlier, rfl, wholeTake.symm, ?_⟩
        grind
    | finish ready =>
      rcases getElem?_record found with ⟨old, sameTake⟩ | ⟨rfl, wholeTake⟩
      · grind
      · exact ⟨before, earlier, rfl, wholeTake.symm, by simp⟩

end System

end Concurrency
