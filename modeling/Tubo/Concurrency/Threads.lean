import Tubo.Concurrency.Pool

/-!
# Threads of a pool

What a single thread does in a pool is an execution of its program in *some*
environment, so everything `Program.Always` says about a program holds of its
thread in every interleaving.  `System.Reachable.permitted` and
`System.Reachable.returned_post` state this: no reasoning about interference is
needed for facts about the exchanges of one thread.

The other half are facts about the shared state between two events:

* `System.Reachable.admitted` — a job was admitted when it was started;
* `System.Reachable.until_event` — a property that every event in between
  preserves holds up to the next event of interest.
-/

namespace Concurrency

variable {J C : Type} {R : C → Type} {α σ : Type}

/-! ## The exchanges of a thread -/

/-- The exchange of an event, if it is a command of this thread. -/
def Event.exchange? (thread : ℕ) (event : Event J C R α σ) : Option (Exchange C R) :=
  if event.thread = thread then
    match event.action with
    | .ran command response => some ⟨command, response⟩
    | _ => none
  else none

/-- The exchanges of a thread among some events, in order. -/
def exchangesOf (thread : ℕ) (events : List (Event J C R α σ)) : List (Exchange C R) :=
  events.filterMap (Event.exchange? thread)

variable {thread : ℕ} {event : Event J C R α σ} {exchange : Exchange C R}
  {events : List (Event J C R α σ)}

theorem Event.exchange?_eq_some : event.exchange? thread = some exchange ↔ event.thread = thread ∧
        event.action = .ran exchange.command exchange.response := by
  unfold Event.exchange?
  constructor
  · intro found
    grind
  · rintro ⟨sameThread, isRan⟩
    rw [if_pos sameThread, isRan]

@[simp]
theorem exchangesOf_nil (thread : ℕ) : exchangesOf thread ([] : List (Event J C R α σ)) = [] := rfl

theorem exchangesOf_append (thread : ℕ) (first second : List (Event J C R α σ)) :
    exchangesOf thread (first ++ second) = exchangesOf thread first ++ exchangesOf thread second :=
  List.filterMap_append

/-- Events of other threads add nothing. -/
theorem exchangesOf_other
    (different : event.thread ≠ thread) : exchangesOf thread [event] = [] := by
  simp [exchangesOf, Event.exchange?, different]

theorem mem_exchangesOf :
    exchange ∈ exchangesOf thread events ↔ ∃ event ∈ events, event.thread = thread ∧
        event.action = .ran exchange.command exchange.response := by
  rw [exchangesOf, List.mem_filterMap]
  constructor
  · rintro ⟨event, member, found⟩
    exact ⟨event, member, Event.exchange?_eq_some.mp found⟩
  · rintro ⟨event, member, isExchange⟩
    exact ⟨event, member, Event.exchange?_eq_some.mpr isExchange⟩

/-- The exchange of an event. -/
theorem mem_exchangesOf_of_ran {command : C} {response : R command}
    (member : event ∈ events) (isRan : event.action = .ran command response) :
    ⟨command, response⟩ ∈ exchangesOf event.thread events :=
  mem_exchangesOf.mpr ⟨event, member, rfl, isRan⟩

/-- **Exchanges are in the order of their events.**  Where the exchanges of a thread are
split, the events are. -/
theorem exchangesOf_split {before after : List (Exchange C R)}
    (split : exchangesOf thread events = before ++ exchange :: after) :
    ∃ earlier event later, events = earlier ++ event :: later ∧ event.thread = thread ∧
      event.action = .ran exchange.command exchange.response ∧
      exchangesOf thread earlier = before ∧ exchangesOf thread later = after := by
  obtain ⟨first, second, rfl, isBefore, rest⟩ := List.filterMap_eq_append_iff.mp split
  obtain ⟨skipped, event, later, rfl, skips, isExchange, isAfter⟩ :=
    List.filterMap_eq_cons_iff.mp rest
  obtain ⟨isThread, isRan⟩ := Event.exchange?_eq_some.mp isExchange
  refine ⟨first ++ skipped, event, later, (List.append_assoc _ _ _).symm, isThread, isRan,
    ?_, isAfter⟩
  have nothing : exchangesOf thread skipped = [] := List.filterMap_eq_nil_iff.mpr skips
  rw [exchangesOf_append, nothing, List.append_nil]
  exact isBefore

/-- An event before a position is at some earlier one. -/
theorem mem_take_iff {β : Type} {events : List β} {k : ℕ} {event : β} :
    event ∈ events.take k ↔ ∃ i, i < k ∧ events[i]? = some event := by
  constructor
  · intro member
    obtain ⟨i, found⟩ := List.mem_iff_getElem?.mp member
    grind
  · rintro ⟨i, below, found⟩
    rw [← List.getElem?_take_of_lt below] at found
    exact List.mem_of_getElem? found

/-- An exchange of a thread before a position happened at some earlier one. -/
theorem mem_exchangesOf_take {k : ℕ} {command : C} {response : R command} :
    ⟨command, response⟩ ∈ exchangesOf thread (events.take k) ↔
      ∃ i event, i < k ∧ events[i]? = some event ∧ event.thread = thread ∧
        event.action = .ran command response := by
  rw [mem_exchangesOf]
  constructor
  · rintro ⟨event, member, isExchange⟩
    obtain ⟨i, below, found⟩ := mem_take_iff.mp member
    exact ⟨i, event, below, found, isExchange⟩
  · rintro ⟨i, event, below, found, isExchange⟩
    exact ⟨event, mem_take_iff.mpr ⟨i, below, found⟩, isExchange⟩

/-- A thread without events has no exchanges. -/
theorem World.Fresh.exchangesOf_eq_nil {world : World J C R α σ}
    (fresh : world.Fresh thread) : exchangesOf thread world.history = [] := by
  rw [exchangesOf, List.filterMap_eq_nil_iff]
  intro event member
  rw [Event.exchange?, if_neg (Nat.ne_of_lt (fresh event member))]

namespace System

variable {S : System J C R α σ}

/-! ## Programs in a pool -/

section Follows

variable {allowed : J → List (Exchange C R) → C → Prop}
  {post : J → List (Exchange C R) → α → Prop}

variable (allowed post) in
/-- Every thread of a pool has behaved as its program does in every
environment, and will go on doing so. -/
structure Follows (pool : Pool J C R α σ) : Prop where
  fresh : pool.toWorld.Fresh pool.threads.length
  threads : ∀ (thread : ℕ) (program : Program C R α), pool.threads[thread]? = some (some program) →
    ∃ job, pool.toWorld.Runs thread job ∧ program.Always (allowed job) (post job)
        (exchangesOf thread pool.history)
  commands : ∀ (k : ℕ) (event : Event J C R α σ) (command : C)
    (response : R command), pool.history[k]? = some event →
    event.action = .ran command response →
    ∃ job, pool.toWorld.Runs event.thread job ∧
      allowed job (exchangesOf event.thread (pool.history.take k)) command
  returned : ∀ event ∈ pool.history, ∀ value, event.action = .returned value →
    pool.threads[event.thread]? = some none ∧ ∃ job, pool.toWorld.Runs event.thread job ∧
        post job (exchangesOf event.thread pool.history) value

variable {event : Event J C R α σ} {pool : Pool J C R α σ} {state : σ}

/-- A new event leaves the earlier positions of the history alone. -/
theorem getElem?_record {world : World J C R α σ} {thread : ℕ}
    {action : Action J C R α} {after : σ} {k : ℕ}
    (found : (world.record thread action after).history[k]? = some event) :
    (world.history[k]? = some event ∧ (world.record thread action after).history.take k =
          world.history.take k) ∨
      (event = ⟨thread, action, world.state, after⟩ ∧
        (world.record thread action after).history.take k = world.history) := by
  rw [World.record_history] at found ⊢
  grind

/-- The threads that do not act keep following their programs. -/
theorem Follows.record (follows : Follows allowed post pool) {thread : ℕ}
    {action : Action J C R α} {after : σ} {threads : List (Option (Program C R α))}
    (active : pool.threads[thread]? ≠ some none) (bound : thread < threads.length)
    (longer : pool.threads.length ≤ threads.length) (others : ∀ other, other ≠ thread →
      threads[other]? = pool.threads[other]?)
    (own : ∀ program, threads[thread]? = some (some program) →
      ∃ job, (pool.toWorld.record thread action after).Runs thread job ∧
        program.Always (allowed job) (post job) (exchangesOf thread
            (pool.toWorld.record thread action after).history))
    (command : ∀ command response, action = .ran command response →
      ∃ job, pool.toWorld.Runs thread job ∧ allowed job (exchangesOf thread pool.history) command)
    (result : ∀ value, action = .returned value → threads[thread]? = some none ∧
        ∃ job, pool.toWorld.Runs thread job ∧ post job (exchangesOf thread pool.history) value) :
    Follows allowed post ⟨pool.toWorld.record thread action after, threads⟩ := by
  have grows : pool.history <+: (pool.toWorld.record thread action after).history :=
    List.prefix_append _ _
  refine ⟨?_, ?_, ?_, ?_⟩
  · intro event member
    rcases List.mem_append.mp member with old | new
    · exact Nat.lt_of_lt_of_le (follows.fresh event old) longer
    · grind
  · intro other program found
    by_cases same : other = thread
    · subst same
      exact own program found
    · rw [others other same] at found
      obtain ⟨job, runs, always⟩ := follows.threads other program found
      grind [World.Runs.mono, World.record_history, exchangesOf_append, exchangesOf_other]
  · intro k event asked response found isRan
    rcases getElem?_record found with ⟨old, sameTake⟩ | ⟨rfl, wholeTake⟩
    · obtain ⟨job, runs, holds⟩ :=
        follows.commands k event asked response old isRan
      grind [World.Runs.mono]
    · obtain ⟨job, runs, holds⟩ := command asked response isRan
      grind [World.Runs.mono]
  · intro event member value isReturn
    rcases List.mem_append.mp member with old | new
    · obtain ⟨idle, job, runs, holds⟩ :=
        follows.returned event old value isReturn
      grind [World.Runs.mono, World.record_history, exchangesOf_append, exchangesOf_other]
    · obtain rfl := List.mem_singleton.mp new
      obtain ⟨idle, job, runs, holds⟩ := result value isReturn
      obtain rfl : action = .returned value := isReturn
      refine ⟨idle, job, runs.mono grows, ?_⟩
      simpa [exchangesOf, Event.exchange?] using holds

theorem Follows.step (always : ∀ job, (S.code job).Always (allowed job) (post job) [])
    {next : Pool J C R α σ} (follows : Follows allowed post pool)
    (step : S.Step pool next) : Follows allowed post next := by
  cases step with
  | @spawn job admitted =>
    refine follows.record (by simp) (by simp) (by simp) ?_ ?_ (by simp) (by simp)
    · grind
    · intro program found
      have started : program = S.code job := by simpa using found.symm
      rw [started, World.record_history, exchangesOf_append, follows.fresh.exchangesOf_eq_nil]
      refine ⟨job, pool.toWorld.runs_record_spawned _ _ _, ?_⟩
      simpa [exchangesOf, Event.exchange?] using always job
  | move ready effect =>
    rename_i thread command following response after
    obtain ⟨job, runs, holds⟩ := follows.threads thread _ ready
    have bound := (List.getElem?_eq_some_iff.mp ready).1
    refine follows.record (by simp [ready]) (by simpa using bound) (by simp)
      (fun other different => List.getElem?_set_ne (Ne.symm different)) ?_ ?_
      (by simp)
    · intro program found
      have continued : program = following response := by
        simpa [List.getElem?_set_self bound] using found.symm
      rw [continued, World.record_history, exchangesOf_append]
      refine ⟨job, runs.mono (List.prefix_append _ _), ?_⟩
      simpa [exchangesOf, Event.exchange?] using holds.2 response
    · intro asked answered isRan
      cases isRan
      exact ⟨job, runs, holds.1⟩
  | finish ready =>
    rename_i thread value
    obtain ⟨job, runs, holds⟩ := follows.threads thread _ ready
    have bound := (List.getElem?_eq_some_iff.mp ready).1
    refine follows.record (by simp [ready]) (by simpa using bound) (by simp)
      (fun other different => List.getElem?_set_ne (Ne.symm different)) ?_
      (by simp) ?_
    · grind
    · intro result isReturn
      cases isReturn
      exact ⟨List.getElem?_set_self bound, job, runs, holds⟩

section

variable (reachable : S.Reachable state pool)
  (always : ∀ job, (S.code job).Always (allowed job) (post job) [])

include reachable always

theorem Reachable.follows
    : Follows allowed post pool := by
  induction reachable with
  | refl =>
    refine ⟨?_, ?_, ?_, ?_⟩ <;> simp [World.Fresh, Pool.start]
  | tail _ step ih =>
    exact ih.step always step

/-- **Commands.**  In every interleaving, each command of a thread is permitted
by the exchanges of the same thread before it. -/
theorem Reachable.permitted {k : ℕ} {command : C} {response : R command}
    (found : pool.history[k]? = some event) (isRan : event.action = .ran command response) :
    ∃ job, pool.toWorld.Runs event.thread job ∧
      allowed job (exchangesOf event.thread (pool.history.take k)) command :=
  (reachable.follows always).commands k event command response found isRan

/-- **Results.**  In every interleaving, each returned value satisfies the
postcondition of the exchanges of its thread. -/
theorem Reachable.returned_post
    {value : α} (member : event ∈ pool.history) (isReturn : event.action = .returned value) :
    ∃ job, pool.toWorld.Runs event.thread job ∧
      post job (exchangesOf event.thread pool.history) value :=
  ((reachable.follows always).returned event member value isReturn).2

end

end Follows

variable {state : σ} {pool : Pool J C R α σ} {thread : ℕ}

section

variable (reachable : S.Reachable state pool)

include reachable

/-- Every exchange of a thread took effect at some event. -/
theorem Reachable.exec_of_exchange {exchange : Exchange C R}
    (member : exchange ∈ exchangesOf thread pool.history) :
    ∃ event ∈ pool.history, event.thread = thread ∧
      event.action = .ran exchange.command exchange.response ∧
      S.exec exchange.command event.before exchange.response event.after := by
  obtain ⟨event, eventMember, sameThread, isRan⟩ := mem_exchangesOf.mp member
  exact ⟨event, eventMember, sameThread, isRan, reachable.exec_of_mem eventMember isRan⟩

/-! ## The shared state between two events -/

/-- A job was admitted when it was started. -/
theorem Reachable.admitted {job : J} (runs : pool.toWorld.Runs thread job) :
    ∃ earlier, earlier <+: pool.history ∧ S.admits earlier job := by
  induction reachable with
  | refl =>
    obtain ⟨event, member, -⟩ := runs
    simp [Pool.start] at member
  | tail _ step ih =>
    cases step with
    | spawn admitted =>
      obtain ⟨event, member, sameThread, isSpawn⟩ := runs
      rcases List.mem_append.mp member with old | new
      · obtain ⟨earlier, isPrefix, holds⟩ :=
          ih ⟨event, old, sameThread, isSpawn⟩
        exact ⟨earlier, isPrefix.trans (List.prefix_append _ _), holds⟩
      · obtain rfl := List.mem_singleton.mp new
        cases isSpawn
        exact ⟨_, List.prefix_append _ _, admitted⟩
    | move _ _ =>
      obtain ⟨earlier, isPrefix, holds⟩ :=
        ih (runs.of_record (by simp))
      exact ⟨earlier, isPrefix.trans (List.prefix_append _ _), holds⟩
    | finish _ =>
      obtain ⟨earlier, isPrefix, holds⟩ :=
        ih (runs.of_record (by simp))
      exact ⟨earlier, isPrefix.trans (List.prefix_append _ _), holds⟩

/-- **One at a time.**  A kind of job that is only admitted where none of its kind was
started before is run by one thread. -/
theorem Reachable.sole {kind : J → Prop} (single : ∀ history job, S.admits history job → kind job →
      ∀ event ∈ history, ∀ other, event.action = .spawned other → ¬kind other)
    {other : ℕ} {job twin : J} (runs : pool.toWorld.Runs thread job)
    (runsTwin : pool.toWorld.Runs other twin) (isKind : kind job)
    (isTwin : kind twin) : thread = other := by
  induction reachable with
  | refl =>
    obtain ⟨event, member, -⟩ := runs
    simp [Pool.start] at member
  | tail _ step ih =>
    cases step with
    | spawn admitted =>
      obtain ⟨event, member, sameThread, isSpawn⟩ := runs
      obtain ⟨event', member', sameThread', isSpawn'⟩ := runsTwin
      rcases List.mem_append.mp member with old | new <;>
        rcases List.mem_append.mp member' with old' | new'
      · exact ih ⟨event, old, sameThread, isSpawn⟩ ⟨event', old', sameThread', isSpawn'⟩
      · grind
      · grind
      · grind
    | move _ _ =>
      exact ih (runs.of_record (by simp)) (runsTwin.of_record (by simp))
    | finish _ =>
      exact ih (runs.of_record (by simp)) (runsTwin.of_record (by simp))

/-- Every event happened in a reachable pool. -/
theorem Reachable.before_event {event : Event J C R α σ} (member : event ∈ pool.history) :
    ∃ earlier, S.Reachable state earlier ∧ earlier.state = event.before ∧
      earlier.history <+: pool.history := by
  induction reachable with
  | refl => simp [Pool.start] at member
  | tail reached step ih =>
    obtain ⟨thread, action, after, recorded, -⟩ := step.record
    rename_i pool next
    have grows : pool.history <+: next.history := by
      rw [show next.history = _ from congrArg World.history recorded]
      exact List.prefix_append _ _
    rw [recorded] at member
    rcases List.mem_append.mp member with old | new
    · grind
    · obtain rfl := List.mem_singleton.mp new
      exact ⟨pool, reached, rfl, grows⟩

/-- The states of a history form one chain. -/
structure Chained (world : World J C R α σ) : Prop where
  next : ∀ (k : ℕ) (event later : Event J C R α σ),
    world.history[k]? = some event → world.history[k + 1]? = some later →
    later.before = event.after
  last : ∀ event, world.history.getLast? = some event → world.state = event.after

theorem Reachable.chained : Chained pool.toWorld := by
  induction reachable with
  | refl => exact ⟨by simp [Pool.start], by simp [Pool.start]⟩
  | tail _ step ih =>
    rename_i earlier next _
    obtain ⟨thread, action, after, recorded, -⟩ := step.record
    rw [recorded]
    refine ⟨?_, ?_⟩
    · intro k event later found foundLater
      rcases getElem?_record foundLater with ⟨old, -⟩ | ⟨rfl, whole⟩
      · have bound := (List.getElem?_eq_some_iff.mp old).1
        grind [World.record_history, System.Chained.next]
      · have same : earlier.history.length = k + 1 := by
          grind
        rw [World.record_history, List.getElem?_append_left (by omega)] at found
        refine ih.last event ?_
        rw [List.getLast?_eq_getElem?, same]
        exact found
    · intro event isLast
      rw [World.record_history, List.getLast?_append_cons] at isLast
      obtain rfl := Option.some.inj isLast
      rfl

/-- **Between two events.**  A property of the shared state that holds after one
event, and that every event in between preserves, holds before a later one. -/
theorem Reachable.until_event {P : σ → Prop} {i k : ℕ}
    {first last : Event J C R α σ} (atFirst : pool.history[i]? = some first)
    (atLast : pool.history[k]? = some last) (less : i < k) (start : P first.after)
    (preserves : ∀ m event, i < m → m < k → pool.history[m]? = some event →
      P event.before → P event.after) :
    P last.before := by
  have chained := reachable.chained
  -- Induction on the position of the later event.
  induction k generalizing last with
  | zero => omega
  | succ k ih =>
    have bound := (List.getElem?_eq_some_iff.mp atLast).1
    have found : pool.history[k]? = some (pool.history[k]) :=
      List.getElem?_eq_getElem (by omega)
    rw [chained.next k _ last found atLast]
    grind

/-- **Along a history.**  A property of the shared state that holds at the start,
and that every event of the history preserves, holds throughout. -/
theorem Reachable.along {P : σ → Prop} (start : P state)
    (preserves : ∀ event ∈ pool.history, P event.before → P event.after) :
    P pool.state ∧ ∀ event ∈ pool.history, P event.before := by
  induction reachable with
  | refl => exact ⟨start, by simp [Pool.start]⟩
  | tail _ step ih =>
    rename_i earlier next _
    obtain ⟨thread, action, after, recorded, -⟩ := step.record
    rw [recorded] at preserves ⊢
    obtain ⟨current, earlierHolds⟩ := ih
      fun event member => preserves event (List.mem_append_left _ member)
    refine ⟨preserves _ (List.mem_append_right _ (List.mem_singleton_self _)) current, ?_⟩
    intro event member
    rcases List.mem_append.mp member with old | new
    · exact earlierHolds event old
    · grind

/-- **Worlds.**  A property of the shared state and the history that holds at the
start, and that every recorded action preserves, holds in every reachable
pool. -/
theorem Reachable.recorded {P : World J C R α σ → Prop} (start : P ⟨state, []⟩)
    (silent : ∀ world thread action,
      (∀ command response, action ≠ .ran command response) → P world →
      P (world.record thread action world.state))
    (ran : ∀ world thread command response after,
      S.exec command world.state response after → P world →
      P (world.record thread (.ran command response) after)) :
    P pool.toWorld := by
  induction reachable with
  | refl => exact start
  | tail _ step ih =>
    cases step with
    | spawn _ => exact silent _ _ _ nofun ih
    | move _ effect => exact ran _ _ _ _ _ effect ih
    | finish _ => exact silent _ _ _ nofun ih

/-- An event changes the shared state only as its command may. -/
theorem Reachable.unchanged_or_exec {event : Event J C R α σ} (member : event ∈ pool.history) :
    event.after = event.before ∨ ∃ command response, event.action = .ran command response ∧
        S.exec command event.before response event.after := by
  induction reachable with
  | refl => simp [Pool.start] at member
  | tail _ step ih =>
    obtain ⟨thread, action, after, recorded, effect⟩ := step.record
    rename_i earlier next _
    rw [recorded] at member
    rcases List.mem_append.mp member with old | new
    · exact ih old
    · grind

end

end System

end Concurrency
