import Mathlib.Data.List.Basic

/-!
# Programs over a command signature

Effectful code is represented by the tree of its interactions.  A program
either has returned, or it issues one command and continues with whatever
response it receives.  Everything between two commands is pure and therefore
invisible to the rest of the system, so one node of the tree is exactly one
step that other threads can observe.

The same tree has several meanings, and each of them is used:

* `Program.run` executes it alone against a state and a handler;
* `Program.trace` lists the exchanges of that execution;
* `Program.Always` quantifies over *every* environment: whatever the responses
  are, each command is issued only after a history that permits it.

A type of commands `C` comes with a response type `R c` for each command.
-/

namespace Concurrency

universe u v w x

/-- A program that issues commands `c : C`, receives responses in `R c` and
returns a value of type `α`. -/
inductive Program (C : Type u) (R : C → Type v) (α : Type w) :
    Type (max u v w)
  | done (value : α)
  | call (command : C) (next : R command → Program C R α)

/-- One command together with the response it received. -/
structure Exchange (C : Type u) (R : C → Type v) where
  command : C
  response : R command

/-- The same exchange over another signature. -/
def Exchange.lift {C D : Type u} {R : C → Type v} {Q : D → Type v}
    (into : C → D) (forth : (c : C) → R c → Q (into c)) (exchange : Exchange C R) : Exchange D Q :=
  ⟨into exchange.command, forth exchange.command exchange.response⟩

namespace Program

variable {C : Type u} {R : C → Type v} {α : Type w} {β : Type w}

/-- Sequential composition: the second program starts where the first one
returns. -/
def bind : Program C R α → (α → Program C R β) → Program C R β
  | .done value, after => after value
  | .call command next, after =>
    .call command fun response => (next response).bind after

/-- The program that issues one command and returns its response. -/
def perform (command : C) : Program C R (R command) :=
  .call command .done

instance : Monad (Program C R) where
  pure := .done
  bind := bind

@[simp]
theorem done_bind (value : α) (after : α → Program C R β) :
    (Program.done value >>= after) = after value := rfl

/-- Apply a function to the returned value. -/
def map (f : α → β) : Program C R α → Program C R β
  | .done value => .done (f value)
  | .call command next => .call command fun response => (next response).map f

/-- Composition of programs that may fail: an error of the first one ends the
whole program. -/
def andThen {ε : Type w} (program : Program C R (Except ε α))
    (after : α → Program C R (Except ε β)) : Program C R (Except ε β) :=
  program >>= fun
    | .ok value => after value
    | .error error => .done (.error error)

/-- The same program over another signature: every command is renamed, and its
response is read back. -/
def relabel {D : Type u} {Q : D → Type v} (into : C → D)
    (back : (c : C) → Q (into c) → R c) : Program C R α → Program D Q α
  | .done value => .done value
  | .call command next =>
    .call (into command) fun response =>
      (next (back command response)).relabel into back

@[simp]
theorem relabel_call {D : Type u} {Q : D → Type v} (into : C → D)
    (back : (c : C) → Q (into c) → R c) (command : C) (next : R command → Program C R α) :
    (Program.call command next).relabel into back = .call (into command) fun response =>
        (next (back command response)).relabel into back := rfl

theorem bind_bind {γ : Type w} (program : Program C R α)
    (second : α → Program C R β) (third : β → Program C R γ) :
    (program.bind second).bind third = program.bind fun value => (second value).bind third := by
  induction program with
  | done value => rfl
  | call command next ih =>
    exact congrArg (call command) (funext ih)

/-- The program in which every command is carried out by another program, which
may also keep something in mind from one command to the next. -/
def elaborate {C D : Type} {R : C → Type} {Q : D → Type} {α E : Type}
    (implement : E → (c : C) → Program D Q (R c × E)) :
    Program C R α → E → Program D Q (α × E)
  | .done value, memory => .done (value, memory)
  | .call command next, memory =>
    (implement memory command).bind fun (response, memory) =>
      (next response).elaborate implement memory

theorem elaborate_bind {C D : Type} {R : C → Type} {Q : D → Type}
    {α β E : Type} (implement : E → (c : C) → Program D Q (R c × E))
    (program : Program C R α) (after : α → Program C R β) (memory : E) :
    (program.bind after).elaborate implement memory =
      (program.elaborate implement memory).bind fun (value, memory) =>
        (after value).elaborate implement memory := by
  induction program generalizing memory with
  | done value => rfl
  | call command next ih =>
    change Program.bind _ _ = Program.bind (Program.bind _ _) _
    rw [bind_bind]
    exact congrArg _ (funext fun _ => ih _ _)

/-! ## Execution against a handler -/

section Handler

variable {σ : Type x}

/-- Execute a program alone: every command is answered by the handler, which
may change the state. -/
def run (handler : (c : C) → σ → R c × σ) : Program C R α → σ → α × σ
  | .done value, state => (value, state)
  | .call command next, state =>
    (next (handler command state).1).run handler (handler command state).2

/-- The exchanges of that execution, in order. -/
def trace (handler : (c : C) → σ → R c × σ) : Program C R α → σ → List (Exchange C R)
  | .done _, _ => []
  | .call command next, state =>
    ⟨command, (handler command state).1⟩ ::
      (next (handler command state).1).trace handler (handler command state).2

/-- The handler gives these answers to these commands, one after the other. -/
def Answers (handler : (c : C) → σ → R c × σ) : List (Exchange C R) → σ → Prop
  | [], _ => True
  | exchange :: rest, state =>
    (handler exchange.command state).1 = exchange.response ∧
      Answers handler rest (handler exchange.command state).2

variable (handler : (c : C) → σ → R c × σ)

@[simp]
theorem run_done (value : α) (state : σ) : (Program.done value : Program C R α).run handler state =
      (value, state) := rfl

@[simp]
theorem run_call (command : C) (next : R command → Program C R α) (state : σ) :
    (Program.call command next).run handler state = (next (handler command state).1).run handler
        (handler command state).2 := rfl

@[simp]
theorem trace_done (value : α) (state : σ) :
    (Program.done value : Program C R α).trace handler state = [] := rfl

@[simp]
theorem trace_call (command : C) (next : R command → Program C R α) (state : σ) :
    (Program.call command next).trace handler state = ⟨command, (handler command state).1⟩ ::
        (next (handler command state).1).trace handler (handler command state).2 := rfl

theorem run_bind (program : Program C R α) (after : α → Program C R β) (state : σ) :
    (program >>= after).run handler state = (after (program.run handler state).1).run handler
        (program.run handler state).2 := by
  induction program generalizing state with
  | done value => rfl
  | call command next ih =>
    exact ih _ _

variable {ε : Type w} {state : σ} {program : Program C R (Except ε α)}

theorem run_done_eq_ok {value : Except ε α} {result : α} {final : σ} :
    (Program.done value : Program C R (Except ε α)).run handler state =
      (.ok result, final) ↔ value = .ok result ∧ final = state := by
  rw [run_done, Prod.mk.injEq]
  exact and_congr_right' eq_comm

/-- A composition that succeeds is two successes. -/
theorem run_andThen_eq_ok {after : α → Program C R (Except ε β)} {final : σ} {result : β} :
    (program.andThen after).run handler state = (.ok result, final) ↔
      ∃ value middle, program.run handler state = (.ok value, middle) ∧
        (after value).run handler middle = (.ok result, final) := by
  rw [andThen, run_bind]
  constructor
  · grind [Program.run]
  · grind

theorem trace_answers (program : Program C R α) (state : σ) :
    Answers handler (program.trace handler state) state := by
  induction program generalizing state with
  | done value => trivial
  | call command next ih =>
    exact ⟨rfl, ih _ _⟩

/-- Every answer of an execution was given by the handler in some state. -/
theorem exists_of_mem_trace {program : Program C R α}
    {exchange : Exchange C R} (member : exchange ∈ program.trace handler state) :
    ∃ somewhere, exchange.response = (handler exchange.command somewhere).1 := by
  induction program generalizing state with
  | done value => cases member
  | call command next ih =>
    rcases List.mem_cons.mp member with rfl | later
    · exact ⟨state, rfl⟩
    · exact ih _ later


theorem trace_bind (program : Program C R α) (after : α → Program C R β) (state : σ) :
    (program >>= after).trace handler state = program.trace handler state ++
        (after (program.run handler state).1).trace handler (program.run handler state).2 := by
  induction program generalizing state with
  | done value => rfl
  | call command next ih =>
    exact congrArg _ (ih _ _)

/-- The continuation of a success. -/
theorem andThen_of_ok
    {middle : σ} {value : α} (first : program.run handler state = (.ok value, middle))
    (after : α → Program C R (Except ε β)) :
    (program.andThen after).run handler state = (after value).run handler middle ∧
      (program.andThen after).trace handler state =
        program.trace handler state ++ (after value).trace handler middle := by
  rw [andThen, run_bind, trace_bind, first]
  exact ⟨rfl, rfl⟩

/-- A failure ends a composition. -/
theorem andThen_of_error
    {middle : σ} {error : ε} (first : program.run handler state = (.error error, middle))
    (after : α → Program C R (Except ε β)) :
    (program.andThen after).run handler state = (.error error, middle) ∧
      (program.andThen after).trace handler state = program.trace handler state := by
  rw [andThen, run_bind, trace_bind, first]
  exact ⟨rfl, List.append_nil _⟩

end Handler

/-! ## Behaviour in an arbitrary environment -/

/-- Every command the program can issue is of a certain kind. -/
def Only (kind : C → Prop) : Program C R α → Prop
  | .done _ => True
  | .call command next => kind command ∧ ∀ response, (next response).Only kind

variable {kind : C → Prop} {program : Program C R α} {after : α → Program C R β} {σ : Type*}
  {handler : (c : C) → σ → R c × σ} {history : List (Exchange C R)}
  {post : List (Exchange C R) → α → Prop} {ε : Type w}

theorem Only.bind (only : program.Only kind)
    (next : ∀ value, (after value).Only kind) : (program.bind after).Only kind := by
  induction program with
  | done value => exact next value
  | call command following ih =>
    exact ⟨only.1, fun response =>
      ih response (only.2 response)⟩

/-- A program of commands that leave the state alone does so. -/
theorem Only.run_state
    (only : program.Only fun c => ∀ state, (handler c state).2 = state) (state : σ) :
    (program.run handler state).2 = state := by
  induction program with
  | done value => rfl
  | call command next ih =>
    rw [run_call, only.1 state]
    exact ih _ (only.2 _)

/-- A program of commands that keep a part of the state keeps it. -/
theorem Only.run_view {τ : Type*} {view : σ → τ}
    (only : program.Only fun c => ∀ state, view (handler c state).2 = view state)
    (state : σ) : view (program.run handler state).2 = view state := by
  induction program generalizing state with
  | done value => rfl
  | call command next ih =>
    exact (ih _ (only.2 _) _).trans (only.1 state)

theorem Only.trace (only : program.Only kind) (state : σ) :
    ∀ exchange ∈ program.trace handler state, kind exchange.command := by
  induction program generalizing state with
  | done value =>
    intro exchange member
    cases member
  | call command next ih =>
    rw [trace_call, List.forall_mem_cons]
    exact ⟨only.1, ih _ (only.2 _) _⟩

theorem Only.mono {wider : C → Prop}
    (only : program.Only kind) (implies : ∀ c, kind c → wider c) : program.Only wider := by
  induction program with
  | done value => trivial
  | call command next ih =>
    exact ⟨implies _ only.1, fun response => ih response (only.2 response)⟩

/-- Every step of a run relates the states before and after it. -/
def Steps {σ : Type*} (handler : (c : C) → σ → R c × σ) (related : σ → σ → Prop) :
    Program C R α → σ → Prop
  | .done _, _ => True
  | .call command next, state =>
    related state (handler command state).2 ∧
      (next (handler command state).1).Steps handler related (handler command state).2

theorem Steps.bind {related : σ → σ → Prop}
    {state : σ} (first : program.Steps handler related state)
    (second : (after (program.run handler state).1).Steps handler related
      (program.run handler state).2) :
    (program.bind after).Steps handler related state := by
  induction program generalizing state with
  | done value => exact second
  | call command next ih =>
    exact ⟨first.1, ih _ first.2 second⟩

theorem Only.steps {related : σ → σ → Prop}
    (only : program.Only fun c => ∀ state, related state (handler c state).2) (state : σ) :
    program.Steps handler related state := by
  induction program generalizing state with
  | done value => trivial
  | call command next ih =>
    exact ⟨only.1 state, ih _ (only.2 _) _⟩

/-- Whatever the environment answers, each command is issued only after a
history that permits it, and a returned value satisfies `post` of the whole
history. -/
def Always (permitted : List (Exchange C R) → C → Prop) (post : List (Exchange C R) → α → Prop) :
    Program C R α → List (Exchange C R) → Prop
  | .done value, history => post history value
  | .call command next, history =>
    permitted history command ∧ ∀ response, (next response).Always permitted post
        (history ++ [⟨command, response⟩])

variable {permitted : List (Exchange C R) → C → Prop}

theorem Always.bind {post : List (Exchange C R) → β → Prop} (first : program.Always permitted
      (fun history value => (after value).Always permitted post history)
      history) :
    (program >>= after).Always permitted post history := by
  induction program generalizing history with
  | done value => exact first
  | call command next ih =>
    exact ⟨first.1, fun response =>
      ih response (first.2 response)⟩

theorem Always.mono {weaker : List (Exchange C R) → α → Prop}
    (always : program.Always permitted post history)
    (weaken : ∀ history value, post history value → weaker history value) :
    program.Always permitted weaker history := by
  induction program generalizing history with
  | done value => exact weaken _ _ always
  | call command next ih =>
    exact ⟨always.1, fun response =>
      ih response (always.2 response)⟩

theorem Always.weaken {allowed : List (Exchange C R) → C → Prop}
   
    (always : program.Always permitted post history)
    (weaken : ∀ history command, permitted history command → allowed history command) :
    program.Always allowed post history := by
  induction program generalizing history with
  | done value => exact always
  | call command next ih =>
    exact ⟨weaken _ _ always.1, fun response =>
      ih response (always.2 response)⟩

theorem Always.map {post : List (Exchange C R) → β → Prop} {f : α → β}
    (always : program.Always permitted (fun history value => post history (f value)) history) :
    (program.map f).Always permitted post history := by
  induction program generalizing history with
  | done value => exact always
  | call command next ih =>
    exact ⟨always.1, fun response =>
      ih response (always.2 response)⟩

/-- What a program always does, it does over another signature and after other
exchanges, if no response is lost in the translation. -/
theorem Always.relabel {D : Type u} {Q : D → Type v} (into : C → D)
    {back : (c : C) → Q (into c) → R c} (forth : (c : C) → R c → Q (into c))
    (inverse : ∀ c response, forth c (back c response) = response)
    {allowed : List (Exchange D Q) → D → Prop}
    {owes : List (Exchange D Q) → α → Prop} (earlier : List (Exchange D Q))
    {later : List (Exchange D Q)} (always : program.Always permitted post history)
    (sameHistory : later = earlier ++ history.map (Exchange.lift into forth))
    (allows : ∀ history command, permitted history command →
      allowed (earlier ++ history.map (Exchange.lift into forth)) (into command))
    (weaken : ∀ history value, post history value →
      owes (earlier ++ history.map (Exchange.lift into forth)) value) :
    (program.relabel into back).Always allowed owes later := by
  induction program generalizing history later with
  | done value =>
    rw [sameHistory]
    exact weaken _ _ always
  | call command next ih =>
    refine ⟨sameHistory ▸ allows _ _ always.1, fun response => ?_⟩
    refine ih _ (always.2 (back command response)) ?_
    grind [Exchange.lift]

/-- A postcondition that is owed only by a success. -/
def OnSuccess {ε : Type w} (owes : List (Exchange C R) → α → Prop)
    (history : List (Exchange C R)) (outcome : Except ε α) : Prop :=
  ∀ value, outcome = .ok value → owes history value

/-- A success that is wrapped owes what its content owes. -/
theorem OnSuccess.map {D : Type u} {Q : D → Type v}
    {owes : List (Exchange C R) → α → Prop} {owed : List (Exchange D Q) → β → Prop} {wrap : α → β}
    {later : List (Exchange D Q)} {outcome : Except ε α} (holds : OnSuccess owes history outcome)
    (weaken : ∀ value, owes history value → owed later (wrap value)) :
    OnSuccess owed later (outcome.map wrap) := by
  intro value succeeded
  cases outcome with
  | error error => cases succeeded
  | ok inner =>
    obtain rfl := Except.ok.inj succeeded
    exact weaken inner (holds inner rfl)

/-- A program that has failed owes nothing. -/
theorem Always.failed {owes : List (Exchange C R) → α → Prop}
    (error : ε) (history : List (Exchange C R)) :
    (Program.done (.error error) : Program C R (Except ε α)).Always permitted
      (OnSuccess owes) history :=
  fun _ succeeded => by cases succeeded

/-- A composition owes what its second part owes after a success of the first. -/
theorem Always.andThen {owes : List (Exchange C R) → β → Prop}
    {program : Program C R (Except ε α)} {after : α → Program C R (Except ε β)}
    (first : program.Always permitted (OnSuccess fun history value =>
        (after value).Always permitted (OnSuccess owes) history) history) :
    (program.andThen after).Always permitted (OnSuccess owes) history := by
  apply Always.bind
  refine first.mono ?_
  rintro history (error | value) owed
  · exact Always.failed error history
  · exact owed value rfl

/-- From a history that permits everything, and will go on doing so, any program
is permitted. -/
theorem Always.of_persistent {good : List (Exchange C R) → Prop}
    (persists : ∀ history exchange, good history → good (history ++ [exchange]))
    (permits : ∀ history command, good history → permitted history command) (start : good history) :
    program.Always permitted (fun history _ => good history) history := by
  induction program generalizing history with
  | done value => exact start
  | call command next ih =>
    exact ⟨permits history command start, fun response =>
      ih response (persists history _ start)⟩

/-- What holds of the history and persists holds at every command. -/
theorem Always.keeping {good : List (Exchange C R) → Prop}
    (persists : ∀ history exchange, good history → good (history ++ [exchange]))
    (always : program.Always permitted post history) (start : good history) :
    program.Always (fun history command => permitted history command ∧ good history)
      (fun history value => post history value ∧ good history) history := by
  induction program generalizing history with
  | done value => exact ⟨always, start⟩
  | call command next ih =>
    exact ⟨⟨always.1, start⟩, fun response =>
      ih response (always.2 response) (persists _ _ start)⟩

/-- **Adequacy of `Always`.**  In the execution against any handler from any
state, every exchange is permitted by the exchanges before it. -/
theorem Always.trace {σ : Type x} (handler : (c : C) → σ → R c × σ)
    (always : program.Always permitted post history) (state : σ)
    {before after : List (Exchange C R)} {exchange : Exchange C R}
    (split : program.trace handler state = before ++ exchange :: after) :
    permitted (history ++ before) exchange.command := by
  induction program generalizing history state before with
  | done value => simp at split
  | call command next ih =>
    cases before with
    | nil =>
      obtain ⟨rfl, -⟩ := List.cons_eq_cons.mp split
      simpa using always.1
    | cons head before =>
      obtain ⟨rfl, rest⟩ := List.cons_eq_cons.mp split
      simpa using ih _ (always.2 _) _ rest

/-- The result of the execution against any handler satisfies the postcondition
of its exchanges. -/
theorem Always.run_post {σ : Type x} (handler : (c : C) → σ → R c × σ)
    (always : program.Always permitted post history) (state : σ) :
    post (history ++ program.trace handler state) (program.run handler state).1 := by
  induction program generalizing history state with
  | done value =>
    rw [trace_done, List.append_nil]
    exact always
  | call command next ih =>
    have rest := ih (handler command state).1 (always.2 _) (handler command state).2
    rwa [List.append_assoc] at rest

/-- **Invariants of an execution.**  A relation between the exchanges so far and
the state holds at the end, if every permitted command keeps it. -/
theorem Always.run_invariant
    {σ : Type x} (handler : (c : C) → σ → R c × σ) (invariant : List (Exchange C R) → σ → Prop)
    (step : ∀ history command state, permitted history command → invariant history state →
      invariant (history ++ [⟨command, (handler command state).1⟩]) (handler command state).2)
    (always : program.Always permitted post history) {state : σ} (start : invariant history state) :
    invariant (history ++ program.trace handler state) (program.run handler state).2 := by
  induction program generalizing history state with
  | done value =>
    rw [trace_done, List.append_nil]
    exact start
  | call command next ih =>
    have rest := ih (handler command state).1 (always.2 _)
      (step history command state always.1 start)
    rwa [List.append_assoc] at rest

/-- **Simulation.**  Two executions return the same value, and end in related
states, if every command the program issues is answered alike in related
states. -/
theorem Always.run_agree {σ τ : Type x} {allowed : C → Prop} {related : σ → τ → Prop}
    {first : (c : C) → σ → R c × σ} {second : (c : C) → τ → R c × τ}
    (step : ∀ c s t, allowed c → related s t →
      (first c s).1 = (second c t).1 ∧ related (first c s).2 (second c t).2)
    (always : program.Always (fun _ => allowed) post history) {s : σ} {t : τ}
    (start : related s t) :
    (program.run first s).1 = (program.run second t).1 ∧
      related (program.run first s).2 (program.run second t).2 := by
  induction program generalizing history s t with
  | done value => exact ⟨rfl, start⟩
  | call command next ih =>
    obtain ⟨sameResponse, stillRelated⟩ := step command s t always.1 start
    rw [run_call, run_call, ← sameResponse]
    exact ih _ (always.2 _) stillRelated

end Program

end Concurrency
