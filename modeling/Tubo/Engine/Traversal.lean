import Tubo.Concurrency.Program
import Tubo.Domain.Graph

/-!
# Traversal of Pipes

Package `internal/engine`: the hop and loop state that travels with an open
request, and `Engine.Forward`, which opens the next hop.

The engine itself does no input or output; it calls functions that were given to
it.  These calls are the commands of `EngineCommand`.  Connections and carriers
are opaque to the engine, so a successful dial or open returns no data.
-/

namespace Tubo

open Concurrency

def errHopLimitExceeded : GoError := .sentinel (str "hop limit exceeded")
def errLoopDetected : GoError := .sentinel (str "pipe traversal loop detected")
def errInvalidTargetKind : GoError :=
  .sentinel (str "invalid target kind in pipe spec")
def errMissingPipeTarget : GoError :=
  .sentinel (str "missing pipe target in traversal")
def errMissingServiceTarget : GoError :=
  .sentinel (str "missing service target in traversal")
def errInvalidPipeDefinition : GoError :=
  .sentinel (str "invalid pipe definition")
def errInvalidServiceDefinition : GoError :=
  .sentinel (str "invalid service definition")

/-- `TraversalState`. -/
structure TraversalState where
  visitedIDs : List GoString
  remaining : ℤ
  maxHops : ℤ
  deriving DecidableEq, Repr

/-- `NewTraversal`. -/
def newTraversal (pipeID : GoString) : TraversalState :=
  ⟨[pipeID], defaultMaxPipeHops, defaultMaxPipeHops⟩

/-- `Advance`. -/
def TraversalState.advance (s : TraversalState) (pipeID : GoString) :
    Except GoError TraversalState := do
  failIf (s.remaining ≤ 0) errHopLimitExceeded
  failIf (pipeID ∈ s.visitedIDs) errLoopDetected
  return ⟨s.visitedIDs ++ [pipeID], s.remaining - 1, s.maxHops⟩

/-- The loop over the visited identifiers that looks for one seen before or
refused for its own sake. -/
def repeated (refused : GoString → Bool) (seen : List GoString) : List GoString → Bool
  | [] => false
  | id :: rest =>
    seen.contains id || refused id || repeated refused (id :: seen) rest

/-- `FromWire`. -/
def fromWire (visited : List GoString) (hopLimit : ℤ) : Except GoError TraversalState := do
  failIf (hopLimit ≤ 0 ∨ defaultMaxPipeHops < hopLimit) errHopLimitExceeded
  failIf (repeated (fun _ => false) [] visited) errLoopDetected
  failIf (hopLimit ≤ visited.length) errHopLimitExceeded
  return ⟨visited, hopLimit - visited.length, hopLimit⟩

/-! ## Forwarding -/

/-- The functions the engine was given.  The validation of a service parses its
target as a URL and is left to the environment. -/
inductive EngineCommand
  | resolveService (target : Ref)
  | resolvePipe (target : Ref)
  | validateService (service : ServiceSpec)
  | dialService (service : ServiceSpec)
  | openDownstream (next : PipeSpec) (state : TraversalState)

/-- What these functions return. -/
@[reducible]
def EngineCommand.Response : EngineCommand → Type
  | .resolveService _ => Except GoError ServiceSpec
  | .resolvePipe _ => Except GoError PipeSpec
  | .validateService _ => Except GoError Unit
  | .dialService _ => Except GoError Unit
  | .openDownstream .. => Except GoError Unit

/-- `ForwardResult`: a connection to a service, or a carrier to a Pipe. -/
inductive ForwardResult
  | service
  | downstream
  deriving DecidableEq, Repr

abbrev EngineProgram (α : Type) :=
  Program EngineCommand EngineCommand.Response (Except GoError α)

/-- `forwardServiceTarget`. -/
def forwardServiceTarget (target : Ref) : EngineProgram ForwardResult :=
  .call (.resolveService target) fun
    | .error error => .done (.error (.join errMissingServiceTarget error))
    | .ok service =>
      .call (.validateService service) fun
        | .error error =>
          .done (.error (.join errInvalidServiceDefinition error))
        | .ok () =>
          .call (.dialService service) fun
            | .error error => .done (.error error)
            | .ok () => .done (.ok .service)

/-- `forwardPipeTarget`; `hasOpener` says whether a downstream opener was
given. -/
def forwardPipeTarget (target : Ref) (state : TraversalState)
    (hasOpener : Bool) : EngineProgram ForwardResult :=
  .call (.resolvePipe target) fun
    | .error error => .done (.error (.join errMissingPipeTarget error))
    | .ok next =>
      match next.validate with
      | .error error => .done (.error (.join errInvalidPipeDefinition error))
      | .ok () =>
        -- The next Pipe appends itself when it is entered, so it must not
        -- be in the list yet.
        if next.pipeID ∈ state.visitedIDs then
          .done (.error errLoopDetected)
        else if state.remaining < 1 then
          .done (.error errHopLimitExceeded)
        else if ¬hasOpener then
          .done (.error (errorsNew "downstream opener required for pipe target"))
        else
          .call (.openDownstream next state) fun
            | .error error => .done (.error error)
            | .ok () => .done (.ok .downstream)

/-- `Engine.Forward`. -/
def forward (current : PipeSpec) (state : TraversalState)
    (hasOpener : Bool) : EngineProgram ForwardResult :=
  match current.target.kind with
  | .service => forwardServiceTarget current.target
  | .pipe => forwardPipeTarget current.target state hasOpener
  | _ => .done (.error errInvalidTargetKind)

/-- The loop finds nothing exactly if no identifier is repeated, was seen or is
refused. -/
theorem repeated_eq_false {refused : GoString → Bool} {seen visited : List GoString} :
    repeated refused seen visited = false ↔
      visited.Nodup ∧ ∀ id ∈ visited, id ∉ seen ∧ refused id = false := by
  induction visited generalizing seen with
  | nil => simp [repeated]
  | cons id rest ih =>
    rw [repeated, Bool.or_eq_false_iff, Bool.or_eq_false_iff, ih]
    constructor
    · rintro ⟨⟨notSeen, accepted⟩, nodup, others⟩
      grind
    · rintro ⟨nodup, all⟩
      obtain ⟨notLater, nodup⟩ := List.nodup_cons.mp nodup
      obtain ⟨notSeen, accepted⟩ := all id List.mem_cons_self
      grind

end Tubo
