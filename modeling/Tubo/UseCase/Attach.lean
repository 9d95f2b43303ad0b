import Tubo.ExactPath.Fence
import Tubo.UseCase.Connect

/-!
# Services and the Pipes that target them

`Attach` of package `internal/usecase` stores a Service and then a Pipe that targets
it; `DeleteService` and `DeletePipe` of package `internal/store` remove them.  The
deletions are transactions, and `DeleteService` refuses while a Pipe targets the
Service.  `PutService` and `PutPipe` are a query and a statement each, and between
the two functions `Attach` does other things.

* `attach_keeps_services_iff` — in every run, each Pipe has its Service in every
  state exactly if each Pipe was inserted while its Service was stored.
* `attach_loses_service` — `Attach` does not see to that: a `DeleteService` between
  its two halves finds no Pipe.
-/

namespace Tubo

open Concurrency

variable (prim : Primitives)

/-! ## Services -/

/-- The part of `url.URL` that is read. -/
structure ParsedURL where
  scheme : GoString
  host : GoString
  deriving DecidableEq, Repr

/-- `url.Parse` and `net.SplitHostPort`. -/
structure TargetSyntax where
  parse : GoString → Option ParsedURL
  splitHostPort : GoString → Except GoError Unit

variable (texts : TargetSyntax)

/-- An error that begins with the reference of the Service. -/
def ServiceSpec.complaint (s : ServiceSpec) (text : GoString) : GoError :=
  .new (str "service " ++ s.ref.string ++ text)

/-- `ServiceSpec.Validate`. -/
def ServiceSpec.validate (s : ServiceSpec) : Except GoError Unit := do
  s.ref.requireKind .service
  let target := trimSpace s.target
  failIf (target = []) (s.complaint (str " target is required"))
  if s.kind = str "http" then
    failIf (¬(texts.parse target).any (fun u => u.host ≠ [] ∧
        (u.scheme = str "http" ∨ u.scheme = str "https")))
      (s.complaint (str " requires an http:// or https:// target"))
  else if s.kind = str "tcp" then
    match texts.parse target with
    | none => .error (s.complaint (str " requires a tcp://host:port target"))
    | some u => do
        failIf (u.scheme ≠ str "tcp" ∨ u.host = [])
          (s.complaint (str " requires a tcp://host:port target"))
        match texts.splitHostPort u.host with
        | .error error =>
          .error (.wrap (str "service " ++ s.ref.string ++ str " tcp target: ") error [])
        | .ok () => .ok ()
  else if s.kind = str "unix" then
    failIf (¬hasPrefix target (str "unix:///"))
      (s.complaint (str " requires a unix:///path target"))
  else .error (s.complaint (str " has unsupported kind " ++ quote s.kind))

/-- A Service as it is stored, with the fields that are only compared. -/
structure ServiceRow extends ServiceSpec where
  description : GoString := []
  metadata : List (GoString × GoString) := []
  deriving DecidableEq, Repr

/-- `serviceSpecFromTarget`. -/
def serviceSpecFromTarget (name target : GoString) : Except GoError ServiceRow := do
  let ref ← newRef .service name
  let scheme := toLowerASCII (target.takeWhile (· ≠ 0x3A))
  let kind := if scheme = str "https" then str "http" else scheme
  let spec : ServiceRow := { ref, kind, target }
  spec.validate texts
  return spec

/-! ## The tables -/

/-- The database with the table `services`; the key is the text of the reference,
which determines the name. -/
structure Catalog extends Store where
  services : Table GoString ServiceRow := ∅

namespace Catalog

/-- Some Pipe whose target is the given reference. -/
def targetedBy (s : Catalog) (ref : GoString) : Option GoString :=
  (s.pipes.entries.find? fun entry => entry.2.spec.target.string == ref).map fun entry => entry.1

/-- `DeleteService`. -/
def deleteService (s : Catalog) (ref : GoString) : Except GoError Catalog :=
  match s.services.lookup ref with
  | none => .error (.wrap [] errNotFound (str ": " ++ ref))
  | some _ =>
    match s.targetedBy ref with
    | some pipe =>
      .error (.new (str "conflict: " ++ ref ++ str " is targeted by " ++ pipe))
    | none => .ok { s with services := s.services.erase ref }

/-- The `INSERT` of `PutService`. -/
def insertService (s : Catalog) (spec : ServiceRow) : Except GoError Catalog :=
  match s.services.lookup spec.ref.string with
  | some _ =>
    .error (errorsNew "constraint failed: UNIQUE constraint failed: services.ref")
  | none => .ok { s with services := s.services.insert spec.ref.string spec }

/-- The `INSERT` of `PutPipe`. -/
def insertPipe (s : Catalog) (spec : PipeSpec) (ownerKey publishGrant : GoString) :
    Except GoError Catalog :=
  match s.pipes.lookup spec.ref.string with
  | some _ =>
    .error (errorsNew "constraint failed: UNIQUE constraint failed: pipes.ref")
  | none => do
      failIf (s.toStore.pipeIDTaken spec.pipeID = true) Store.errPipeIDTaken
      let row : PipeRow := ⟨spec.pipeID, spec, ownerKey, publishGrant⟩
      return { s with pipes := s.pipes.insert spec.ref.string row }

/-- The `UPDATE` of `PutPipe`. -/
def updatePublishGrant (s : Catalog) (ref publishGrant : GoString) : Catalog :=
  match s.pipes.lookup ref with
  | none => s
  | some row => { s with pipes := s.pipes.replace ref { row with publishGrant } }

/-- `DeletePipe`. -/
def deletePipe (s : Catalog) (ref : GoString) : Except GoError Catalog :=
  match s.toStore.deletePipe ref with
  | .error error => .error error
  | .ok (_, after) => .ok { s with toStore := after }

/-- Every Pipe that targets a Service has it stored. -/
def ServicesKept (s : Catalog) : Prop :=
  ∀ ref row, s.pipes.lookup ref = some row → row.spec.target.kind = .service →
    (s.services.lookup row.spec.target.string).isSome = true

end Catalog

/-! ## Steps -/

inductive CatalogCommand
  | selectService (ref : GoString)
  | insertService (spec : ServiceRow)
  | deleteService (ref : GoString)
  | provision (path : GoString)
  | pipe (identifier : GoString)
  | selectPipe (ref : GoString)
  | insertPipe (spec : PipeSpec) (ownerKey publishGrant : GoString)
  | updatePublishGrant (ref publishGrant : GoString)
  | deletePipe (ref : GoString)

@[reducible]
def CatalogCommand.Response : CatalogCommand → Type
  | .selectService _ => Except GoError (Option ServiceRow)
  | .provision _ => Except GoError PrivateKey
  | .pipe _ => Except GoError PipeRow
  | .selectPipe _ => Except GoError (Option PipeSpec)
  | _ => Except GoError Unit

/-- A statement that changes the tables, or fails. -/
def Catalog.statement (s : Catalog) (result : Except GoError Catalog) :
    Except GoError Unit × Catalog :=
  match result with
  | .error error => (.error error, s)
  | .ok after => (.ok (), after)

/-- A step that does not fail for reasons of its own; `key` is what `localkey`
provisions. -/
def Catalog.serve (key : Except GoError PrivateKey) :
    (c : CatalogCommand) → Catalog → c.Response × Catalog
  | .selectService ref, s => (.ok (s.services.lookup ref), s)
  | .insertService spec, s => s.statement (s.insertService spec)
  | .deleteService ref, s => s.statement (s.deleteService ref)
  | .provision _, s => (key, s)
  | .pipe identifier, s => (s.toStore.pipe identifier, s)
  | .selectPipe ref, s => (.ok ((s.pipes.lookup ref).map PipeRow.spec), s)
  | .insertPipe spec ownerKey publishGrant, s =>
    s.statement (s.insertPipe spec ownerKey publishGrant)
  | .updatePublishGrant ref publishGrant, s =>
    (.ok (), s.updatePublishGrant ref publishGrant)
  | .deletePipe ref, s => s.statement (s.deletePipe ref)

/-- The response of a step that fails. -/
def CatalogCommand.failed (error : GoError) : (c : CatalogCommand) → c.Response
  | .selectService _ | .insertService _ | .deleteService _ | .provision _ | .pipe _
  | .selectPipe _ | .insertPipe .. | .updatePublishGrant .. | .deletePipe _ =>
    .error error

/-- What the surroundings decide about a step. -/
inductive CatalogInput
  | proceed
  | key (key : PrivateKey)
  | fail (error : GoError)

/-- One step.  A step that fails changes nothing, and its error is not
`ErrNotFound`. -/
def Catalog.execute (input : CatalogInput) (c : CatalogCommand) (s : Catalog) :
    Option (c.Response × Catalog) :=
  match input with
  | .fail error => if error.is errNotFound then none else some (c.failed error, s)
  | .key key => some (s.serve (.ok key) c)
  | .proceed => some (s.serve (.error (errorsNew "localkey: no entropy")) c)

/-! ## The programs -/

abbrev CatalogProgram (α : Type) :=
  Program CatalogCommand CatalogCommand.Response (Except GoError α)

/-- `PutService`; the result tells whether a row was inserted.  The texts of equal
specifications are equal. -/
def putService (spec : ServiceRow) : CatalogProgram Bool :=
  match spec.validate texts with
  | .error error => .done (.error error)
  | .ok () =>
    .call (.selectService spec.ref.string) fun
      | .error error => .done (.error error)
      | .ok (some existing) =>
        if existing = spec then .done (.ok false)
        else .done (.error (.new (str "conflict: " ++ spec.ref.string ++
          str " already exists with different specification")))
      | .ok none =>
        .call (.insertService spec) fun
          | .error error => .done (.error error)
          | .ok () => .done (.ok true)

/-- `PutPipe`. -/
def putPipe (spec : PipeSpec) (ownerKey publishGrant : GoString) : CatalogProgram Bool :=
  match spec.validate with
  | .error error => .done (.error error)
  | .ok () =>
    .call (.selectPipe spec.ref.string) fun
      | .error error => .done (.error error)
      | .ok (some existing) =>
        if existing = spec then
          if publishGrant ≠ [] then
            .call (.updatePublishGrant spec.ref.string publishGrant) fun
              | .error error => .done (.error error)
              | .ok () => .done (.ok false)
          else .done (.ok false)
        else .done (.error (.new (str "conflict: " ++ spec.ref.string ++
          str " already exists with different specification")))
      | .ok none =>
        .call (.insertPipe spec ownerKey publishGrant) fun
          | .error error => .done (.error error)
          | .ok () => .done (.ok true)

/-- The path of the owner key of a Pipe. -/
def ownerKeyPath (secrets : GoString) (ref : Ref) : GoString :=
  secrets ++ str "/pipes/" ++ ref.name ++ str ".key"

/-- `ownerKey`. -/
def ownerKey (u : UseCases) (ref : Ref) : CatalogProgram (PrivateKey × GoString) :=
  if blank u.secrets then
    .done (.error (errorsNew "invalid_input: secrets directory is not configured"))
  else
    .call (.provision (ownerKeyPath u.secrets ref)) fun
      | .error error => .done (.error error)
      | .ok (key : PrivateKey) => .done (.ok (key, ownerKeyPath u.secrets ref))

/-- `AttachInput`; its Scope is never read. -/
structure AttachInput where
  name : GoString
  target : GoString

/-- `AttachResult`. -/
structure AttachResult where
  serviceRef : Ref
  pipeRef : Ref
  pipeID : GoString
  created : Bool
  pipeCreated : Bool
  deriving DecidableEq, Repr

/-- The Pipe that `Attach` defines for an owner. -/
def attachedPipe (u : UseCases) (pipeRef : Ref) (owner : PrivateKey)
    (service : ServiceRow) : PipeSpec where
  ref := pipeRef
  pipeID := pipeIDFromOwner prim (prim.publicKey owner.secret)
  scope := none
  ingress := ⟨.tubo, [], [], [], str "raw"⟩
  target := service.ref
  visibility := .unlisted
  access := .inviteOnly
  allowReexport := false
  createdAt := u.clock
  updatedAt := u.clock

/-- The end of `Attach`: the Pipe. -/
def attachPipe (u : UseCases) (pipeRef : Ref) (service : ServiceRow)
    (created : Bool) : CatalogProgram AttachResult :=
  let store (spec : PipeSpec) (keyFile : GoString) : CatalogProgram AttachResult :=
    (putPipe spec keyFile []).bind fun
      | .error error => .done (.error (persistenceError "pipe" error))
      | .ok pipeCreated =>
        .done (.ok ⟨service.ref, pipeRef, spec.pipeID, created, pipeCreated⟩)
  (ownerKey u pipeRef).bind fun
    | .error error => .done (.error (persistenceError "pipe owner key" error))
    | .ok (owner, keyFile) =>
      let spec := attachedPipe prim u pipeRef owner service
      .call (.pipe pipeRef.string) fun found =>
        match pipeRepoGet pipeRef.string found with
        | .ok (existing, existingKey) =>
          store { spec with
            pipeID := existing.pipeID
            createdAt := existing.createdAt
            updatedAt := existing.updatedAt } existingKey
        | .error error =>
          if error.is errNotFound then store spec keyFile
          else .done (.error (persistenceError "pipe" error))

/-- `Attach`. -/
def attach (u : UseCases) (input : AttachInput) : CatalogProgram AttachResult :=
  if blank input.name ∨ blank input.target then
    .done (.error (errorsNew "invalid_input: attach requires name and target"))
  else
    match serviceSpecFromTarget texts input.name input.target with
    | .error error => .done (.error (.wrap (str "invalid_input: ") error []))
    | .ok service =>
      (putService texts service).bind fun
        | .error error => .done (.error (persistenceError "service" error))
        | .ok created =>
          match newRef .pipe input.name with
          | .error error => .done (.error (.wrap (str "invalid_input: ") error []))
          | .ok pipeRef => attachPipe prim u pipeRef service created

/-- A call. -/
inductive CatalogCall
  | attach (u : UseCases) (input : AttachInput)
  | deleteService (ref : GoString)
  | deletePipe (ref : GoString)

/-- The code of a call; only `Attach` has a result. -/
def CatalogCall.code : CatalogCall → CatalogProgram (Option AttachResult)
  | .attach u input =>
    (Tubo.attach prim texts u input).andThen fun result => .done (.ok (some result))
  | .deleteService ref =>
    .call (.deleteService ref) fun
      | .error error => .done (.error error)
      | .ok () => .done (.ok none)
  | .deletePipe ref =>
    .call (.deletePipe ref) fun
      | .error error => .done (.error error)
      | .ok () => .done (.ok none)

/-- Any number of calls on one database. -/
def catalogCalls : System CatalogCall CatalogCommand CatalogCommand.Response
    (Except GoError (Option AttachResult)) Catalog where
  code := CatalogCall.code prim texts
  exec c s response after := ∃ input, s.execute input c = some (response, after)
  admits _ _ := True

/-! ## What a step keeps -/

namespace Catalog

variable {s after : Catalog}

theorem insertService_keeps {spec : ServiceRow} (kept : s.ServicesKept)
    (inserted : s.insertService spec = .ok after) : after.ServicesKept := by
  unfold insertService at inserted
  split at inserted
  · cases inserted
  · cases inserted
    intro ref row found isService
    have stored := kept ref row found isService
    by_cases same : row.spec.target.string = spec.ref.string
    · rw [same, AList.lookup_insert]
      rfl
    · rw [AList.lookup_insert_ne same]
      exact stored

/-- A Service that a Pipe targets is not deleted. -/
theorem deleteService_keeps {ref : GoString} (kept : s.ServicesKept)
    (deleted : s.deleteService ref = .ok after) : after.ServicesKept := by
  unfold deleteService at deleted
  split at deleted
  · cases deleted
  split at deleted
  · cases deleted
  · rename_i untargeted
    cases deleted
    intro pipeRef row found isService
    have stored := kept pipeRef row found isService
    have other : row.spec.target.string ≠ ref := by
      intro same
      have none := List.find?_eq_none.mp (Option.map_eq_none_iff.mp untargeted)
        ⟨pipeRef, row⟩ (AList.mem_lookup_iff.mp found)
      simp [same] at none
    rw [AList.lookup_erase_ne other]
    exact stored

theorem deletePipe_keeps {ref : GoString} (kept : s.ServicesKept)
    (deleted : s.deletePipe ref = .ok after) : after.ServicesKept := by
  unfold deletePipe at deleted
  split at deleted
  · cases deleted
  · rename_i removed
    cases deleted
    obtain ⟨-, -, -, rfl⟩ := Store.deletePipe_eq_ok removed
    intro pipeRef row found isService
    by_cases same : pipeRef = ref
    · rw [same] at found
      cases (AList.lookup_erase ..).symm.trans found
    · exact kept pipeRef row ((AList.lookup_erase_ne same).symm.trans found) isService

theorem updatePublishGrant_keeps (ref publishGrant : GoString)
    (kept : s.ServicesKept) : (s.updatePublishGrant ref publishGrant).ServicesKept := by
  unfold updatePublishGrant
  split
  · exact kept
  · rename_i old isOld
    intro pipeRef row found isService
    rcases Table.lookup_replace found with unchanged | rfl
    · exact kept pipeRef row unchanged isService
    · exact kept ref old isOld isService

/-- A Pipe is inserted in place if its Service is stored. -/
theorem insertPipe_keeps_iff {spec : PipeSpec} {ownerKey publishGrant : GoString}
    (kept : s.ServicesKept) (inserted : s.insertPipe spec ownerKey publishGrant = .ok after) :
    after.ServicesKept ↔ (spec.target.kind = .service →
      (s.services.lookup spec.target.string).isSome = true) := by
  unfold insertPipe at inserted
  split at inserted
  · cases inserted
  · simp only [bind_eq_ok, failIf_eq_ok] at inserted
    obtain ⟨_, -, inserted⟩ := inserted
    cases inserted
    constructor
    · intro keptAfter isService
      exact keptAfter spec.ref.string _ (AList.lookup_insert ..) isService
    · intro stored ref row found isService
      by_cases same : ref = spec.ref.string
      · grind [AList.lookup_insert]
      · have earlier : s.pipes.lookup ref = some row :=
          (AList.lookup_insert_ne same).symm.trans found
        exact kept ref row earlier isService

/-- A statement keeps the invariant if its change does. -/
theorem statement_keeps {result : Except GoError Catalog}
    {response : Except GoError Unit} (kept : s.ServicesKept)
    (ran : s.statement result = (response, after))
    (keeps : ∀ changed, result = .ok changed → changed.ServicesKept) : after.ServicesKept := by
  unfold statement at ran
  grind

/-- A step that leaves the tables as they should be: a Pipe is inserted only while
the Service it targets is stored. -/
def InsertsTargeted : (c : CatalogCommand) → c.Response → Catalog → Prop
  | .insertPipe spec _ _, .ok _, s => spec.target.kind = .service →
      (s.services.lookup spec.target.string).isSome = true
  | _, _, _ => True

/-- **One step** breaks the invariant exactly if it inserts a Pipe without its
Service. -/
theorem execute_keeps_iff {input : CatalogInput} {c : CatalogCommand}
    {response : c.Response} (kept : s.ServicesKept)
    (ran : s.execute input c = some (response, after)) :
    after.ServicesKept ↔ InsertsTargeted c response s := by
  have served : ∀ key, s.serve key c = (response, after) →
      (after.ServicesKept ↔ InsertsTargeted c response s) := by
    intro key ran
    cases c with
    | selectService _ | pipe _ | selectPipe _ =>
      cases ran
      exact iff_of_true kept trivial
    | provision _ =>
      cases ran
      exact iff_of_true kept trivial
    | insertService spec =>
      refine iff_of_true (statement_keeps kept ran ?_) trivial
      exact fun changed inserted => insertService_keeps kept inserted
    | deleteService ref =>
      refine iff_of_true (statement_keeps kept ran ?_) trivial
      exact fun changed deleted => deleteService_keeps kept deleted
    | deletePipe ref =>
      refine iff_of_true (statement_keeps kept ran ?_) trivial
      exact fun changed deleted => deletePipe_keeps kept deleted
    | updatePublishGrant ref publishGrant =>
      cases ran
      exact iff_of_true (s.updatePublishGrant_keeps ref publishGrant kept) trivial
    | insertPipe spec ownerKey publishGrant =>
      simp only [serve, statement] at ran
      split at ran
      · cases ran
        exact iff_of_true kept trivial
      · cases ran
        exact insertPipe_keeps_iff kept ‹_›
  unfold execute at ran
  split at ran
  · split at ran
    · cases ran
    · obtain ⟨rfl, rfl⟩ := Prod.mk.inj (Option.some.inj ran)
      refine iff_of_true kept ?_
      cases c <;> trivial
  · exact served _ (Option.some.inj ran)
  · exact served _ (Option.some.inj ran)

end Catalog

/-! ## Every run -/

/-- **A Pipe keeps its Service exactly if it is inserted while it has one.**  In
every interleaving of any number of calls, with any failures, from a database in
which every Pipe that targets a Service has it stored. -/
theorem attach_keeps_services_iff {s : Catalog} (kept : s.ServicesKept)
    {pool : Pool CatalogCall CatalogCommand CatalogCommand.Response
      (Except GoError (Option AttachResult)) Catalog}
    (reachable : (catalogCalls prim texts).Reachable s pool) :
    (∀ event ∈ pool.history, event.after.ServicesKept) ↔
      ∀ event ∈ pool.history, ∀ spec ownerKey publishGrant value,
        event.action = .ran (.insertPipe spec ownerKey publishGrant) (.ok value) →
        spec.target.kind = .service →
        (event.before.services.lookup spec.target.string).isSome = true := by
  have exactly := reachable.invariant_iff kept
    (fun _ _ _ _ ⟨_, ran⟩ kept => Catalog.execute_keeps_iff kept ran)
  rw [exactly]
  constructor
  · intro targeted event member spec ownerKey publishGrant value isInsert
    exact targeted event member _ _ isInsert
  · intro targeted event member command response isRan
    cases command with
    | insertPipe spec ownerKey publishGrant =>
      cases response with
      | error error => trivial
      | ok value => exact targeted event member spec ownerKey publishGrant value isRan
    | _ => trivial

/-! ## Runs by hand -/

/-- Texts in which nothing is parsed; the targets of Unix sockets need none. -/
def noTexts : TargetSyntax :=
  ⟨fun _ => none, fun _ => .ok ()⟩

/-- A call of `Attach` for a Unix socket. -/
def attachSocket : CatalogCall :=
  .attach ⟨str "/s", .zero⟩ ⟨str "web", str "unix:///web"⟩

/-- The moves of an undisturbed call, by their numbers: the query for the Service and
its insertion, the owner key, the two queries for the Pipe and its insertion. -/
def attachMoves : List (Decision CatalogCall CatalogInput) :=
  [.move 0 .proceed, .move 0 .proceed, .move 0 (.key ⟨ownerSecret, rfl⟩),
    .move 0 .proceed, .move 0 .proceed, .move 0 .proceed]

theorem perform_catalogCalls (script : List (Decision CatalogCall CatalogInput))
    (holds : Pool CatalogCall CatalogCommand CatalogCommand.Response
      (Except GoError (Option AttachResult)) Catalog → Prop) [DecidablePred holds]
    (computed : (perform (catalogCalls plain noTexts) Catalog.execute
      (fun _ _ => true) script (Pool.start {})).any (fun pool => holds pool) = true) :
    ∃ pool, (catalogCalls plain noTexts).Reachable {} pool ∧ holds pool := by
  obtain ⟨pool, performed, facts⟩ := (Option.any_eq_true _ _).mp computed
  refine ⟨pool, perform_reachable ?_ (fun _ _ _ => trivial)
    (System.Reachable.start _) performed, of_decide_eq_true facts⟩
  intro input c s response after attempted
  exact ⟨input, attempted⟩

theorem Catalog.servicesKept_empty : Catalog.ServicesKept {} := by
  intro ref row found
  grind [AList.lookup_empty]

/-- **A Pipe outlives its Service.**  The Service is deleted after `Attach` has stored
it and before `Attach` stores the Pipe. -/
theorem attach_loses_service : Catalog.ServicesKept {} ∧
    ∃ pool, (catalogCalls plain noTexts).Reachable {} pool ∧ ¬pool.state.ServicesKept := by
  refine ⟨Catalog.servicesKept_empty, ?_⟩
  obtain ⟨pool, reachable, targets, gone⟩ := perform_catalogCalls
    (.spawn attachSocket :: .spawn (.deleteService (str "service/web")) ::
      (attachMoves.take 2 ++ .move 1 .proceed :: attachMoves.drop 2))
    (fun pool => (pool.state.pipes.lookup (str "pipe/web")).map (·.spec.target) =
        some ⟨.service, str "web"⟩ ∧
      pool.state.services.lookup (str "service/web") = none) (by decide +kernel)
  refine ⟨pool, reachable, ?_⟩
  intro kept
  obtain ⟨row, found, target⟩ := Option.map_eq_some_iff.mp targets
  have stored := kept _ row found (by rw [target])
  rw [target, show Ref.string ⟨.service, str "web"⟩ = str "service/web" by decide, gone] at stored
  cases stored

/-- A Pipe is inserted only while the Service of its target is there. -/
def insertsTargeted (event : Event CatalogCall CatalogCommand CatalogCommand.Response
    (Except GoError (Option AttachResult)) Catalog) : Bool :=
  match event.action with
  | .ran (.insertPipe spec _ _) (.ok _) =>
    (event.before.services.lookup spec.target.string).isSome
  | _ => true

theorem attach_keeps_services_alone : ∃ pool, (catalogCalls plain noTexts).Reachable {} pool ∧
      (pool.state.pipes.lookup (str "pipe/web")).isSome = true ∧
      ∀ event ∈ pool.history, event.after.ServicesKept := by
  obtain ⟨pool, reachable, stored, targeted⟩ := perform_catalogCalls
    (.spawn attachSocket :: attachMoves)
    (fun pool => (pool.state.pipes.lookup (str "pipe/web")).isSome = true ∧
      pool.history.all insertsTargeted) (by decide +kernel)
  refine ⟨pool, reachable, stored,
    (attach_keeps_services_iff plain noTexts Catalog.servicesKept_empty reachable).mpr ?_⟩
  grind [insertsTargeted]

end Tubo
