import Tubo.Store.Access

/-!
# Local Pipes and accepted remote Pipes

Package `internal/store`: `PutPipe` and `DeletePipe` of `store.go`, and
`exact_connection.go` — the durable bindings of accepted remote Pipes and the
cache of their Access Leases.  Each function is one transaction, or a single
statement after checks that nothing else can invalidate on a machine with one
writer.
-/

namespace Tubo

namespace Store

/-! ## Pipes -/

/-- The error of SQLite for a second row with the same Pipe identifier. -/
def errPipeIDTaken : GoError :=
  errorsNew "constraint failed: UNIQUE constraint failed: pipes.pipe_id"

/-- Some row of `pipes` has this identifier. -/
def pipeIDTaken (s : Store) (pipeID : GoString) : Bool :=
  s.pipes.entries.any fun entry => entry.2.pipeID == pipeID

/-- `PutPipe`; the result tells whether a row was inserted. -/
def putPipe (s : Store) (spec : PipeSpec) (ownerKey publishGrant : GoString) :
    Except GoError (Bool × Store) := do
  spec.validate
  match s.pipes.lookup spec.ref.string with
  | some existing => do
      failIf (existing.spec ≠ spec) (.new (str "conflict: " ++ spec.ref.string ++
          str " already exists with different specification"))
      if publishGrant = [] then return (false, s)
      else
        let granted : PipeRow := { existing with publishGrant }
        return (false, { s with
          pipes := s.pipes.replace spec.ref.string granted })
  | none => do
      failIf (s.pipeIDTaken spec.pipeID = true) errPipeIDTaken
      let row : PipeRow := ⟨spec.pipeID, spec, ownerKey, publishGrant⟩
      return (true, { s with pipes := s.pipes.insert spec.ref.string row })

/-- Another Pipe whose target is the given reference. -/
def targetedBy (s : Store) (ref : GoString) : Option GoString :=
  (s.pipes.entries.find? fun entry =>
    entry.1 != ref && entry.2.spec.target.string == ref).map fun entry =>
      entry.1

/-- `DeletePipe`: the path of the owner key of the deleted Pipe. -/
def deletePipe (s : Store) (ref : GoString) : Except GoError (GoString × Store) :=
  match s.pipes.lookup ref with
  | none => .error (.wrap [] errNotFound (str ": " ++ ref))
  | some row =>
    match s.targetedBy ref with
    | some other =>
      .error (.new (str "conflict: " ++ ref ++ str " is targeted by " ++ other))
    | none => .ok (row.ownerKeyFile, { s with pipes := s.pipes.erase ref })

/-! ## Bindings -/

/-- `GetRemotePipeBinding`. -/
def getRemotePipeBinding (s : Store) (remotePipeID : GoString) : Except GoError RemotePipeBinding :=
  match s.remotePipeBindings.lookup remotePipeID with
  | none =>
    .error (.wrap [] errNotFound (str ": remote pipe binding for " ++ remotePipeID))
  | some binding =>
    match binding.validate with
    | .error error =>
      .error (.wrap (str "corrupt remote pipe binding for " ++ remotePipeID ++ str ": ") error [])
    | .ok () => .ok binding

/-- The row `PutRemotePipeBinding` writes at the time `now`. -/
def stampBinding (b : RemotePipeBinding) (now : Time) : RemotePipeBinding :=
  { b with
    createdAt := if b.createdAt.isZero then now.utc else b.createdAt,
    updatedAt := now.utc }

/-- `PutRemotePipeBinding`, at the time `now`. -/
def putRemotePipeBinding (s : Store) (b : RemotePipeBinding) (now : Time) :
    Except GoError Store := do
  b.validate
  return { s with
    remotePipeBindings :=
      s.remotePipeBindings.insert b.remotePipeID (stampBinding b now) }

/-! ## The lease cache -/

/-- `GetAccessLeaseCache`, at the time `now`: an expired row is deleted and
reported as absent. -/
def getAccessLeaseCache (s : Store) (remotePipeID : GoString) (now : Time) :
    Except GoError AccessLeaseCache × Store :=
  match s.exactLeaseCache.lookup remotePipeID with
  | none =>
    (.error (.wrap [] errNotFound (str ": access lease cache for " ++ remotePipeID)), s)
  | some cached =>
    if cached.expiresAt.isZero ∨ ¬cached.expiresAt.after now.utc then
      (.error (.wrap [] errNotFound (str ": access lease cache expired for " ++ remotePipeID)),
        { s with exactLeaseCache := s.exactLeaseCache.erase remotePipeID })
    else if cached.remotePipeID = [] ∨ cached.accessLease = [] then
      (.error (errorsNew "corrupt access lease cache"), s)
    else (.ok cached, s)

/-- `PutAccessLeaseCache`. -/
def putAccessLeaseCache (s : Store) (c : AccessLeaseCache) : Except GoError Store := do
  failIf (c.remotePipeID = [] ∨ c.accessLease = [] ∨ c.expiresAt.isZero)
    (errorsNew "invalid access lease cache: missing required fields")
  return { s with
    exactLeaseCache := s.exactLeaseCache.insert c.remotePipeID c }

/-! ## What each transaction leaves alone -/

variable {s after : Store}

theorem putPipe_bindings {spec : PipeSpec} {ownerKey publishGrant : GoString} {inserted : Bool}
    (put : s.putPipe spec ownerKey publishGrant = .ok (inserted, after)) :
    after.remotePipeBindings = s.remotePipeBindings := by
  unfold putPipe at put
  simp only [bind_eq_ok] at put
  obtain ⟨-, -, put⟩ := put
  split at put
  · simp only [bind_eq_ok, failIf_eq_ok] at put
    obtain ⟨-, -, put⟩ := put
    split at put <;> cases put <;> rfl
  · simp only [bind_eq_ok, failIf_eq_ok] at put
    obtain ⟨-, -, put⟩ := put
    cases put
    rfl

/-- If no row has the identifier, none has it as its reference or as its Pipe
identifier. -/
theorem pipe_refused {identifier : GoString} (absent : Refused (s.pipe identifier)) :
    s.pipes.lookup identifier = none ∧ s.pipeIDTaken identifier = false := by
  obtain ⟨error, missing⟩ := absent
  unfold pipe at missing
  split at missing
  · cases missing
  · rename_i none
    simp only [List.find?_eq_none, Bool.or_eq_true, beq_iff_eq, not_or] at none
    constructor
    · rw [AList.lookup_eq_none]
      intro member
      obtain ⟨entry, present, sameKey⟩ := List.mem_map.mp member
      exact (none entry present).1 sameKey
    · grind [pipeIDTaken]

/-- A Pipe whose reference and identifier are new is stored exactly if its
specification is valid. -/
theorem putPipe_new {spec : PipeSpec} (ownerKey publishGrant : GoString)
    (newRef : Refused (s.pipe spec.ref.string)) (newID : Refused (s.pipe spec.pipeID)) :
    Refused (s.putPipe spec ownerKey publishGrant) ↔ Refused spec.validate := by
  have noRow := (pipe_refused newRef).1
  have notTaken := (pipe_refused newID).2
  unfold putPipe
  cases spec.validate with
  | error error => simp [Refused, bind, Except.bind]
  | ok valid =>
    simp [noRow, notTaken, failIf, Refused, bind, Except.bind, pure, Except.pure]

/-- A deleted Pipe had this row, and only its row is gone. -/
theorem deletePipe_eq_ok {ref ownerKey : GoString}
    (deleted : s.deletePipe ref = .ok (ownerKey, after)) :
    ∃ row, s.pipes.lookup ref = some row ∧ row.ownerKeyFile = ownerKey ∧
      after = { s with pipes := s.pipes.erase ref } := by
  grind [deletePipe]

theorem putRemotePipeBinding_eq_ok {b : RemotePipeBinding} {now : Time}
    (put : s.putRemotePipeBinding b now = .ok after) :
    after = { s with
      remotePipeBindings :=
        s.remotePipeBindings.insert b.remotePipeID (stampBinding b now) } := by
  unfold putRemotePipeBinding at put
  simp only [bind_eq_ok] at put
  obtain ⟨-, -, put⟩ := put
  cases put
  rfl

/-- A valid binding is stored. -/
theorem putRemotePipeBinding_of_valid (s : Store) {b : RemotePipeBinding}
    (valid : b.validate = .ok ()) (now : Time) :
    s.putRemotePipeBinding b now = .ok { s with
      remotePipeBindings :=
        s.remotePipeBindings.insert b.remotePipeID (stampBinding b now) } := by
  rw [putRemotePipeBinding, valid]
  rfl

theorem getRemotePipeBinding_eq_ok {remotePipeID : GoString} {binding : RemotePipeBinding}
    (stored : s.getRemotePipeBinding remotePipeID = .ok binding) :
    s.remotePipeBindings.lookup remotePipeID = some binding ∧ binding.validate = .ok () := by
  unfold getRemotePipeBinding at stored
  grind

theorem getAccessLeaseCache_bindings (s : Store) (remotePipeID : GoString) (now : Time) :
    (s.getAccessLeaseCache remotePipeID now).2.remotePipeBindings =
      s.remotePipeBindings := by
  grind [getAccessLeaseCache]

theorem putAccessLeaseCache_eq_ok {c : AccessLeaseCache}
    (put : s.putAccessLeaseCache c = .ok after) :
    after = { s with
      exactLeaseCache := s.exactLeaseCache.insert c.remotePipeID c } := by
  unfold putAccessLeaseCache at put
  simp only [bind_eq_ok] at put
  obtain ⟨-, -, put⟩ := put
  cases put
  rfl

end Store

end Tubo
