import Tubo.AccessLease.Invite
import Tubo.Store.Growth

/-!
# The `revoke` command

Package `internal/cli`, file `app.go`: `App.revoke`.

The command works in three parts.  It resolves what the user typed to a row of
`revocations` — subject type, scope and identifier —, for an epoch subject it
reads the current epoch and adds one, and it writes the row: in the local
database, or through the authority of a Scope this machine is a member of.
The parts are separate steps on the database, and the forwarded write happens
on another machine.
-/

namespace Tubo

open Concurrency

variable (prim : Primitives)

/-- A step of the command line: a statement on the local database, or a
revocation request to the authority of a Scope. -/
inductive CliCommand
  | store (command : StoreCommand)
  | requestRevoke (scope subjectType subjectJTI : GoString) (epoch : ℕ)

/-- What a step returns. -/
@[reducible]
def CliCommand.Response : CliCommand → Type
  | .store command => command.Response
  | .requestRevoke .. => Except GoError Unit

/-- A command of the command line. -/
abbrev CliProgram (α : Type) :=
  Program CliCommand CliCommand.Response (Except GoError α)

/-- The row a `revoke` command is about. -/
structure RevokeSubject where
  typeName : GoString
  scope : GoString
  id : GoString
  deriving DecidableEq, Repr

/-- The fallback of the resolution: the current Scope. -/
def inCurrentScope (typeName id : GoString) : CliProgram RevokeSubject :=
  .call (.store .currentScope) fun
    | .error error => .done (.error error)
    | .ok (current : GoString) => .done (.ok ⟨typeName, current, id⟩)

/-- `ResolveRevokeInvite` and what the command makes of it: the recorded exact
redemption, or a share in the current Scope. -/
def resolveByEvidence (id : GoString) : CliProgram RevokeSubject :=
  .call (.store (.exactRedemptionPipeForInvite id)) fun
    | .error error => .done (.error (.wrap
        (str "persistence_failed: exact invite resolution: ") error []))
    | .ok (some pipeID : Option GoString) =>
      .done (.ok ⟨exactInviteSubject, pipeID, id⟩)
    | .ok none => inCurrentScope shareInviteSubject id

/-- Resolution of `revoke invite`: the credential itself, or the evidence. -/
def resolveInvite (id : GoString) : CliProgram RevokeSubject :=
  match decodeInvite prim id with
  | .ok invite =>
    if invite.oneTime then
      .done (.ok ⟨exactInviteSubject, invite.audiencePipeID, invite.jti⟩)
    else resolveByEvidence id
  | .error _ => resolveByEvidence id

/-- The scope under which `revoke` files a Pipe named by its reference. -/
def pipeRefScope (spec : PipeSpec) : GoString :=
  match spec.scope with
  | some scope => scope.string
  | none => spec.pipeID

/-- Resolution of the other subjects. -/
def resolvePipe (typeName id : GoString) : CliProgram RevokeSubject :=
  if hasPrefix id (str "pipe/") then
    .call (.store (.pipe id)) fun
      | .error error => .done (.error error)
      | .ok (row : PipeRow) =>
        .done (.ok ⟨typeName, pipeRefScope row.spec, row.spec.pipeID⟩)
  else if hasPrefix id (str "pip_") then .done (.ok ⟨typeName, id, id⟩)
  else inCurrentScope typeName id

/-- Resolution of what the user typed. -/
def resolveSubject (rawType id : GoString) : CliProgram RevokeSubject :=
  if rawType = str "invite" then resolveInvite prim id
  else resolvePipe rawType id

/-- The epoch a revocation is written with. -/
def revokeEpoch (subject : RevokeSubject) : CliProgram ℕ :=
  if subject.typeName = pipeAccess ∨ subject.typeName = pipePublish then
    .call (.store (.revocationEpoch subject.scope subject.typeName subject.id)) fun
      | .error error => .done (.error (.wrap
          (str "persistence_failed: revocation epoch: ") error []))
      | .ok (current : ℕ) => .done (.ok ((current + 1) % uint64Size))
  else .done (.ok 1)

/-- The write: forwarded to the authority if this machine is a member of the
scope, and local otherwise. -/
def writeRevocation (subject : RevokeSubject) (epoch : ℕ) (now : Time) : CliProgram RevokeSubject :=
  .call (.store (.membership subject.scope)) fun
    | .ok (_ : Membership) =>
      .call (.requestRevoke subject.scope subject.typeName subject.id epoch) fun
        | .error error => .done (.error error)
        | .ok () => .done (.ok subject)
    | .error _ =>
      .call (.store (.revoke subject.scope subject.typeName subject.id epoch now)) fun
        | .error error =>
          .done (.error (.wrap (str "persistence_failed: ") error []))
        | .ok (_ : Unit) => .done (.ok subject)

/-- `App.revoke`; the result is what the command reports. -/
def revoke (rawType id : GoString) (now : Time) : CliProgram RevokeSubject :=
  if rawType ≠ str "invite" ∧ rawType ≠ str "session" ∧ rawType ≠ pipeAccess ∧
      rawType ≠ pipePublish then
    .done (.error (errorsNew
      "invalid_input: revoke type must be invite, session, pipe-access, or pipe-publish"))
  else
    (resolveSubject prim rawType id).andThen fun subject =>
      (revokeEpoch subject).andThen fun epoch =>
        writeRevocation subject epoch now

/-! ## The exchanges of the command -/

/-- A step of the command line together with its response. -/
abbrev CliExchange := Exchange CliCommand CliCommand.Response

/-- The subject types whose revocation raises an epoch. -/
def isEpochSubject (typeName : GoString) : Prop :=
  typeName = pipeAccess ∨ typeName = pipePublish

/-- The type of a row is the one the user typed, except for invites, and an epoch
is written only one above the epoch that the command read for the same row. -/
structure EpochRead (rawType : GoString) (history : List CliExchange)
    (scope subjectType subjectJTI : GoString) (epoch : ℕ) : Prop where
  sameType : rawType ≠ str "invite" → subjectType = rawType
  read : isEpochSubject subjectType → ∃ seen, epoch = (seen + 1) % uint64Size ∧
      ⟨.store (.revocationEpoch scope subjectType subjectJTI), .ok seen⟩ ∈
        history

/-- What the command may do after which answers. -/
def RevokeAsks (rawType : GoString) (history : List CliExchange) : CliCommand → Prop
  | .store (.revoke scope subjectType subjectJTI epoch _) =>
    EpochRead rawType history scope subjectType subjectJTI epoch
  | .requestRevoke scope subjectType subjectJTI epoch =>
    EpochRead rawType history scope subjectType subjectJTI epoch
  | _ => True

/-- A reported success rests on a successful write, local or forwarded. -/
def RevokeOwes (history : List CliExchange) (subject : RevokeSubject) : Prop :=
  ∃ epoch, (∃ now, ⟨.store (.revoke subject.scope subject.typeName subject.id epoch
      now), .ok ()⟩ ∈ history) ∨
    ⟨.requestRevoke subject.scope subject.typeName subject.id epoch, .ok ()⟩ ∈ history

/-- Resolution of the fallback and of the evidence, whatever the answers. -/
theorem inCurrentScope_conduct (rawType typeName id : GoString) (history : List CliExchange) :
    (inCurrentScope typeName id).Always (RevokeAsks rawType)
      (Program.OnSuccess fun _ subject => subject.typeName = typeName)
      history := by
  refine ⟨trivial, ?_⟩
  rintro (error | scope)
  · exact Program.Always.failed _ _
  · rintro subject ⟨⟩
    rfl

theorem resolveInvite_conduct (rawType id : GoString) :
    (resolveInvite prim id).Always (RevokeAsks rawType) (fun _ _ => True) [] := by
  have evidence : (resolveByEvidence id).Always (RevokeAsks rawType) (fun _ _ => True) [] := by
    refine ⟨trivial, ?_⟩
    rintro (error | _ | pipeID)
    · trivial
    · exact (inCurrentScope_conduct rawType _ id _).mono fun _ _ _ => trivial
    · trivial
  unfold resolveInvite
  split
  · split
    · trivial
    · exact evidence
  · exact evidence

theorem resolveSubject_conduct (rawType id : GoString) :
    (resolveSubject prim rawType id).Always (RevokeAsks rawType) (Program.OnSuccess fun _ subject =>
        rawType ≠ str "invite" → subject.typeName = rawType) [] := by
  unfold resolveSubject
  split
  · rename_i isInvite
    exact (resolveInvite_conduct prim rawType id).mono
      fun _ _ _ _ _ notInvite => absurd isInvite notInvite
  · unfold resolvePipe
    split
    · refine ⟨trivial, ?_⟩
      rintro (error | row)
      · exact Program.Always.failed _ _
      · rintro subject ⟨⟩ -
        rfl
    · split
      · rintro subject ⟨⟩ -
        rfl
      · grind [inCurrentScope_conduct]

variable {rawType : GoString} {subject : RevokeSubject} {epoch : ℕ} {history : List CliExchange}

theorem revokeEpoch_conduct
    (history : List CliExchange) (sameType : rawType ≠ str "invite" → subject.typeName = rawType) :
    (revokeEpoch subject).Always (RevokeAsks rawType) (Program.OnSuccess fun later epoch =>
        EpochRead rawType later subject.scope subject.typeName subject.id epoch)
      history := by
  unfold revokeEpoch
  split
  · refine ⟨trivial, ?_⟩
    rintro (error | current)
    · exact Program.Always.failed _ _
    · rintro epoch ⟨⟩
      exact ⟨sameType, fun _ => ⟨current, rfl, List.mem_append_right _ (List.mem_singleton_self _)⟩⟩
  · rename_i notEpoch
    exact fun _ _ => ⟨sameType, fun isEpoch => absurd isEpoch notEpoch⟩

theorem EpochRead.later {scope subjectType subjectJTI : GoString}
    (read : EpochRead rawType history scope subjectType subjectJTI epoch) (exchange : CliExchange) :
    EpochRead rawType (history ++ [exchange]) scope subjectType subjectJTI
      epoch := by
  refine ⟨read.sameType, ?_⟩
  grind [EpochRead.read]

theorem writeRevocation_conduct (now : Time)
    (read : EpochRead rawType history subject.scope subject.typeName subject.id epoch) :
    (writeRevocation subject epoch now).Always (RevokeAsks rawType)
      (Program.OnSuccess RevokeOwes) history := by
  refine ⟨trivial, ?_⟩
  rintro (error | membership)
  · refine ⟨read.later _, ?_⟩
    rintro (error | _)
    · exact Program.Always.failed _ _
    · rintro reported ⟨⟩
      exact ⟨epoch, Or.inl ⟨now, List.mem_append_right _ (List.mem_singleton_self _)⟩⟩
  · refine ⟨read.later _, ?_⟩
    rintro (error | _)
    · exact Program.Always.failed _ _
    · rintro reported ⟨⟩
      exact ⟨epoch, Or.inr (List.mem_append_right _ (List.mem_singleton_self _))⟩

/-- **Exchanges of `revoke`.** -/
theorem revoke_conduct (rawType id : GoString) (now : Time) :
    (revoke prim rawType id now).Always (RevokeAsks rawType) (Program.OnSuccess RevokeOwes) [] := by
  unfold revoke Program.andThen
  split
  · exact Program.Always.failed _ _
  · refine Program.Always.bind ((resolveSubject_conduct prim rawType id).mono ?_)
    rintro resolved (error | subject) sameType
    · exact Program.Always.failed _ _
    · refine Program.Always.bind ((revokeEpoch_conduct resolved (sameType subject rfl)).mono ?_)
      rintro computed (error | epoch) read
      · exact Program.Always.failed _ _
      · exact writeRevocation_conduct now (read epoch rfl)

/-! ## The command on one machine -/

section Machine

variable (authority : GoString → GoString → GoString → ℕ → Except GoError Unit)

/-- The steps of a command on one database, with an authority that answers
requests. -/
def executeCli : (c : CliCommand) → Store → c.Response × Store
  | .store command, s => Store.execute command s
  | .requestRevoke scope subjectType subjectJTI epoch, s =>
    (authority scope subjectType subjectJTI epoch, s)

variable {authority} {prim} {s after : Store} {rawType id : GoString}
  {now : Time} {subject : RevokeSubject}

/-- A statement of a command is executed on the database. -/
theorem run_store {α : Type} (command : StoreCommand)
    (next : command.Response → CliProgram α) (s : Store) :
    Program.run (executeCli authority) (.call (.store command) next) s =
      (next (Store.execute command s).1).run (executeCli authority)
        (Store.execute command s).2 := rfl

theorem inCurrentScope_run {typeName : GoString}
    (resolved : (inCurrentScope typeName id).run (executeCli authority) s = (.ok subject, after)) :
    after = s ∧ subject.typeName = typeName ∧ subject.id = id ∧
      s.resolveCurrentScope = .ok subject.scope := by
  rw [inCurrentScope, run_store] at resolved
  simp only [Store.execute] at resolved
  cases current : s.resolveCurrentScope with
  | error error =>
    rw [current] at resolved
    cases resolved
  | ok scope =>
    rw [current] at resolved
    cases resolved
    exact ⟨rfl, rfl, rfl, rfl⟩

/-- Where a Pipe, a session or another identifier is filed. -/
theorem resolvePipe_run {typeName : GoString}
    (resolved : (resolvePipe typeName id).run (executeCli authority) s = (.ok subject, after)) :
    after = s ∧ subject.typeName = typeName ∧
      ((hasPrefix id (str "pipe/") = true ∧ ∃ row, s.pipe id = .ok row ∧
          subject.scope = pipeRefScope row.spec ∧
          subject.id = row.spec.pipeID) ∨
        (hasPrefix id (str "pipe/") = false ∧
          hasPrefix id (str "pip_") = true ∧ subject.scope = id ∧
          subject.id = id) ∨
        (hasPrefix id (str "pipe/") = false ∧ hasPrefix id (str "pip_") = false ∧
          s.resolveCurrentScope = .ok subject.scope ∧
          subject.id = id)) := by
  unfold resolvePipe at resolved
  split at resolved
  · rename_i isRef
    rw [run_store] at resolved
    simp only [Store.execute] at resolved
    cases found : s.pipe id with
    | error error =>
      rw [found] at resolved
      cases resolved
    | ok row =>
      rw [found] at resolved
      cases resolved
      exact ⟨rfl, rfl, Or.inl ⟨isRef, row, rfl, rfl, rfl⟩⟩
  · rename_i noRef
    rw [Bool.not_eq_true] at noRef
    split at resolved
    · rename_i isID
      cases resolved
      exact ⟨rfl, rfl, Or.inr (Or.inl ⟨noRef, isID, rfl, rfl⟩)⟩
    · grind [inCurrentScope_run]

theorem resolveByEvidence_run (resolved : (resolveByEvidence id).run (executeCli authority) s =
      (.ok subject, after)) :
    after = s ∧ ((∃ pipeID, s.exactRedemptionPipeForInvite id = .ok (some pipeID) ∧
          subject = ⟨exactInviteSubject, pipeID, id⟩) ∨
        (s.exactRedemptionPipeForInvite id = .ok none ∧ s.resolveCurrentScope = .ok subject.scope ∧
          subject.typeName = shareInviteSubject ∧ subject.id = id)) := by
  rw [resolveByEvidence, run_store] at resolved
  simp only [Store.execute] at resolved
  rcases found : s.exactRedemptionPipeForInvite id with error | _ | pipeID
  · rw [found] at resolved
    cases resolved
  · grind [inCurrentScope_run]
  · rw [found] at resolved
    cases resolved
    exact ⟨rfl, Or.inl ⟨pipeID, rfl, rfl⟩⟩

/-- Where an invite is filed: as its text says, or by the evidence. -/
theorem resolveInvite_run (resolved : (resolveInvite prim id).run (executeCli authority) s =
      (.ok subject, after)) :
    (after = s ∧ ∃ invite, decodeInvite prim id = .ok invite ∧
        subject = ⟨exactInviteSubject, invite.audiencePipeID, invite.jti⟩) ∨
      (resolveByEvidence id).run (executeCli authority) s = (.ok subject, after) := by
  unfold resolveInvite at resolved
  cases decoded : decodeInvite prim id with
  | error error =>
    rw [decoded] at resolved
    exact Or.inr resolved
  | ok invite =>
    rw [decoded] at resolved
    dsimp only at resolved
    split at resolved
    · cases resolved
      exact Or.inl ⟨rfl, invite, rfl, rfl⟩
    · exact Or.inr resolved

/-- Resolution only reads. -/
theorem resolveSubject_run_state
    (resolved : (resolveSubject prim rawType id).run (executeCli authority) s =
      (.ok subject, after)) : after = s := by
  unfold resolveSubject at resolved
  split at resolved
  · rcases resolveInvite_run resolved with ⟨unchanged, -⟩ | byEvidence
    · exact unchanged
    · exact (resolveByEvidence_run byEvidence).1
  · exact (resolvePipe_run resolved).1

/-- The epoch is one above the stored one for epoch subjects, and one for the
others. -/
theorem revokeEpoch_run {epoch : ℕ} (computed : (revokeEpoch subject).run (executeCli authority) s =
      (.ok epoch, after)) :
    after = s ∧ epoch = if subject.typeName = pipeAccess ∨ subject.typeName = pipePublish
        then (s.revocationEpoch subject.scope subject.typeName subject.id + 1) %
          uint64Size
        else 1 := by
  unfold revokeEpoch at computed
  split at computed
  · rename_i isEpoch
    cases computed
    exact ⟨rfl, (if_pos isEpoch).symm⟩
  · rename_i noEpoch
    cases computed
    exact ⟨rfl, (if_neg noEpoch).symm⟩

/-- The write is forwarded by a member of the scope, and local otherwise. -/
theorem writeRevocation_run {epoch : ℕ} {reported : RevokeSubject}
    (written : (writeRevocation subject epoch now).run (executeCli authority)
      s = (.ok reported, after)) :
    reported = subject ∧ ((s.memberships.lookup subject.scope ≠ none ∧ after = s) ∨
        s.revoke subject.scope subject.typeName subject.id epoch now = .ok after) := by
  rw [writeRevocation, run_store] at written
  cases member : s.memberships.lookup subject.scope with
  | some row =>
    simp only [Store.execute, Store.membership, member, Program.run_call, executeCli] at written
    cases answer : authority subject.scope subject.typeName subject.id epoch with
    | error error =>
      rw [answer] at written
      cases written
    | ok _ =>
      rw [answer] at written
      cases written
      exact ⟨rfl, Or.inl ⟨by simp, rfl⟩⟩
  | none =>
    simp only [Store.execute, Store.membership, member] at written
    rw [run_store] at written
    simp only [Store.execute] at written
    cases outcome : s.revoke subject.scope subject.typeName subject.id epoch now with
    | error error =>
      rw [outcome] at written
      cases written
    | ok stored =>
      rw [outcome] at written
      cases written
      exact ⟨rfl, Or.inr rfl⟩

/-- **Inversion of `revoke`.**  A success resolved the subject, and wrote its
row in the local database unless a membership forwards it. -/
theorem revoke_run (succeeded : (revoke prim rawType id now).run (executeCli authority) s =
      (.ok subject, after)) :
    (resolveSubject prim rawType id).run (executeCli authority) s = (.ok subject, s) ∧
      ((s.memberships.lookup subject.scope ≠ none ∧ after = s) ∨
        s.revoke subject.scope subject.typeName subject.id
          (if subject.typeName = pipeAccess ∨ subject.typeName = pipePublish
            then (s.revocationEpoch subject.scope subject.typeName subject.id + 1) % uint64Size
            else 1) now = .ok after) := by
  unfold revoke at succeeded
  split at succeeded
  · cases succeeded
  · obtain ⟨found, middle, resolved, rest⟩ :=
      (Program.run_andThen_eq_ok _).mp succeeded
    obtain rfl := resolveSubject_run_state resolved
    obtain ⟨epoch, last, computed, written⟩ :=
      (Program.run_andThen_eq_ok _).mp rest
    obtain ⟨rfl, rfl⟩ := revokeEpoch_run computed
    obtain ⟨rfl, stored⟩ := writeRevocation_run written
    exact ⟨resolved, stored⟩

/-- On a machine without memberships the write is local. -/
theorem revoke_run_alone (alone : s.memberships = ∅)
    (succeeded : (revoke prim rawType id now).run (executeCli authority) s = (.ok subject, after)) :
    (resolveSubject prim rawType id).run (executeCli authority) s = (.ok subject, s) ∧
      s.revoke subject.scope subject.typeName subject.id
        (if subject.typeName = pipeAccess ∨ subject.typeName = pipePublish
          then (s.revocationEpoch subject.scope subject.typeName subject.id + 1) % uint64Size
          else 1) now = .ok after := by
  obtain ⟨resolved, ⟨member, -⟩ | written⟩ := revoke_run succeeded
  · rw [alone] at member
    exact absurd rfl member
  · exact ⟨resolved, written⟩

/-- A successful epoch revocation raises the epoch of its row by one. -/
theorem revoke_run_epoch (alone : s.memberships = ∅)
    (succeeded : (revoke prim rawType id now).run (executeCli authority) s = (.ok subject, after))
    (isEpoch : subject.typeName = pipeAccess ∨ subject.typeName = pipePublish) :
    after.revocationEpoch subject.scope subject.typeName subject.id =
      s.revocationEpoch subject.scope subject.typeName subject.id + 1 := by
  obtain ⟨-, written⟩ := revoke_run_alone alone succeeded
  rw [if_pos isEpoch] at written
  rw [Store.revoke_revocationEpoch_self written]
  obtain ⟨positive, bound, -⟩ := Store.revoke_eq_ok written
  -- An epoch that wrapped around would be zero, and rejected.
  unfold uint64Size at *
  omega

end Machine

end Tubo
