import Tubo.ExactPath.Fence
import Tubo.UseCase.Connect

/-!
# The commands of a consumer home

Package `internal/cli`: `accept` and `connect` call the use cases, and
`operations.go` has `App.remove`.

A binding stores the public half of the recipient key, and every renewal loads
the private half from `connect-<pipe>.key`.  The same path is the owner key file
of the local Pipe that `connect` creates, and `rm` deletes the owner key file of
the Pipe it removes.  `recipientKeys_kept_iff` says exactly which runs keep the
two halves together.
-/

namespace Tubo

open Concurrency

variable (prim : Primitives)

/-! ## `rm` -/

/-- The deletion of the owner key in `App.remove`. -/
def cleanupSecret (ref : Ref) (key : GoString) : HomeProgram Ref :=
  if key = [] then .done (.ok ref)
  else
    .call (.removeFile key) fun
      | .ok _ => .done (.ok ref)
      | .error error =>
        if error.is errNotExist then .done (.ok ref)
        else .done (.error (.wrap
          (str "persistence_failed: pipe removed but secret cleanup failed: ")
          error []))

/-- `App.remove` of a Pipe.  The step `settleRun` stands for the checks of the
supervisor and of the recorded run, which is stopped if it is live and `--force`
is given. -/
def removePipe (ref : Ref) (force : Bool) : HomeProgram Ref :=
  .call (.settleRun ref.string force) fun
    | .error error => .done (.error error)
    | .ok _ =>
      .call (.deletePipe ref.string) fun
        | .error error => .done (.error error)
        | .ok (key : GoString) => cleanupSecret ref key

/-- `App.remove`. -/
def remove (raw : GoString) (force : Bool) : HomeProgram Ref :=
  match parseRef raw with
  | .error error => .done (.error error)
  | .ok ref =>
    if ref.kind = .pipe then removePipe ref force
    else if ref.kind = .service then
      .call (.deleteService ref.string) fun
        | .error error => .done (.error error)
        | .ok _ => .done (.ok ref)
    else
      .done (.error (errorsNew
        "invalid_input: rm supports service/<name> or pipe/<name>; see 'tubo rm --help'"))

/-- What a removal with this owner key file does to the bindings and to the key
files. -/
structure Home.Removes (home : Home) (key : GoString) (after : Home) :
    Prop where
  bindings : after.store.remotePipeBindings = home.store.remotePipeBindings
  gone : key ≠ [] → after.keys.lookup key = none
  others : ∀ path, path ≠ key → after.keys.lookup path = home.keys.lookup path

section Removal

variable {env : Surroundings} {raw : GoString} {force : Bool}
  {home after : Home} {ref : Ref}

/-- The owner key file is gone afterwards, whether it was there or not. -/
theorem cleanupSecret_run (env : Surroundings) (ref : Ref) (key : GoString) (home : Home) :
    (cleanupSecret ref key).run (Home.execute env) home =
      (.ok ref, if key = [] then home else (home.removeFile key).2) := by
  unfold cleanupSecret
  split
  · rfl
  · rw [Program.run_call]
    simp only [Home.execute, Home.removeFile]
    cases home.keys.lookup key <;> rfl

theorem Home.removes_cleanup (home : Home) (key : GoString) :
    home.Removes key (if key = [] then home else (home.removeFile key).2) := by
  split
  · rename_i noKey
    exact ⟨rfl, fun present => absurd noKey present, fun _ _ => rfl⟩
  · exact ⟨congrArg Store.remotePipeBindings (home.removeFile_store key),
      fun _ => home.removeFile_lookup key,
      fun _ different => Home.removeFile_lookup_ne different⟩

/-- A successful removal of a Pipe deleted its owner key file. -/
theorem removePipe_run_ok {result : Ref}
    (removed : (removePipe ref force).run (Home.execute env) home = (.ok result, after)) :
    result = ref ∧ ∃ row, home.store.pipes.lookup ref.string = some row ∧
      home.Removes row.ownerKeyFile after := by
  rw [removePipe, Program.run_call] at removed
  cases settled : env.settleRun ref.string force with
  | error error =>
    simp only [Home.execute, settled] at removed
    cases removed
  | ok _ =>
    simp only [Home.execute, settled, Program.run_call] at removed
    cases deleted : home.store.deletePipe ref.string with
    | error error =>
      simp only [Home.transact, deleted, commit] at removed
      cases removed
    | ok outcome =>
      obtain ⟨key, written⟩ := outcome
      obtain ⟨row, present, rfl, rfl⟩ := Store.deletePipe_eq_ok deleted
      simp only [Home.transact, deleted, commit] at removed
      rw [cleanupSecret_run] at removed
      cases removed
      obtain ⟨sameBindings, gone, others⟩ := Home.removes_cleanup
        { home with store :=
          { home.store with pipes := home.store.pipes.erase ref.string } }
        row.ownerKeyFile
      exact ⟨rfl, row, present, sameBindings, gone, others⟩

/-- A successful `rm` removed the Pipe with its owner key file, or left the home
as it was. -/
theorem remove_run_ok (removed : (remove raw force).run (Home.execute env) home =
      (.ok ref, after)) :
    parseRef raw = .ok ref ∧ ((ref.kind ≠ .pipe ∧ after = home) ∨
        (ref.kind = .pipe ∧ ∃ row, home.store.pipes.lookup ref.string =
          some row ∧ home.Removes row.ownerKeyFile after)) := by
  unfold remove at removed
  cases parsed : parseRef raw with
  | error error =>
    rw [parsed] at removed
    cases removed
  | ok found =>
    rw [parsed] at removed
    dsimp only at removed
    split at removed
    · grind [removePipe_run_ok]
    · rename_i notPipe
      split at removed
      · rw [Program.run_call] at removed
        cases settled : env.deleteService found.string with
        | error error =>
          simp only [Home.execute, settled] at removed
          cases removed
        | ok _ =>
          simp only [Home.execute, settled] at removed
          cases removed
          exact ⟨rfl, Or.inl ⟨notPipe, rfl⟩⟩
      · cases removed

end Removal

/-! ## The two halves of a recipient key -/

/-- Every stored binding has the private key of its recipient in the file from
which renewal loads it. -/
def Home.Keyed (secrets : GoString) (home : Home) : Prop :=
  ∀ remotePipeID binding, home.store.remotePipeBindings.lookup remotePipeID = some binding →
    ∃ key : PrivateKey, home.keys.lookup (recipientKeyFile secrets remotePipeID) = some (.ok key) ∧
      key.publicString prim = binding.recipientPublic

/-- The keys that were provisioned so far are in their files. -/
def Home.Provisioned (home : Home) (history : List HomeExchange) : Prop :=
  ∀ path (key : PrivateKey), ⟨.provision path, .ok key⟩ ∈ history →
    home.keys.lookup path = some (.ok key)

section Step

variable {prim} {secrets : GoString} {env : Surroundings}
  {history : List HomeExchange} {command : HomeCommand} {home : Home}

theorem Home.Provisioned.step (provisioned : home.Provisioned history)
    (spares : ∀ path, command ≠ .removeFile path) :
    (Home.execute env command home).2.Provisioned
      (history ++ [⟨command, (Home.execute env command home).1⟩]) := by
  intro path key member
  rcases List.mem_append.mp member with earlier | latest
  · exact Home.execute_lookup (spares path) (provisioned path key earlier)
  · rw [List.mem_singleton] at latest
    injection latest with sameCommand sameResponse
    subst sameCommand
    exact Home.provision_eq_ok (eq_of_heq sameResponse).symm

/-- Storing a binding with a key that is in its file. -/
theorem Home.Keyed.put {b : RemotePipeBinding} {key : PrivateKey} (keyed : home.Keyed prim secrets)
    (present : home.keys.lookup (recipientKeyFile secrets b.remotePipeID) = some (.ok key))
    (matching : b.recipientPublic = key.publicString prim) :
    (Home.execute env (.putRemotePipeBinding b) home).2.Keyed prim
      secrets := by
  cases put : home.store.putRemotePipeBinding b (env.clock home.readings) with
  | error error =>
    simp only [Home.execute, Home.transact, put, Except.map, commit]
    exact keyed
  | ok written =>
    simp only [Home.execute, Home.transact, put, Except.map, commit]
    obtain rfl := Store.putRemotePipeBinding_eq_ok put
    intro remotePipeID binding found
    by_cases same : remotePipeID = b.remotePipeID
    · subst same
      rw [AList.lookup_insert] at found
      obtain rfl := Option.some.inj found
      exact ⟨key, present, matching.symm⟩
    · rw [AList.lookup_insert_ne same] at found
      exact keyed remotePipeID binding found

/-- Every step that a consumer program may take keeps the halves together. -/
theorem Home.Keyed.step (keyed : home.Keyed prim secrets) (provisioned : home.Provisioned history)
    {resolved : Prop} (asks : ConsumerAsks prim secrets resolved history command) :
    (Home.execute env command home).2.Keyed prim secrets := by
  by_cases stores : ∃ b, command = .putRemotePipeBinding b
  · obtain ⟨b, rfl⟩ := stores
    obtain ⟨-, key, member, matching⟩ := asks
    exact keyed.put (provisioned _ key member) matching
  · intro remotePipeID binding found
    rw [Home.execute_bindings (fun b same => stores ⟨b, same⟩)] at found
    obtain ⟨key, present, matching⟩ := keyed remotePipeID binding found
    refine ⟨key, Home.execute_lookup ?_ present, matching⟩
    rintro rfl
    exact asks

/-- A consumer program keeps the halves together, whether it succeeds or not. -/
theorem ConsumerConduct.keyed {α : Type} {program : HomeProgram α}
    {resolved : Prop} (env : Surroundings)
    (conduct : ConsumerConduct prim secrets resolved program []) (keyed : home.Keyed prim secrets) :
    (program.run (Home.execute env) home).2.Keyed prim secrets := by
  refine (Program.Always.run_invariant (Home.execute env)
    (fun history home => home.Keyed prim secrets ∧ home.Provisioned history)
    ?_ conduct ⟨keyed, fun _ _ member => absurd member List.not_mem_nil⟩).1
  intro history command home asks ⟨keyed, provisioned⟩
  refine ⟨keyed.step provisioned asks, provisioned.step ?_⟩
  rintro path rfl
  exact asks

end Step

/-- A removal keeps the halves together exactly if the deleted file is not the
recipient key of a stored binding. -/
theorem Home.Removes.keyed_iff {secrets key : GoString} {home after : Home}
    (removes : home.Removes key after) (keyed : home.Keyed prim secrets) :
    after.Keyed prim secrets ↔ ∀ remotePipeID binding,
        home.store.remotePipeBindings.lookup remotePipeID = some binding →
        key ≠ recipientKeyFile secrets remotePipeID := by
  constructor
  · rintro kept remotePipeID binding found rfl
    rw [← removes.bindings] at found
    obtain ⟨_, present, -⟩ := kept remotePipeID binding found
    rw [removes.gone (recipientKeyFile_ne_nil _ _)] at present
    cases present
  · intro spared remotePipeID binding found
    rw [removes.bindings] at found
    obtain ⟨held, present, matching⟩ := keyed remotePipeID binding found
    grind [Home.Removes.others]

/-! ## Runs of commands -/

/-- A command on a consumer home. -/
inductive ConsumerCall
  | accept (encoded : GoString)
  | connect (input : ConnectExactInput)
  | remove (raw : GoString) (force : Bool)

/-- The command succeeds and leads from one home to the other. -/
def ConsumerCall.Succeeds (u : UseCases) (env : Surroundings)
    (home after : Home) : ConsumerCall → Prop
  | .accept encoded => ∃ accepted,
      (acceptInvite prim u encoded).run (Home.execute env) home = (.ok accepted, after)
  | .connect input => ∃ result,
      (connectExact prim u input).run (Home.execute env) home = (.ok result, after)
  | .remove raw force => ∃ ref,
      (Tubo.remove raw force).run (Home.execute env) home = (.ok ref, after)

/-- The command does not remove a Pipe whose owner key file is the recipient key
of a stored binding. -/
def ConsumerCall.Spares (secrets : GoString) (home : Home) : ConsumerCall → Prop
  | .accept _ => True
  | .connect _ => True
  | .remove raw _ => ∀ ref row remotePipeID binding,
      parseRef raw = .ok ref → ref.kind = .pipe →
      home.store.pipes.lookup ref.string = some row →
      home.store.remotePipeBindings.lookup remotePipeID = some binding →
      row.ownerKeyFile ≠ recipientKeyFile secrets remotePipeID

/-- One command of a run, with its surroundings and the home it leaves. -/
structure ConsumerStep where
  call : ConsumerCall
  env : Surroundings
  after : Home

/-- A run of successful commands. -/
def ConsumerRun (u : UseCases) : Home → List ConsumerStep → Prop
  | _, [] => True
  | home, step :: rest =>
    step.call.Succeeds prim u step.env home step.after ∧ ConsumerRun u step.after rest

/-- Every command of the run spares the recipient keys. -/
def AllSpare (secrets : GoString) : Home → List ConsumerStep → Prop
  | _, [] => True
  | home, step :: rest =>
    step.call.Spares secrets home ∧ AllSpare secrets step.after rest

/-- One command. -/
theorem ConsumerCall.Succeeds.keyed_iff {u : UseCases} {env : Surroundings}
    {home after : Home} {call : ConsumerCall} (succeeds : call.Succeeds prim u env home after)
    (keyed : home.Keyed prim u.secrets) :
    after.Keyed prim u.secrets ↔ call.Spares u.secrets home := by
  cases call with
  | accept encoded =>
    obtain ⟨accepted, ran⟩ := succeeds
    have kept := (acceptInvite_conduct prim u encoded).keyed env keyed
    rw [ran] at kept
    exact iff_of_true kept trivial
  | connect input =>
    obtain ⟨result, ran⟩ := succeeds
    have kept := (connectExact_conduct prim u input).keyed env keyed
    rw [ran] at kept
    exact iff_of_true kept trivial
  | remove raw force =>
    obtain ⟨ref, ran⟩ := succeeds
    obtain ⟨parsed, ⟨notPipe, rfl⟩ | ⟨isPipe, row, present, removes⟩⟩ :=
      remove_run_ok ran
    · refine iff_of_true keyed ?_
      intro found _ _ _ parsedAs isPipe
      grind
    · rw [removes.keyed_iff prim keyed]
      constructor
      · intro spared found other remotePipeID binding parsedAs _ sameRow stored
        grind
      · intro spared remotePipeID binding stored
        exact spared ref row remotePipeID binding parsed isPipe present stored

/-- **Accepted relationships and their keys.**  Along a run of successful
commands from a home in which every binding has its recipient key, every binding
keeps its key exactly if no `rm` removes a Pipe whose owner key file is the
recipient key of a stored binding. -/
theorem recipientKeys_kept_iff {u : UseCases} {start : Home}
    {steps : List ConsumerStep} (keyed : start.Keyed prim u.secrets)
    (runs : ConsumerRun prim u start steps) :
    (∀ step ∈ steps, step.after.Keyed prim u.secrets) ↔ AllSpare u.secrets start steps := by
  induction steps generalizing start with
  | nil => simp [AllSpare]
  | cons step rest ih =>
    obtain ⟨succeeds, later⟩ := runs
    grind [ConsumerCall.Succeeds.keyed_iff, AllSpare]

/-! ## Two runs -/

def recipientKey : PrivateKey := ⟨recipientSecret, rfl⟩

def consumer : UseCases := ⟨str "secrets", dawn⟩

def calm : Surroundings :=
  { clock := fun _ => dawn, freshKey := fun _ => .ok recipientKey,
    acquire := fun _ => .ok (),
    redeem := fun invite _ => .ok (plainLease invite.accessEpoch),
    renew := fun _ => .ok (plainLease 1), deleteService := fun _ => .ok (),
    settleRun := fun _ _ => .ok () }

/-- The step of a run in which the command is played in calm surroundings. -/
def ConsumerCall.played (call : ConsumerCall) (home : Home) : ConsumerStep :=
  ⟨call, calm,
    match call with
    | .accept encoded =>
      ((acceptInvite plain consumer encoded).run (Home.execute calm) home).2
    | .connect input =>
      ((connectExact plain consumer input).run (Home.execute calm) home).2
    | .remove raw force =>
      ((Tubo.remove raw force).run (Home.execute calm) home).2⟩

def tokenInput (name : GoString) : ConnectExactInput :=
  ⟨plainText 1, [], str "127.0.0.1:80", name⟩

def connectedStep : ConsumerStep :=
  (ConsumerCall.connect (tokenInput [])).played {}

def removedStep : ConsumerStep :=
  (ConsumerCall.remove (str "pipe/connect-" ++ plainPipeID) false).played connectedStep.after

theorem Home.keyed_empty (secrets : GoString) : ({} : Home).Keyed prim secrets := by
  intro remotePipeID binding found
  cases found

/-- `connect --token` and then `rm` of the Pipe it created: the binding stays,
its recipient key is gone, and a renewal is refused before it reaches the
authority. -/
theorem recipientKey_removed : ConsumerRun plain consumer {} [connectedStep, removedStep] ∧
      ¬removedStep.after.Keyed plain consumer.secrets ∧
      ∃ binding, removedStep.after.store.getRemotePipeBinding plainPipeID = .ok binding ∧
        Refused ((renewalClient plain consumer.secrets ⟨plainPipeID,
          binding.recipientPublic, binding.ownerBinding⟩).run
            (Home.execute calm) removedStep.after).1 := by
  refine ⟨⟨⟨_, rfl⟩, ⟨_, rfl⟩, trivial⟩, ?_, ⟨_, rfl, _, rfl⟩⟩
  intro keyed
  obtain ⟨key, present, -⟩ := keyed plainPipeID _ rfl
  cases present

def acceptedStep : ConsumerStep :=
  (ConsumerCall.accept (plainText 1)).played {}

def reconnectedStep : ConsumerStep :=
  (ConsumerCall.connect ⟨[], plainPipeID, str "127.0.0.1:80", []⟩).played acceptedStep.after

/-- `accept`, and then `connect --remote`. -/
theorem reconnected_runs : ConsumerRun plain consumer {} [acceptedStep, reconnectedStep] :=
  ⟨⟨_, rfl⟩, ⟨_, rfl⟩, trivial⟩

theorem recipientKeys_kept_iff_reconnected : acceptedStep.after.Keyed plain consumer.secrets ∧
      reconnectedStep.after.Keyed plain consumer.secrets := by
  have kept := (recipientKeys_kept_iff plain
    (Home.keyed_empty plain consumer.secrets) reconnected_runs).mpr ⟨trivial, trivial, trivial⟩
  exact ⟨kept acceptedStep (by simp), kept reconnectedStep (by simp)⟩

end Tubo
