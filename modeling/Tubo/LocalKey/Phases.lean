import Tubo.LocalKey.Provision

/-!
# The phases of a call of `Provision`

A call is outside, has the lock file open, holds the lock in some stage, is on its
way out, or is finished.  `phases` is the automaton, and `provision_obeys` says
that `provision` follows it, whatever the file system answers.
-/

namespace Tubo

open Concurrency

namespace LocalKey

variable (keyFromSeed : Bytes → Bytes)

/-! ## Phases -/

/-- How far a call is while it holds the lock. -/
inductive Stage
  | entered
  | missing
  | found (file : ℕ)
  | loaded (key : Bytes)
  | generated (key : Bytes)
  | created (suffix : GoString) (file : ℕ) (key : Bytes)
  | written (suffix : GoString) (file : ℕ) (key : Bytes)
  | published (file : ℕ) (key : Bytes)
  | confirmed (key : Bytes)
  | failed
  deriving DecidableEq

/-- The key that a call will return. -/
def Stage.result : Stage → Option Bytes
  | .loaded key | .confirmed key => some key
  | _ => none

/-- Where a call is. -/
inductive Phase
  | outside
  | opened (lock : ℕ)
  | holding (lock : ℕ) (stage : Stage)
  | leaving (lock : ℕ) (result : Option Bytes)
  | finished (result : Option Bytes)
  deriving DecidableEq

/-- The lock that a call has. -/
def Phase.lock : Phase → Option ℕ
  | .holding lock _ | .leaving lock _ => some lock
  | _ => none

def Phase.result : Phase → Option Bytes
  | .holding _ stage => stage.result
  | .leaving _ result | .finished result => result
  | _ => none

/-- What a call may do inside, by its stage. -/
def Stage.permits : Stage → FileCommand → Prop
  | .entered, .lstatKey | .entered, .openKey => True
  | .found file, .stat other => other = file
  | .found file, .readAll other limit =>
    other = file ∧ limit = encodedPrivateKeyLen + 1
  | .missing, .generateKey => True
  | .generated _, .randomSuffix | .generated _, .createTemporary _ => True
  | .created _ file key, .write other data =>
    other = file ∧ data = rawURLEncode key
  | .written .., .sync _ | .written .., .close _ => True
  | .written suffix _ _, .link other => other = suffix
  | .published .., .remove (.temporary _) | .published .., .syncDir => True
  | .published .., .remove .key => True
  | .failed, .remove (.temporary _) | .failed, .syncDir => True
  | _, _ => False

/-- The stage after a missing file or another error. -/
def Stage.afterError (error : GoError) : Stage :=
  if error.is errNotExist then .missing else .failed

/-- The next stage. -/
def Stage.next : Stage → (c : FileCommand) → c.Response → Stage
  | .entered, .lstatKey, .error error => .afterError error
  | .entered, .lstatKey, .ok info =>
    match checkFileInfo info with
    | .error _ => .failed
    | .ok () => .entered
  | .entered, .openKey, .error error =>
    .afterError (openError error "key file is symlink")
  | .entered, .openKey, .ok file => .found file
  | .found _, .stat _, .error _ => .failed
  | .found file, .stat _, .ok info =>
    match checkFileInfo info with
    | .error _ => .failed
    | .ok () => .found file
  | .found _, .readAll .., .error _ => .failed
  | .found _, .readAll .., .ok data =>
    match parseCanonicalPrivate keyFromSeed data with
    | .error _ => .failed
    | .ok key => .loaded key
  | .missing, .generateKey, .error _ => .failed
  | .missing, .generateKey, .ok key => .generated key
  | .generated _, .randomSuffix, .error _ => .failed
  | .generated key, .randomSuffix, .ok _ => .generated key
  | .generated _, .createTemporary _, .error _ => .failed
  | .generated key, .createTemporary suffix, .ok file => .created suffix file key
  | .created .., .write .., .error _ => .failed
  | .created suffix file key, .write .., .ok () => .written suffix file key
  | .written .., .sync _, .error _ => .failed
  | .written .., .close _, .error _ => .failed
  | .written .., .link _, .error _ => .failed
  | .written _ file key, .link _, .ok () => .published file key
  | .published _ key, .syncDir, .ok () => .confirmed key
  | .published .., .remove .key, _ => .failed
  | stage, _, _ => stage

/-- The automaton of a call. -/
def phases : Protocol FileCommand FileCommand.Response where
  State := Phase
  permits
    | .outside, .secureDir | .outside, .openLock => True
    | .opened lock, .stat file => file = lock
    | .opened lock, .flock file => file = lock
    | .holding _ _, .remove .lock => True
    | .holding _ stage, command => stage.permits command
    | .leaving lock _, .unlock file => file = lock
    | _, _ => False
  expects
    | .stat _, .error error | .readAll .., .error error =>
      error.is errNotExist = false
    | _, _ => True
  next
    | .outside, .openLock, .ok file => .opened file
    | .opened lock, .flock _, .ok () => .holding lock .entered
    | .holding lock stage, .remove .lock, _ => .leaving lock stage.result
    | .holding lock stage, command, response =>
      .holding lock (stage.next keyFromSeed command response)
    | .leaving _ result, .unlock _, _ => .finished result
    | phase, _, _ => phase

/-! ## Calls follow their phases -/

/-- What a call owes at its end: a key it returns is the result of its phase. -/
def Owes (phase : Phase) (value : Except GoError Bytes) : Prop :=
  ∀ key, value = .ok key → phase = .finished (some key)

theorem afterError_result (error : GoError) : (Stage.afterError error).result = none := by
  unfold Stage.afterError
  split <;> rfl

theorem checkFileInfo_error {info : FileInfo} {error : GoError}
    (refused : checkFileInfo info = .error error) : error.is errNotExist = false := by
  simp only [checkFileInfo, bind_eq_error, failIf_eq_error] at refused
  rcases refused with ⟨-, rfl⟩ | ⟨_, -, ⟨-, rfl⟩ | ⟨_, -, ⟨-, rfl⟩ | ⟨_, -,
    ⟨-, rfl⟩ | ⟨_, -, -, rfl⟩⟩⟩⟩ <;> rfl

theorem parseCanonicalPrivate_error {data : Bytes} {error : GoError}
    (refused : parseCanonicalPrivate keyFromSeed data = .error error) :
    error.is errNotExist = false := by
  simp only [parseCanonicalPrivate, bind_eq_error, failIf_eq_error] at refused
  rcases refused with ⟨-, rfl⟩ | ⟨_, -, ⟨-, rfl⟩ | ⟨_, -, ⟨-, rfl⟩ |
    ⟨_, -, refused⟩⟩⟩
  · rfl
  · rfl
  · rfl
  split at refused
  · cases refused
    rfl
  · simp only [bind_eq_error, failIf_eq_error] at refused
    rcases refused with ⟨-, rfl⟩ | ⟨_, -, ⟨-, rfl⟩ | ⟨_, -, ⟨-, rfl⟩ | ⟨_, -, impossible⟩⟩⟩
    · rfl
    · rfl
    · rfl
    · cases impossible

/-- After `Load` a call has the key, or knows that there was none, or will fail. -/
theorem load_obeys (lock : ℕ) : (load keyFromSeed).Obeys (phases keyFromSeed)
      (fun phase value => ∃ stage, phase = .holding lock stage ∧
        match value with
        | .ok key => stage = .loaded key
        | .error error =>
          (error.is errNotExist = true → stage = .missing) ∧ stage.result = none)
      (.holding lock .entered) := by
  have missing : ∀ error : GoError, error.is errNotExist = true →
      Stage.afterError error = .missing := by
    intro error isMissing
    rw [Stage.afterError, if_pos isMissing]
  have refused : ∀ error : GoError, error.is errNotExist = false →
      (error.is errNotExist = true → Stage.failed = .missing) ∧ Stage.failed.result = none := by
    intro error present
    rw [present]
    exact ⟨nofun, rfl⟩
  refine ⟨trivial, ?_⟩
  rintro (error | info) -
  · exact ⟨_, rfl, missing error, afterError_result error⟩
  have next : (phases keyFromSeed).next (.holding lock .entered) .lstatKey
      (.ok info) = .holding lock (match checkFileInfo info with
        | .error _ => .failed | .ok () => .entered) := rfl
  rw [next]
  dsimp only
  cases checked : checkFileInfo info with
  | error error => exact ⟨_, rfl, refused _ (checkFileInfo_error checked)⟩
  | ok valid =>
    refine ⟨trivial, ?_⟩
    rintro (error | file) -
    · exact ⟨_, rfl, missing _, afterError_result _⟩
    refine ⟨rfl, ?_⟩
    rintro (error | opened) expected
    · exact ⟨_, rfl, refused _ expected⟩
    have next : (phases keyFromSeed).next (.holding lock (.found file))
        (.stat file) (.ok opened) = .holding lock (match checkFileInfo opened with
          | .error _ => .failed | .ok () => .found file) := rfl
    rw [show (phases keyFromSeed).next (.holding lock .entered) .openKey
      (.ok file) = .holding lock (.found file) from rfl, next]
    dsimp only
    cases checked : checkFileInfo opened with
    | error error => exact ⟨_, rfl, refused _ (checkFileInfo_error checked)⟩
    | ok valid =>
      refine ⟨⟨rfl, rfl⟩, ?_⟩
      rintro (error | data) expected
      · exact ⟨_, rfl, refused _ expected⟩
      refine ⟨match parseCanonicalPrivate keyFromSeed data with
        | .error _ => .failed | .ok key => .loaded key, rfl, ?_⟩
      grind [parseCanonicalPrivate_error]

theorem confirmPublished_obeys (lock file : ℕ) (suffix : GoString) (key : Bytes) :
    (confirmPublished suffix).Obeys (phases keyFromSeed)
      (fun phase value => ∃ stage, phase = .holding lock stage ∧
        (value = .ok () → stage = .confirmed key) ∧
        (value ≠ .ok () → stage.result = none))
      (.holding lock (.published file key)) := by
  refine ⟨trivial, ?_⟩
  rintro (error | ⟨⟩) -
  · refine ⟨trivial, fun _ _ => ⟨trivial, fun _ _ => ?_⟩⟩
    exact ⟨_, rfl, nofun, fun _ => rfl⟩
  refine ⟨trivial, ?_⟩
  rintro (error | ⟨⟩) -
  · refine ⟨trivial, fun _ _ => ⟨trivial, fun _ _ => ⟨trivial, ?_⟩⟩⟩
    rintro (_ | ⟨⟩) - <;> exact ⟨_, rfl, nofun, fun _ => rfl⟩
  · exact ⟨_, rfl, fun _ => rfl, fun failed => absurd rfl failed⟩

theorem abandon_obeys (lock : ℕ) (suffix : GoString) (error : GoError) :
    (abandon suffix error).Obeys (phases keyFromSeed)
      (fun phase value => phase = .holding lock .failed ∧ value = .error error)
      (.holding lock .failed) :=
  ⟨trivial, fun _ _ => ⟨rfl, rfl⟩⟩

/-- After `writeDurableNoClobber` a call has confirmed the key, or will fail. -/
theorem writeDurableNoClobber_obeys (lock : ℕ) (key : Bytes) :
    (writeDurableNoClobber key).Obeys (phases keyFromSeed)
      (fun phase value => ∃ stage, phase = .holding lock stage ∧
        (value = .ok () → stage = .confirmed key) ∧
        (value ≠ .ok () → stage.result = none))
      (.holding lock (.generated key)) := by
  have abandoned : ∀ suffix error, (abandon suffix error).Obeys
      (phases keyFromSeed) (fun phase value => ∃ stage,
        phase = .holding lock stage ∧ (value = .ok () → stage = .confirmed key) ∧
        (value ≠ .ok () → stage.result = none)) (.holding lock .failed) := by
    intro suffix error
    refine (abandon_obeys keyFromSeed lock suffix error).mono ?_
    rintro phase value ⟨rfl, rfl⟩
    exact ⟨_, rfl, nofun, fun _ => rfl⟩
  refine ⟨trivial, ?_⟩
  rintro (error | suffix) -
  · exact ⟨_, rfl, nofun, fun _ => rfl⟩
  refine ⟨trivial, ?_⟩
  rintro (error | file) -
  · exact ⟨_, rfl, nofun, fun _ => rfl⟩
  refine ⟨⟨rfl, rfl⟩, ?_⟩
  rintro (error | ⟨⟩) -
  · exact abandoned _ _
  refine ⟨trivial, ?_⟩
  rintro (error | ⟨⟩) -
  · exact abandoned _ _
  refine ⟨trivial, ?_⟩
  rintro (error | ⟨⟩) -
  · exact abandoned _ _
  refine ⟨rfl, ?_⟩
  rintro (error | ⟨⟩) -
  · exact abandoned _ _
  exact confirmPublished_obeys keyFromSeed lock file suffix key

theorem provisionLocked_obeys (lock : ℕ) : (provisionLocked keyFromSeed).Obeys (phases keyFromSeed)
      (fun phase value => ∃ stage, phase = .holding lock stage ∧
        ∀ key, value = .ok key → stage.result = some key)
      (.holding lock .entered) := by
  refine Program.Obeys.bind ((load_obeys keyFromSeed lock).mono ?_)
  rintro phase (error | key) ⟨stage, rfl, established⟩
  · dsimp only at established ⊢
    split
    · exact ⟨_, rfl, nofun⟩
    rename_i isMissing
    rw [established.1 (by simpa using isMissing)]
    refine ⟨trivial, ?_⟩
    rintro (error | key) -
    · exact ⟨_, rfl, nofun⟩
    refine Program.Obeys.bind ((writeDurableNoClobber_obeys keyFromSeed lock key).mono ?_)
    rintro phase (error | ⟨⟩) ⟨stage, rfl, confirmed, -⟩
    · exact ⟨_, rfl, nofun⟩
    · refine ⟨_, rfl, ?_⟩
      rintro _ same
      cases same
      rw [confirmed rfl]
      rfl
  · refine ⟨_, rfl, ?_⟩
    rintro _ same
    cases same
    rw [established]
    rfl

theorem provision_obeys : (provision keyFromSeed).Obeys (phases keyFromSeed) Owes .outside := by
  refine ⟨trivial, ?_⟩
  rintro (error | ⟨⟩) -
  · exact nofun
  refine Program.Obeys.bind ⟨trivial, ?_⟩
  rintro (error | file) -
  · exact nofun
  refine ⟨rfl, ?_⟩
  rintro (error | info) -
  · exact nofun
  dsimp only
  split
  · exact nofun
  refine ⟨rfl, ?_⟩
  rintro (error | ⟨⟩) -
  · exact nofun
  refine Program.Obeys.bind ((provisionLocked_obeys keyFromSeed file).mono ?_)
  rintro phase value ⟨stage, rfl, returns⟩
  refine ⟨trivial, fun _ _ => ⟨rfl, fun _ _ key same => ?_⟩⟩
  show Phase.finished stage.result = _
  rw [returns key same]

end LocalKey

end Tubo
