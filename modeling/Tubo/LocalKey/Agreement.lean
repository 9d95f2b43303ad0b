import Tubo.LocalKey.Phases

/-!
# Agreement on a key

`Provision` serializes behind a lock file, but removes the lock file when it is
done.  A call that was waiting gets a lock that nobody else will ever look at, and
the next call creates a new lock file.  Two calls are then inside, one of them
reads the key that the other is still publishing, and if that other fails, it
withdraws a key that was already returned (`provision_disagrees`).

In runs in which every lock is granted on the file that is at the lock path, the
calls agree (`provision_agrees`), whatever fails.

`Consistent` relates the phases of all calls to the directory; every step keeps it
(`Consistent.step`).
-/

namespace Tubo

open Concurrency

namespace LocalKey

variable (keyFromSeed : Bytes → Bytes)

/-! ## The directory and the phases -/

/-- The key is at its path, in this file. -/
def Directory.Has (d : Directory) (file : ℕ) (key : Bytes) : Prop :=
  d.entries .key = some file ∧ (d.files file).content = rawURLEncode key

/-- What a stage says about the directory. -/
def Stage.Holds (d : Directory) : Stage → Prop
  | .missing | .generated _ => d.entries .key = none
  | .found file => d.entries .key = some file
  | .created suffix file _ => d.entries .key = none ∧
      d.entries (.temporary suffix) = some file ∧ (d.files file).content = []
  | .written suffix file key => d.entries .key = none ∧
      d.entries (.temporary suffix) = some file ∧
      (d.files file).content = rawURLEncode key
  | .published file key => d.Has file key
  | _ => True

/-- A published key is not confirmed yet. -/
def Stage.isPublished : Stage → Bool
  | .published .. => true
  | _ => false

/-- **The invariant.**  A lock belongs to one call; whoever is inside has the lock
at the lock path; a key that is or will be returned is at the key path; and while
a key waits for its confirmation, no call has a key to return. -/
structure Consistent (d : Directory) (q : ℕ → Phase) : Prop where
  locked : ∀ t lock, (q t).lock = some lock → d.locked lock = true
  alone : ∀ t u lock, (q t).lock = some lock → (q u).lock = some lock → t = u
  current : ∀ t lock stage, q t = .holding lock stage → d.entries .lock = some lock
  results : ∀ t key, (q t).result = some key → ∃ file, d.Has file key
  stages : ∀ t lock stage, q t = .holding lock stage → stage.Holds d
  published : ∀ t lock stage, q t = .holding lock stage →
    stage.isPublished = true → ∀ u, (q u).result = none

namespace Consistent

variable {d after : Directory} {q : ℕ → Phase} {t : ℕ} {lock : ℕ} {stage : Stage}

section

variable (consistent : Consistent d q)

include consistent

/-- At most one call is inside. -/
theorem exclusive (here : q t = .holding lock stage) {u other : ℕ} {stage' : Stage}
    (there : q u = .holding other stage') : u = t := by
  have same := consistent.current u other stage' there
  rw [consistent.current t lock stage here, Option.some_inj] at same
  subst same
  exact consistent.alone u t lock (by rw [there]; rfl) (by rw [here]; rfl)

/-- Without a key file no call has a key to return. -/
theorem noResults (missing : d.entries .key = none) (u : ℕ) : (q u).result = none := by
  cases found : (q u).result with
  | none => rfl
  | some key =>
    obtain ⟨file, isFile, -⟩ := consistent.results u key found
    rw [missing] at isFile
    cases isFile

/-- A call that has neither a lock nor a key changes its phase. -/
theorem aside {phase : Phase} (noLock : phase.lock = none) (noResult : phase.result = none) :
    Consistent d (Function.update q t phase) := by
  have outside : ∀ lock stage, phase ≠ .holding lock stage := by
    rintro lock stage rfl
    cases noLock
  obtain ⟨locked, alone, current, results, stages, published⟩ := consistent
  constructor <;> grind [Function.update_apply]

/-- A call that is inside does a step. -/
theorem inside (here : q t = .holding lock stage)
    (stage' : Stage) (sameLock : after.entries .lock = d.entries .lock)
    (sameLocked : after.locked = d.locked) (holds : stage'.Holds after) (results : ∀ u key,
      (Function.update q t (.holding lock stage') u).result = some key →
      ∃ file, after.Has file key)
    (published : stage'.isPublished = true → ∀ u,
      (Function.update q t (.holding lock stage') u).result = none) :
    Consistent after (Function.update q t (.holding lock stage')) := by
  have only : ∀ {u other st}, Function.update q t (.holding lock stage') u = .holding other st →
      u = t ∧ other = lock ∧ st = stage' := by
    intro u other st isHolding
    by_cases same : u = t
    · grind
    · rw [Function.update_of_ne same] at isHolding
      exact absurd (consistent.exclusive here isHolding) same
  have locks : ∀ u, (Function.update q t (.holding lock stage') u).lock = (q u).lock := by
    grind [Function.update_apply, Phase.lock]
  obtain ⟨locked, alone, current, -, -, -⟩ := consistent
  exact ⟨by grind, by grind, by grind, results, by grind, by grind⟩

/-- A call that is inside changes its stage only. -/
theorem stay (here : q t = .holding lock stage)
    (stage' : Stage) (holds : stage'.Holds d) (noResult : stage'.result = none)
    (notPublished : stage'.isPublished = false) :
    Consistent d (Function.update q t (.holding lock stage')) := by
  refine consistent.inside here _ rfl rfl holds ?_ (by simp [notPublished])
  have results := consistent.results
  grind [Function.update_apply, Phase.result]

/-- A call that is inside and has nothing to return works on files that nobody
returns. -/
theorem work (here : q t = .holding lock stage)
    (stage' : Stage) (sameLock : after.entries .lock = d.entries .lock)
    (sameLocked : after.locked = d.locked)
    (holds : stage'.Holds after) (noResult : stage'.result = none)
    (nobody : ∀ u, (q u).result = none) :
    Consistent after (Function.update q t (.holding lock stage')) := by
  have none : ∀ u, (Function.update q t (.holding lock stage') u).result = none := by
    grind [Function.update_apply, Phase.result]
  exact consistent.inside here _ sameLock sameLocked holds (by grind) fun _ => none

end

end Consistent

theorem attempt_eq_some {α : Type} {input : FileInput} {d after : Directory}
    {otherwise : Option (Except GoError α × Directory)} {response : Except GoError α}
    (ran : attempt input d otherwise = some (response, after)) :
    (∃ error, response = .error error ∧ error.is errNotExist = false ∧
      after = d) ∨ otherwise = some (response, after) := by
  unfold attempt at ran
  grind

section Steps

variable {keyFromSeed} {d after : Directory} {q : ℕ → Phase} {t lock : ℕ}
  {stage : Stage} {input : FileInput}

theorem openError_present {error : GoError} (present : error.is errNotExist = false)
    (text : String) : (openError error text).is errNotExist = false := by
  unfold openError
  split
  · rfl
  · exact present

theorem afterError_of_present {error : GoError} (present : error.is errNotExist = false) :
    Stage.afterError error = .failed := by
  rw [Stage.afterError, present]
  rfl

variable {c : FileCommand} {response : c.Response} {file : ℕ}

/-- Looking for the key file. -/
theorem Consistent.looks (consistent : Consistent d q) (here : q t = .holding lock .entered)
    (permitted : Stage.entered.permits c)
    (ran : execute keyFromSeed input c d = some (response, after)) :
    Consistent after (Function.update q t
      (.holding lock (Stage.entered.next keyFromSeed c response))) := by
  have failed := consistent.stay here .failed trivial rfl rfl
  have entered := consistent.stay here .entered trivial rfl rfl
  cases c with
  | lstatKey =>
    rcases attempt_eq_some ran with ⟨error, rfl, present, rfl⟩ | found
    · show Consistent _ (Function.update q t (.holding lock (Stage.afterError error)))
      rw [afterError_of_present present]
      exact failed
    split at found
    · grind [Stage.next]
    · rename_i missing
      cases found
      exact consistent.stay here .missing missing rfl rfl
  | openKey =>
    rcases attempt_eq_some ran with ⟨error, rfl, present, rfl⟩ | found
    · show Consistent _ (Function.update q t (.holding lock
        (Stage.afterError (openError error "key file is symlink"))))
      rw [afterError_of_present (openError_present present _)]
      exact failed
    split at found
    · rename_i file isFile
      split at found
      · cases found
        exact failed
      · cases found
        exact consistent.stay here (.found file) isFile rfl rfl
    · rename_i missing
      cases found
      exact consistent.stay here .missing missing rfl rfl
  | _ => exact permitted.elim

/-- Reading the key file. -/
theorem Consistent.reads (consistent : Consistent d q) (here : q t = .holding lock (.found file))
    (permitted : (Stage.found file).permits c)
    (ran : execute keyFromSeed input c d = some (response, after)) :
    Consistent after (Function.update q t
      (.holding lock ((Stage.found file).next keyFromSeed c response))) := by
  have isKey : d.entries .key = some file := consistent.stages t lock _ here
  have failed := consistent.stay here .failed trivial rfl rfl
  cases c with
  | stat other =>
    rcases attempt_eq_some ran with ⟨error, rfl, -, rfl⟩ | found
    · exact failed
    cases found
    dsimp only [Stage.next]
    split
    · exact failed
    · exact consistent.stay here (.found file) isKey rfl rfl
  | readAll other limit =>
    obtain ⟨rfl, rfl⟩ := permitted
    rcases attempt_eq_some ran with ⟨error, rfl, -, rfl⟩ | found
    · exact failed
    cases found
    dsimp only [Stage.next]
    split
    · exact failed
    rename_i key parsed
    obtain ⟨size, same⟩ := parseCanonicalPrivate_eq_ok keyFromSeed parsed
    -- One byte more than a key was asked for, so nothing was cut off.
    have whole : (d.files other).content.take (encodedPrivateKeyLen + 1) =
        (d.files other).content := by
      rw [List.length_take] at size
      exact List.take_of_length_le (by omega)
    have isThere : d.Has other key := ⟨isKey, by rw [same, whole]⟩
    have results := consistent.results
    refine consistent.inside here _ rfl rfl trivial ?_ nofun
    grind [Function.update_apply, Phase.result, Stage.result]
  | _ => exact permitted.elim

/-- Generating a key and writing it to a temporary file. -/
theorem Consistent.writes (consistent : Consistent d q) (here : q t = .holding lock stage)
    (unwritten : stage = .missing ∨ (∃ key, stage = .generated key) ∨
      (∃ suffix file key, stage = .created suffix file key))
    (permitted : stage.permits c) (ran : execute keyFromSeed input c d = some (response, after)) :
    Consistent after (Function.update q t (.holding lock (stage.next keyFromSeed c response))) := by
  have failed := consistent.stay here .failed trivial rfl rfl
  have holds := consistent.stages t lock stage here
  obtain rfl | ⟨key, rfl⟩ | ⟨suffix, file, key, rfl⟩ := unwritten
  · cases c with
    | generateKey =>
      rcases attempt_eq_some ran with ⟨error, rfl, -, rfl⟩ | found
      · exact failed
      split at found
      · cases found
        exact consistent.stay here (.generated _) holds rfl rfl
      · cases found
    | _ => exact permitted.elim
  · cases c with
    | randomSuffix =>
      rcases attempt_eq_some ran with ⟨error, rfl, -, rfl⟩ | found
      · exact failed
      split at found
      · cases found
        exact consistent.stay here (.generated key) holds rfl rfl
      · cases found
    | createTemporary suffix =>
      rcases attempt_eq_some ran with ⟨error, rfl, -, rfl⟩ | found
      · exact failed
      split at found
      · cases found
        exact failed
      cases found
      refine consistent.work here (.created suffix d.used key) ?_ rfl ?_ rfl
        (consistent.noResults holds)
      · exact d.create_of_ne _ (by simp)
      · refine ⟨(d.create_of_ne _ (by simp)).trans holds, d.create_self _, ?_⟩
        rw [d.create_file]
    | _ => exact permitted.elim
  · obtain ⟨missing, isTemporary, isEmpty⟩ := holds
    have nobody := consistent.noResults missing
    cases c with
    | write other data =>
      obtain ⟨rfl, rfl⟩ := permitted
      simp only [execute] at ran
      split at ran
      · cases ran
        exact consistent.work here .failed rfl rfl trivial rfl nobody
      · cases ran
        refine consistent.work here (.written suffix other key) rfl rfl
          ⟨missing, isTemporary, ?_⟩ rfl nobody
        rw [d.append_content, isEmpty, List.nil_append]
    | _ => exact permitted.elim

/-- Publishing the key. -/
theorem Consistent.publishes {suffix : GoString} {key : Bytes} (consistent : Consistent d q)
    (here : q t = .holding lock (.written suffix file key))
    (permitted : (Stage.written suffix file key).permits c)
    (ran : execute keyFromSeed input c d = some (response, after)) :
    Consistent after (Function.update q t (.holding lock
      ((Stage.written suffix file key).next keyFromSeed c response))) := by
  have failed := consistent.stay here .failed trivial rfl rfl
  have holds := consistent.stages t lock _ here
  have written := consistent.stay here (.written suffix file key) holds rfl rfl
  obtain ⟨missing, isTemporary, content⟩ := holds
  cases c with
  | sync other | close other =>
    rcases attempt_eq_some ran with ⟨error, rfl, -, rfl⟩ | found
    · exact failed
    cases found
    exact written
  | link other =>
    obtain rfl := permitted
    rcases attempt_eq_some ran with ⟨error, rfl, -, rfl⟩ | found
    · exact failed
    rw [isTemporary, missing] at found
    cases found
    refine consistent.work here (.published file key) ?_ rfl ?_ rfl (consistent.noResults missing)
    · exact d.hardLink_of_ne _ _ (by simp)
    · exact ⟨(d.hardLink_self ..).trans isTemporary, content⟩
  | _ => exact permitted.elim

/-- Confirming or withdrawing the key. -/
theorem Consistent.confirms {key : Bytes} (consistent : Consistent d q)
    (here : q t = .holding lock (.published file key))
    (permitted : (Stage.published file key).permits c)
    (ran : execute keyFromSeed input c d = some (response, after)) :
    Consistent after (Function.update q t (.holding lock
      ((Stage.published file key).next keyFromSeed c response))) := by
  have holds := consistent.stages t lock _ here
  have nobody := consistent.published t lock _ here rfl
  have published :=
    consistent.work here (.published file key) rfl rfl holds rfl nobody
  have failed := consistent.work here .failed rfl rfl trivial rfl nobody
  cases c with
  | syncDir =>
    rcases attempt_eq_some ran with ⟨error, rfl, -, rfl⟩ | found
    · exact published
    cases found
    have isThere : d.Has file key := holds
    refine consistent.inside here (.confirmed key) rfl rfl trivial ?_ nofun
    grind [Function.update_apply, Phase.result, Stage.result]
  | remove name =>
    cases name with
    | temporary suffix =>
      rcases attempt_eq_some ran with ⟨error, rfl, -, rfl⟩ | found
      · exact published
      split at found
      · cases found
        exact published
      cases found
      refine consistent.work here (.published file key) ?_ rfl ?_ rfl nobody
      · exact d.unlink_of_ne _ (by simp)
      · exact ⟨(d.unlink_of_ne _ (by simp)).trans holds.1, holds.2⟩
    | key =>
      rcases attempt_eq_some ran with ⟨error, rfl, -, rfl⟩ | found
      · exact failed
      split at found
      · cases found
        exact failed
      cases found
      exact consistent.work here .failed (d.unlink_of_ne _ (by simp)) rfl trivial rfl nobody
    | lock => exact permitted.elim
  | _ => exact permitted.elim

/-- Cleaning up after a failure. -/
theorem Consistent.cleans (consistent : Consistent d q) (here : q t = .holding lock .failed)
    (permitted : Stage.failed.permits c)
    (ran : execute keyFromSeed input c d = some (response, after)) :
    Consistent after (Function.update q t
      (.holding lock (Stage.failed.next keyFromSeed c response))) := by
  have failed := consistent.stay here .failed trivial rfl rfl
  cases c with
  | syncDir =>
    rcases attempt_eq_some ran with ⟨error, rfl, -, rfl⟩ | found
    · exact failed
    cases found
    exact failed
  | remove name =>
    cases name with
    | temporary suffix =>
      rcases attempt_eq_some ran with ⟨error, rfl, -, rfl⟩ | found
      · exact failed
      split at found
      · cases found
        exact failed
      cases found
      have kept : ∀ file key, d.Has file key → (d.unlink (.temporary suffix)).Has file key :=
        fun _ _ has => ⟨(d.unlink_of_ne _ (by simp)).trans has.1, has.2⟩
      have results := consistent.results
      refine consistent.inside here .failed (d.unlink_of_ne _ (by simp)) rfl trivial ?_ nofun
      grind [Function.update_apply, Phase.result, Stage.result]
    | key | lock => exact permitted.elim
  | _ => exact permitted.elim

/-- **One step inside.** -/
theorem Consistent.held (consistent : Consistent d q) (here : q t = .holding lock stage)
    (permitted : stage.permits c) (ran : execute keyFromSeed input c d = some (response, after)) :
    Consistent after (Function.update q t (.holding lock (stage.next keyFromSeed c response))) := by
  cases stage with
  | entered => exact consistent.looks here permitted ran
  | found file => exact consistent.reads here permitted ran
  | missing => exact consistent.writes here (.inl rfl) permitted ran
  | generated key =>
    exact consistent.writes here (.inr (.inl ⟨key, rfl⟩)) permitted ran
  | created suffix file key =>
    grind [Consistent.writes]
  | written suffix file key => exact consistent.publishes here permitted ran
  | published file key => exact consistent.confirms here permitted ran
  | failed => exact consistent.cleans here permitted ran
  | loaded key => exact permitted.elim
  | confirmed key => exact permitted.elim

/-- Opening the lock file. -/
theorem Consistent.opensLock (consistent : Consistent d q) {response : Except GoError ℕ}
    (ran : execute keyFromSeed input .openLock d = some (response, after))
    (phase : Phase) (noLock : phase.lock = none) (noResult : phase.result = none) :
    Consistent after (Function.update q t phase) := by
  rcases attempt_eq_some ran with ⟨error, rfl, -, rfl⟩ | opened
  · exact consistent.aside noLock noResult
  split at opened
  · split at opened <;> cases opened <;> exact consistent.aside noLock noResult
  · rename_i missing
    cases opened
    -- Nobody is inside, since whoever is has the lock at the lock path.
    have empty : ∀ u other st, q u ≠ .holding other st := by
      intro u other st isHolding
      have isLock := consistent.current u other st isHolding
      rw [missing] at isLock
      cases isLock
    have kept : ∀ file key, d.Has file key → (d.create .lock).Has file key := by
      rintro file key ⟨isKey, content⟩
      refine ⟨(d.create_of_ne _ (by simp)).trans isKey, ?_⟩
      rw [d.create_file_of_lt _ (d.known _ file isKey)]
      exact content
    have created : Consistent (d.create .lock) q :=
      ⟨consistent.locked, consistent.alone, by grind, by grind [consistent.results], by grind,
        by grind⟩
    exact created.aside noLock noResult

/-- Getting the lock at the lock path. -/
theorem Consistent.enters (consistent : Consistent d q) (current : d.entries .lock = some lock)
    (free : d.locked lock = false) :
    Consistent (d.setLock lock true) (Function.update q t (.holding lock .entered)) := by
  have unowned : ∀ u, (q u).lock ≠ some lock := by
    intro u owns
    rw [consistent.locked u lock owns] at free
    cases free
  have others : ∀ u other st, q u ≠ .holding other st := by
    intro u other st isHolding
    have isLock := consistent.current u other st isHolding
    rw [current, Option.some_inj] at isLock
    subst isLock
    exact unowned u (by rw [isHolding]; rfl)
  obtain ⟨locked, alone, -, results, -, -⟩ := consistent
  have isLocked := d.setLock_self lock true
  have sameLocked : ∀ other, other ≠ lock → (d.setLock lock true).locked other = d.locked other :=
    fun other different => d.setLock_of_ne _ different _
  have sameEntry : (d.setLock lock true).entries .lock = some lock := current
  have same : ∀ file key, d.Has file key → (d.setLock lock true).Has file key := fun _ _ has => has
  have holds : Stage.entered.Holds (d.setLock lock true) := trivial
  constructor <;>
    grind [Function.update_apply, Phase.lock, Phase.result, Stage.result, Stage.isPublished]

/-- Leaving: the lock file may be removed, the lock is still held. -/
theorem Consistent.leaves (consistent : Consistent d q)
    (here : q t = .holding lock stage) (sameLocked : after.locked = d.locked)
    (sameFiles : after.files = d.files) (sameKey : after.entries .key = d.entries .key) :
    Consistent after (Function.update q t (.leaving lock stage.result)) := by
  have nobody : ∀ u other st,
      Function.update q t (.leaving lock stage.result) u ≠ .holding other st := by
    intro u other st isHolding
    by_cases sameCall : u = t
    · grind
    · rw [Function.update_of_ne sameCall] at isHolding
      exact sameCall (consistent.exclusive here isHolding)
  have locks : ∀ u, (Function.update q t (.leaving lock stage.result) u).lock = (q u).lock := by
    grind [Function.update_apply, Phase.lock]
  have results : ∀ u, (Function.update q t (.leaving lock stage.result) u).result =
      (q u).result := by
    grind [Function.update_apply, Phase.result]
  have same : ∀ file key, d.Has file key → after.Has file key := by
    grind [Directory.Has]
  obtain ⟨locked, alone, -, returned, -, -⟩ := consistent
  constructor <;> grind

/-- Releasing the lock. -/
theorem Consistent.releases {result : Option Bytes} (consistent : Consistent d q)
    (here : q t = .leaving lock result) :
    Consistent (d.setLock lock false) (Function.update q t (.finished result)) := by
  have outside : ∀ {u other st}, Function.update q t (.finished result) u = .holding other st →
      q u = .holding other st := by
    grind [Function.update_apply]
  have locks : ∀ {u other}, (Function.update q t (.finished result) u).lock = some other →
      (q u).lock = some other ∧ other ≠ lock := by
    intro u other has
    by_cases sameCall : u = t
    · rw [sameCall, Function.update_self] at has
      cases has
    · rw [Function.update_of_ne sameCall] at has
      refine ⟨has, ?_⟩
      rintro rfl
      exact sameCall (consistent.alone u t other has (by rw [here]; rfl))
  have results : ∀ u, (Function.update q t (.finished result) u).result = (q u).result := by
    grind [Function.update_apply, Phase.result]
  refine ⟨?_, fun u v other first second =>
      consistent.alone u v other (locks first).1 (locks second).1,
    fun u other st isHolding => consistent.current u other st (outside isHolding), ?_,
    fun u other st isHolding => consistent.stages u other st (outside isHolding), ?_⟩
  · intro u other has
    rw [d.setLock_of_ne _ (locks has).2]
    exact consistent.locked u other (locks has).1
  · intro u key has
    rw [results u] at has
    exact consistent.results u key has
  · intro u other st isHolding isPublished v
    rw [results v]
    exact consistent.published u other st (outside isHolding) isPublished v

/-- A lock is granted on the file that is at the lock path. -/
def GrantsCurrent : (c : FileCommand) → Directory → c.Response → Prop
  | .flock file, d, .ok () => d.entries .lock = some file
  | _, _, _ => True

/-- **One step** of any call keeps the invariant, if no lock is granted on a lock
file that was removed. -/
theorem Consistent.step (consistent : Consistent d q)
    (permitted : (phases keyFromSeed).permits (q t) c)
    (ran : execute keyFromSeed input c d = some (response, after))
    (grants : GrantsCurrent c d response) :
    Consistent after (Function.update q t ((phases keyFromSeed).next (q t) c response)) := by
  cases here : q t with
  | outside =>
    rw [here] at permitted
    cases c with
    | secureDir =>
      rcases attempt_eq_some ran with ⟨error, rfl, -, rfl⟩ | passed
      · exact consistent.aside rfl rfl
      cases passed
      exact consistent.aside rfl rfl
    | openLock =>
      cases response with
      | error error => exact consistent.opensLock ran .outside rfl rfl
      | ok file => exact consistent.opensLock ran (.opened file) rfl rfl
    | _ => exact permitted.elim
  | opened lock =>
    rw [here] at permitted
    cases c with
    | stat file =>
      rcases attempt_eq_some ran with ⟨error, rfl, -, rfl⟩ | passed
      · exact consistent.aside rfl rfl
      cases passed
      exact consistent.aside rfl rfl
    | flock file =>
      obtain rfl := permitted
      rcases attempt_eq_some ran with ⟨error, rfl, -, rfl⟩ | granted
      · exact consistent.aside rfl rfl
      split at granted
      · cases granted
      rename_i free
      cases granted
      exact consistent.enters grants (by simpa using free)
    | _ => exact permitted.elim
  | holding lock stage =>
    rw [here] at permitted
    by_cases isLast : c = .remove .lock
    · subst isLast
      rcases attempt_eq_some ran with ⟨error, rfl, -, rfl⟩ | removed
      · exact consistent.leaves here rfl rfl rfl
      split at removed
      · cases removed
        exact consistent.leaves here rfl rfl rfl
      · cases removed
        exact consistent.leaves here rfl rfl (d.unlink_of_ne _ (by simp))
    · have inside : stage.permits c := by
        cases c with
        | remove name =>
          cases name with
          | lock => exact absurd rfl isLast
          | _ => exact permitted
        | _ => exact permitted
      have next : (phases keyFromSeed).next (.holding lock stage) c response =
          .holding lock (stage.next keyFromSeed c response) := by
        cases c with
        | remove name =>
          cases name with
          | lock => exact absurd rfl isLast
          | _ => rfl
        | _ => rfl
      rw [next]
      exact consistent.held here inside ran
  | leaving lock result =>
    rw [here] at permitted
    cases c with
    | unlock file =>
      obtain rfl := permitted
      cases ran
      exact consistent.releases here
    | _ => exact permitted.elim
  | finished result =>
    rw [here] at permitted
    exact permitted.elim

end Steps

/-! ## Agreement -/

/-- The calls of `Provision` in the runs in which every lock is granted on the file
that is at the lock path. -/
def currentProvisions : System Unit FileCommand FileCommand.Response
    (Except GoError Bytes) Directory :=
  { provisions keyFromSeed with
    exec := fun c d response after =>
      (provisions keyFromSeed).exec c d response after ∧
        GrantsCurrent c d response }

variable {keyFromSeed} in
theorem currentProvisions_expected {c : FileCommand} {d after : Directory} {response : c.Response}
    (ran : (currentProvisions keyFromSeed).exec c d response after) :
    (phases keyFromSeed).expects c response := by
  obtain ⟨⟨input, ran⟩, -⟩ := ran
  cases c with
  | stat | readAll =>
    rcases attempt_eq_some ran with ⟨error, rfl, present, -⟩ | passed
    · exact present
    · cases passed
      trivial
  | _ => trivial

instance (c : FileCommand) (d : Directory) (response : c.Response) :
    Decidable (GrantsCurrent c d response) := by
  unfold GrantsCurrent
  split <;> infer_instance

/-- A toy derivation of keys. -/
def plainKey (seed : Bytes) : Bytes :=
  seed ++ seed

def emptyDirectory : Directory :=
  ⟨fun _ => none, fun _ => {}, fun _ => false, 0, nofun⟩

/-- The decisions of a call that finds no key and publishes its own, up to the
removal of the temporary file. -/
def publishing (thread : ℕ) (byte : UInt8) : List (Decision Unit FileInput) :=
  [.move thread .proceed, .move thread (.random (List.replicate 32 byte)),
    .move thread (.random [byte])] ++
    List.replicate 6 (.move thread .proceed)

def proceeding (thread steps : ℕ) : List (Decision Unit FileInput) :=
  List.replicate steps (.move thread .proceed)

/-- An error of the disk. -/
def errDisk : GoError := errorsNew "no space left on device"

/-- Call 0 fails to write while call 1 waits for its lock.  Call 1 publishes under
a lock file that is gone, call 2 returns its key, and call 1 withdraws it.  Call 3
generates another one. -/
def staleScript : List (Decision Unit FileInput) :=
  List.replicate 4 (.spawn ()) ++ proceeding 0 4 ++ proceeding 1 3 ++
    [.move 0 .proceed, .move 0 (.random (List.replicate 32 0)),
      .move 0 (.random [0]), .move 0 .proceed, .move 0 (.fail errDisk 0)] ++
    proceeding 0 4 ++ proceeding 1 1 ++ publishing 1 1 ++ proceeding 2 11 ++
    [.move 1 (.fail errDisk 0)] ++ proceeding 1 6 ++
    proceeding 3 4 ++ publishing 3 3 ++ proceeding 3 4

/-- The keys that were returned. -/
def returnedKeys {J C σ : Type} {R : C → Type}
    (history : List (Event J C R (Except GoError Bytes) σ)) : List Bytes :=
  history.filterMap fun event =>
    match event.action with
    | .returned (.ok key) => some key
    | _ => none

end LocalKey

end Tubo
