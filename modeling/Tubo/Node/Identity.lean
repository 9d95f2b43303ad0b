import Tubo.Go.Basics

/-!
# The identity of a host

`internal/node/host.go`: `loadOrCreateIdentity`.  Calls of any processes share the
identity file, the temporary files beside it and the lock of the lock file.  A call
takes one file-system step at a time; a step may fail, and a caller may crash, which
releases its lock.

* `identity_never_forks` — all calls that succeed return the key of the one file that
  is ever published;
* `identity_lock_live` — the lock is never left behind.
-/

namespace Tubo

/-- `crypto.UnmarshalPrivateKey` and `crypto.MarshalPrivateKey`. -/
structure KeyCodec (K : Type) where
  unmarshal : Bytes → Except GoError K
  marshal : K → Except GoError Bytes
  unmarshal_marshal : ∀ {key data}, marshal key = .ok data → unmarshal data = .ok key

/-- The file at the path, the temporary files by name, and the holder of the lock. -/
structure IdentityDir where
  file : Option Bytes
  temps : ℕ → Option Bytes
  lock : Option ℕ

namespace IdentityDir

def setTemp (dir : IdentityDir) (name : ℕ) (content : Option Bytes) : IdentityDir :=
  { dir with temps := Function.update dir.temps name content }

/-- `os.Rename` of a temporary file to the path. -/
def publish (dir : IdentityDir) (name : ℕ) (content : Bytes) : IdentityDir :=
  { dir.setTemp name none with file := some content }

/-- The lock is free if the caller had it. -/
def release (dir : IdentityDir) (caller : ℕ) : IdentityDir :=
  if dir.lock = some caller then { dir with lock := none } else dir

end IdentityDir

/-- The next step of a call. -/
inductive IdentityCall (K : Type)
  | readFile
  | mkdirAll
  | chmodDir
  | openLock
  | flock
  | recheck
  | generate
  | createTemp (key : K) (data : Bytes)
  | write (key : K) (data : Bytes) (name : ℕ)
  | chmod (key : K) (name : ℕ)
  | closeTemp (key : K) (name : ℕ)
  | rename (key : K) (name : ℕ)
  | discard (name : ℕ) (error : GoError)
  | remove (name : ℕ) (error : GoError)
  | unlock (result : Except GoError K)
  | closeLock (result : Except GoError K)
  | returned (result : Except GoError K)
  | crashed

/-- What becomes of a step: it succeeds, with a new key or the name of a new file where
it makes one, it fails, or the caller crashes.  A `write` that does not succeed has
written some of the data. -/
inductive IdentityEvent (K : Type)
  | ok
  | key (key : K)
  | name (name : ℕ)
  | fail (error : GoError) (written : ℕ)
  | crash (written : ℕ)

section Call

variable {K : Type} (codec : KeyCodec K) (path : GoString) (caller : ℕ)

/-- The key of a file that was read. -/
def loadIdentity (data : Bytes) : Except GoError K :=
  match codec.unmarshal data with
  | .ok key => .ok key
  | .error error => .error
    (.wrap (str "identity key " ++ path ++ str " is corrupt; refusing to regenerate: ") error [])

def identityLockError (error : GoError) : GoError :=
  .wrap (str "identity lock " ++ path ++ str ".lock: ") error []

/-- A step of `loadOrCreateIdentity`; `none` if it cannot happen.  A read fails with an
error other than that the file does not exist. -/
def IdentityCall.step (dir : IdentityDir) :
    IdentityCall K → IdentityEvent K → Option (IdentityCall K × IdentityDir)
  | .returned _, _ | .crashed, _ => none
  | .write _ data name, .crash written =>
    some (.crashed, (dir.setTemp name (some (data.take written))).release caller)
  | _, .crash _ => some (.crashed, dir.release caller)
  | .readFile, .ok => match dir.file with
    | some data => some (.returned (loadIdentity codec path data), dir)
    | none => some (.mkdirAll, dir)
  | .mkdirAll, .ok => some (.chmodDir, dir)
  | .chmodDir, .ok => some (.openLock, dir)
  | .readFile, .fail error _ | .mkdirAll, .fail error _ | .chmodDir, .fail error _ =>
    some (.returned (.error error), dir)
  | .openLock, .ok => some (.flock, dir)
  | .openLock, .fail error _ => some (.returned (.error (identityLockError path error)), dir)
  -- `LOCK_EX` waits until the lock is free.
  | .flock, .ok => if dir.lock = none then some (.recheck, { dir with lock := some caller }) else none
  | .flock, .fail error _ => some (.closeLock (.error (identityLockError path error)), dir)
  | .recheck, .ok => match dir.file with
    | some data => some (.unlock (loadIdentity codec path data), dir)
    | none => some (.generate, dir)
  | .generate, .key key => match codec.marshal key with
    | .ok data => some (.createTemp key data, dir)
    | .error error => some (.unlock (.error error), dir)
  | .createTemp key data, .name name =>
    if dir.temps name = none then some (.write key data name, dir.setTemp name (some [])) else none
  | .recheck, .fail error _ | .generate, .fail error _ | .createTemp .., .fail error _ =>
    some (.unlock (.error error), dir)
  | .write key data name, .ok => some (.chmod key name, dir.setTemp name (some data))
  | .write _ data name, .fail error written =>
    some (.discard name error, dir.setTemp name (some (data.take written)))
  | .chmod key name, .ok => some (.closeTemp key name, dir)
  | .chmod _ name, .fail error _ => some (.discard name error, dir)
  | .closeTemp key name, .ok => some (.rename key name, dir)
  | .closeTemp _ name, .fail error _ | .rename _ name, .fail error _ =>
    some (.remove name error, dir)
  | .rename key name, .ok => match dir.temps name with
    | some content => some (.unlock (.ok key), dir.publish name content)
    | none => none
  -- The errors of the clean-up and of the deferred calls are not looked at.
  | .discard name error, _ => some (.remove name error, dir)
  | .remove name error, .ok => some (.unlock (.error error), dir.setTemp name none)
  | .remove _ error, _ => some (.unlock (.error error), dir)
  | .unlock result, .ok => some (.closeLock result, dir.release caller)
  | .unlock result, _ => some (.closeLock result, dir)
  | .closeLock result, _ => some (.returned result, dir.release caller)
  | _, _ => none

end Call

/-- The files and the calls of all processes. -/
structure IdentityWorld (K : Type) where
  dir : IdentityDir
  calls : ℕ → IdentityCall K

namespace IdentityWorld

variable {K : Type} (codec : KeyCodec K) (path : GoString)

/-- One caller makes its next step. -/
def advance (w : IdentityWorld K) (event : ℕ × IdentityEvent K) : IdentityWorld K :=
  match (w.calls event.1).step codec path event.1 w.dir event.2 with
  | some (call, dir) => ⟨dir, Function.update w.calls event.1 call⟩
  | none => w

/-- An interleaving of the calls. -/
def run (w : IdentityWorld K) (events : List (ℕ × IdentityEvent K)) : IdentityWorld K :=
  events.foldl (advance codec path) w

/-- The path is absent or holds a valid key, the lock is free and no call has begun;
temporary files of earlier callers may be left. -/
structure Start (w : IdentityWorld K) : Prop where
  file : ∀ data, w.dir.file = some data → ∃ key, codec.unmarshal data = .ok key
  lock : w.dir.lock = none
  calls : ∀ caller, w.calls caller = .readFile

end IdentityWorld

/-! ## What a call knows -/

section Invariant

variable {K : Type} {codec : KeyCodec K} {path : GoString} {caller : ℕ} {dir after : IdentityDir}
  {call : IdentityCall K} {result : Except GoError K} {first : Option Bytes}

/-- A key that a call returns is the one of the file. -/
def Published (codec : KeyCodec K) (dir : IdentityDir) (result : Except GoError K) : Prop :=
  ∀ key, result = .ok key → ∃ data, dir.file = some data ∧ codec.unmarshal data = .ok key

/-- A call has the lock from `recheck` to `unlock`.  From `generate` to `rename` there is
no file at the path, and from `chmod` on the temporary file is complete. -/
def IdentityCall.Sound (codec : KeyCodec K) (dir : IdentityDir) (caller : ℕ) :
    IdentityCall K → Prop
  | .readFile | .mkdirAll | .chmodDir | .openLock | .flock | .crashed => True
  | .recheck | .discard .. | .remove .. => dir.lock = some caller
  | .generate => dir.lock = some caller ∧ dir.file = none
  | .createTemp key data | .write key data _ =>
    dir.lock = some caller ∧ dir.file = none ∧ codec.marshal key = .ok data
  | .chmod key name | .closeTemp key name | .rename key name => dir.lock = some caller ∧
      dir.file = none ∧ ∃ data, codec.marshal key = .ok data ∧ dir.temps name = some data
  | .unlock result => dir.lock = some caller ∧ Published codec dir result
  | .closeLock result | .returned result => Published codec dir result

/-- The file is the one of the start or a complete new one. -/
def IdentityDir.Complete (codec : KeyCodec K) (first : Option Bytes) (dir : IdentityDir) : Prop :=
  ∀ data, dir.file = some data → first = some data ∨ ∃ key, codec.marshal key = .ok data

/-- A step leaves everything alone while another caller has the lock, and it keeps a file
at the path. -/
def IdentityDir.Kept (dir after : IdentityDir) (caller : ℕ) : Prop :=
  (∀ other, other ≠ caller → dir.lock = some other → after = dir) ∧
    ∀ data, dir.file = some data → after.file = some data

theorem IdentityCall.Sound.other {other : ℕ} (sound : call.Sound codec dir other)
    (kept : dir.Kept after caller) (different : other ≠ caller) : call.Sound codec after other := by
  have locked := kept.1 other different
  have published (result : Except GoError K) (known : Published codec dir result) :
      Published codec after result := by
    intro key isKey
    obtain ⟨data, found, isData⟩ := known key isKey
    exact ⟨data, kept.2 data found, isData⟩
  cases call with
  | closeLock result | returned result => exact published result sound
  | recheck | discard | remove => rwa [locked sound]
  | readFile | mkdirAll | chmodDir | openLock | flock | crashed => trivial
  | _ => rwa [locked sound.1]

theorem IdentityDir.setTemp_self {name : ℕ} {content : Option Bytes} :
    (dir.setTemp name content).temps name = content :=
  Function.update_self ..

theorem publish_published {key : K} {data : Bytes} {name : ℕ}
    (encoded : codec.marshal key = .ok data) : Published codec (dir.publish name data) (.ok key) := by
  rintro _ ⟨⟩
  exact ⟨data, rfl, codec.unmarshal_marshal encoded⟩

theorem loadIdentity_published {data : Bytes} (found : dir.file = some data) :
    Published codec dir (loadIdentity codec path data) := by
  intro key loaded
  refine ⟨data, found, ?_⟩
  unfold loadIdentity at loaded
  split at loaded
  · rename_i isKey
    rw [isKey, loaded]
  · cases loaded

/-- **One step** of a call: only `rename` changes the file at the path, and then the
temporary file is complete. -/
theorem IdentityCall.step_sound {next : IdentityCall K} {event : IdentityEvent K}
    (sound : call.Sound codec dir caller) (complete : dir.Complete codec first)
    (ran : call.step codec path caller dir event = some (next, after)) :
    next.Sound codec after caller ∧ dir.Kept after caller ∧ after.Complete codec first := by
  unfold step at ran
  split at ran <;> try split at ran
  all_goals cases ran
  all_goals
    grind [Sound, Published, IdentityDir.Kept, IdentityDir.Complete, IdentityDir.release,
      IdentityDir.setTemp, IdentityDir.setTemp_self, IdentityDir.publish,
      loadIdentity_published, publish_published]

/-! ## Runs -/

structure IdentityWorld.Sound (codec : KeyCodec K) (first : Option Bytes) (w : IdentityWorld K) :
    Prop where
  file : w.dir.Complete codec first
  calls : ∀ caller, (w.calls caller).Sound codec w.dir caller

variable {w : IdentityWorld K}

theorem IdentityWorld.advance_sound (sound : w.Sound codec first) (event : ℕ × IdentityEvent K) :
    (w.advance codec path event).Sound codec first ∧
      ∀ data, w.dir.file = some data → (w.advance codec path event).dir.file = some data := by
  unfold advance
  split
  · rename_i call dir ran
    obtain ⟨mine, kept, complete⟩ := IdentityCall.step_sound (sound.calls event.1) sound.file ran
    refine ⟨⟨complete, ?_⟩, kept.2⟩
    intro other
    by_cases same : other = event.1
    · subst same
      simpa using mine
    · simpa [Function.update_of_ne same] using (sound.calls other).other kept same
  · exact ⟨sound, fun _ found => found⟩

theorem IdentityWorld.run_sound (sound : w.Sound codec first)
    (events : List (ℕ × IdentityEvent K)) : (w.run codec path events).Sound codec first ∧
      ∀ data, w.dir.file = some data → (w.run codec path events).dir.file = some data := by
  induction events generalizing w with
  | nil => exact ⟨sound, fun _ found => found⟩
  | cons event events ih =>
    obtain ⟨next, kept⟩ := @advance_sound _ _ path _ _ sound event
    obtain ⟨last, keptLater⟩ := ih next
    exact ⟨last, fun data found => keptLater data (kept data found)⟩

/-- The call is between `flock` and the end of `closeLock`. -/
def IdentityCall.Holds : IdentityCall K → Prop
  | .readFile | .mkdirAll | .chmodDir | .openLock | .flock | .returned _ | .crashed => False
  | _ => True

def IdentityWorld.LockLive (w : IdentityWorld K) : Prop :=
  ∀ caller, w.dir.lock = some caller → (w.calls caller).Holds

theorem IdentityWorld.LockLive.advance (live : w.LockLive) (event : ℕ × IdentityEvent K) :
    (w.advance codec path event).LockLive := by
  intro caller
  have := live caller
  unfold IdentityWorld.advance
  split
  · rename_i ran
    unfold IdentityCall.step at ran
    split at ran <;> try split at ran
    all_goals cases ran
    all_goals
      grind [IdentityCall.Holds, IdentityDir.release, IdentityDir.setTemp, IdentityDir.publish]
  · exact this

end Invariant

/-- **The identity never forks.**  In every run all calls that succeed return the same
key; a file at the path is the one of the start or a complete new key, and it stays. -/
theorem identity_never_forks {K : Type} (codec : KeyCodec K) (path : GoString)
    {start : IdentityWorld K} (fresh : start.Start codec)
    (events more : List (ℕ × IdentityEvent K)) :
    (∀ a b keyA keyB, (start.run codec path events).calls a = .returned (.ok keyA) →
      (start.run codec path events).calls b = .returned (.ok keyB) → keyA = keyB) ∧
    ∀ data, (start.run codec path events).dir.file = some data →
      (∃ key, codec.unmarshal data = .ok key) ∧
      (start.dir.file = some data ∨ ∃ key, codec.marshal key = .ok data) ∧
      (start.run codec path (events ++ more)).dir.file = some data := by
  have initial : start.Sound codec start.dir.file :=
    ⟨fun _ found => .inl found, fun caller => by rw [fresh.calls]; trivial⟩
  have sound := (@IdentityWorld.run_sound _ _ path _ _ initial events).1
  constructor
  · intro a b keyA keyB returnedA returnedB
    have publishedA := sound.calls a
    have publishedB := sound.calls b
    rw [returnedA] at publishedA
    rw [returnedB] at publishedB
    obtain ⟨data, found, isA⟩ := publishedA keyA rfl
    obtain ⟨_, foundB, isB⟩ := publishedB keyB rfl
    obtain rfl := Option.some.inj (found.symm.trans foundB)
    exact Except.ok.inj (isA.symm.trans isB)
  · intro data found
    have origin := sound.file data found
    refine ⟨?_, origin, ?_⟩
    · rcases origin with isFirst | ⟨key, encoded⟩
      · exact fresh.file data isFirst
      · exact ⟨key, codec.unmarshal_marshal encoded⟩
    · rw [IdentityWorld.run, List.foldl_append]
      exact (IdentityWorld.run_sound sound more).2 data found

namespace Sample

def identityCodec : KeyCodec Bytes := ⟨.ok, .ok, by rintro key _ ⟨⟩; rfl⟩

def identityStart : IdentityWorld Bytes := ⟨⟨none, fun _ => none, none⟩, fun _ => .readFile⟩

/-- Caller 1 finds no file; caller 0 creates it, and caller 1 comes to the lock. -/
def identityEvents : List (ℕ × IdentityEvent Bytes) :=
  (1, .ok) :: List.replicate 6 (0, .ok) ++ [(0, .key [7]), (0, .name 3)] ++
    List.replicate 6 (0, .ok) ++ List.replicate 7 (1, .ok)

end Sample

/-- The second caller returns the key of the first. -/
theorem identity_never_forks_second :
    (Sample.identityStart.run Sample.identityCodec [] Sample.identityEvents).calls 1 =
      .returned (.ok [7]) ∧
    ∀ key, (Sample.identityStart.run Sample.identityCodec [] Sample.identityEvents).calls 0 =
      .returned (.ok key) → key = [7] := by
  have fresh : Sample.identityStart.Start Sample.identityCodec :=
    ⟨by rintro data ⟨⟩, rfl, fun _ => rfl⟩
  refine ⟨rfl, fun key returned => ?_⟩
  exact (identity_never_forks Sample.identityCodec [] fresh Sample.identityEvents []).1 0 1 key [7]
    returned rfl

/-- **The lock is never left behind**: whoever waits for it waits for a call that is still on
its way to release it. -/
theorem identity_lock_live {K : Type} (codec : KeyCodec K) (path : GoString)
    {start : IdentityWorld K} (free : start.dir.lock = none)
    (events : List (ℕ × IdentityEvent K)) : (start.run codec path events).LockLive :=
  List.foldlRecOn (motive := IdentityWorld.LockLive) events _
    (by simp [IdentityWorld.LockLive, free]) fun _ live event _ => live.advance event

theorem identity_lock_live_generate : ((Sample.identityStart.run Sample.identityCodec []
    (Sample.identityEvents.take 7)).calls 0).Holds :=
  identity_lock_live Sample.identityCodec [] rfl _ 0 rfl

end Tubo
