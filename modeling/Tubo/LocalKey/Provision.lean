import Tubo.Concurrency.Protocol
import Tubo.UseCase.Home

/-!
# Package `internal/localkey`

`Load` and `Provision` of one key file, as programs over the steps of the file
system, and the directory they work on: names, files, and the locks of `flock`.
A name leads to a file; a file stays readable, and its lock stays, when its name
is removed.

Nobody else touches the directory.  Every step may fail with an error of the file
system other than `os.ErrNotExist`, a write also after a part of the data.
-/

namespace Tubo

open Concurrency

namespace LocalKey

/-! ## Errors and checks -/

def errUnsafe : GoError := .sentinel (str "localkey: unsafe key state")
def errInvalid : GoError := .sentinel (str "localkey: invalid key file")

/-- `os.ErrExist`. -/
def errExist : GoError := .sentinel (str "file already exists")

/-- `syscall.ELOOP`. -/
def errLoop : GoError := .sentinel (str "too many levels of symbolic links")

/-- `fmt.Errorf("%w: …", sentinel)`. -/
def detail (sentinel : GoError) (text : GoString) : GoError :=
  .wrap [] sentinel (str ": " ++ text)

/-- `encodedPrivateKeyLen`. -/
def encodedPrivateKeyLen : ℕ := 86

/-- `os.FileInfo`: `special` is one of setuid, setgid and sticky. -/
structure FileInfo where
  symlink : Bool
  regular : Bool
  permissions : ℕ
  special : Bool
  size : ℕ
  deriving DecidableEq, Repr

/-- `unsafeMode`. -/
def unsafeMode (info : FileInfo) (allowed : ℕ) : Bool :=
  info.permissions &&& allowed != info.permissions || info.special

/-- The verb `%o`. -/
def octal (n : ℕ) : GoString :=
  (Nat.toDigits 8 n).map fun digit => UInt8.ofNat digit.toNat

/-- `checkFileInfo`; the permissions are `0o600`. -/
def checkFileInfo (info : FileInfo) : Except GoError Unit := do
  failIf (info.symlink = true) (detail errUnsafe (str "key file is symlink"))
  failIf (info.regular = false) (detail errUnsafe (str "key file is not regular"))
  failIf (unsafeMode info 384 = true)
    (detail errUnsafe (str "key file mode " ++ octal info.permissions))
  failIf (encodedPrivateKeyLen < info.size) (detail errInvalid (str "key file oversized"))
  failIf (info.size ≠ encodedPrivateKeyLen) (detail errInvalid (str "key file wrong length"))

/-- `checkLockInfo`. -/
def checkLockInfo (info : FileInfo) : Except GoError Unit :=
  failIf (info.regular = false ∨ unsafeMode info 384 = true)
    (detail errUnsafe (str "key lock mode"))

variable (keyFromSeed : Bytes → Bytes)

/-- `parseCanonicalPrivate`; `keyFromSeed` is `ed25519.NewKeyFromSeed`. -/
def parseCanonicalPrivate (data : Bytes) : Except GoError Bytes := do
  failIf (encodedPrivateKeyLen < data.length) (detail errInvalid (str "key file oversized"))
  failIf (data.length ≠ encodedPrivateKeyLen) (detail errInvalid (str "key file wrong length"))
  failIf (containsAny data [0x0D, 0x0A, 0x09, 0x20] = true ∨ data.contains 0x3D = true)
    (detail errInvalid (str "non-canonical private key"))
  match rawURLDecode data with
  | none => .error (detail errInvalid (str "invalid Ed25519 private key"))
  | some decoded => do
      failIf (decoded.length ≠ ed25519PrivateKeySize)
        (detail errInvalid (str "invalid Ed25519 private key"))
      failIf (rawURLEncode decoded ≠ data) (detail errInvalid (str "non-canonical private key"))
      failIf (decoded ≠ keyFromSeed (decoded.take 32)) (detail errInvalid
          (str "private key public suffix inconsistent with seed"))
      return decoded

/-- A key that is parsed is the only one with this text. -/
theorem parseCanonicalPrivate_eq_ok {data key : Bytes}
    (parsed : parseCanonicalPrivate keyFromSeed data = .ok key) :
    data.length = encodedPrivateKeyLen ∧ rawURLEncode key = data := by
  unfold parseCanonicalPrivate at parsed
  simp only [bind_eq_ok, failIf_eq_ok, not_not] at parsed
  obtain ⟨_, -, _, size, _, -, parsed⟩ := parsed
  split at parsed
  · cases parsed
  · simp only [bind_eq_ok, failIf_eq_ok, not_not] at parsed
    obtain ⟨_, -, _, canonical, _, -, same⟩ := parsed
    cases same
    exact ⟨size, canonical⟩

/-! ## The directory -/

/-- The names in the directory that `Provision` uses: of the key, of its lock, and
the temporary ones. -/
inductive FileName
  | key
  | lock
  | temporary (suffix : GoString)
  deriving DecidableEq, Repr

structure File where
  symlink : Bool := false
  regular : Bool := true
  permissions : ℕ := 384
  special : Bool := false
  content : Bytes := []
  deriving DecidableEq, Repr

/-- `Stat`. -/
def File.info (file : File) : FileInfo :=
  ⟨file.symlink, file.regular, file.permissions, file.special, file.content.length⟩

def File.append (file : File) (data : Bytes) : File :=
  { file with content := file.content ++ data }

/-- A directory.  Files are numbered; those from `used` on do not exist yet, and
no name leads there. -/
structure Directory where
  entries : FileName → Option ℕ
  files : ℕ → File
  locked : ℕ → Bool
  used : ℕ
  known : ∀ name file, entries name = some file → file < used

namespace Directory

/-- A new file under a name. -/
def create (d : Directory) (name : FileName) : Directory where
  entries := Function.update d.entries name (some d.used)
  files := Function.update d.files d.used {}
  locked := d.locked
  used := d.used + 1
  known := by
    intro other file found
    by_cases same : other = name
    · rw [same, Function.update_self] at found
      cases found
      exact Nat.lt_succ_self _
    · rw [Function.update_of_ne same] at found
      exact Nat.lt_succ_of_lt (d.known other file found)

/-- The directory without a name. -/
def unlink (d : Directory) (name : FileName) : Directory :=
  { d with
    entries := Function.update d.entries name none
    known := by
      intro other file found
      by_cases same : other = name
      · rw [same, Function.update_self] at found
        cases found
      · rw [Function.update_of_ne same] at found
        exact d.known other file found }

/-- A second name for a file. -/
def hardLink (d : Directory) (old new : FileName) : Directory :=
  { d with
    entries := Function.update d.entries new (d.entries old)
    known := by
      intro other file found
      by_cases same : other = new
      · rw [same, Function.update_self] at found
        exact d.known old file found
      · rw [Function.update_of_ne same] at found
        exact d.known other file found }

def append (d : Directory) (file : ℕ) (data : Bytes) : Directory :=
  { d with files := Function.update d.files file ((d.files file).append data) }

def setLock (d : Directory) (file : ℕ) (isLocked : Bool) : Directory :=
  { d with locked := Function.update d.locked file isLocked }

variable (d : Directory) (name : FileName) {other : FileName} (file : ℕ)

theorem unlink_of_ne (different : other ≠ name) : (d.unlink name).entries other = d.entries other :=
  Function.update_of_ne different ..

@[simp]
theorem hardLink_self (old : FileName) : (d.hardLink old name).entries name = d.entries old :=
  Function.update_self ..

theorem hardLink_of_ne (old : FileName) (different : other ≠ name) :
    (d.hardLink old name).entries other = d.entries other :=
  Function.update_of_ne different ..

@[simp]
theorem create_self : (d.create name).entries name = some d.used :=
  Function.update_self ..

theorem create_of_ne (different : other ≠ name) : (d.create name).entries other = d.entries other :=
  Function.update_of_ne different ..

@[simp]
theorem create_file : (d.create name).files d.used = {} :=
  Function.update_self ..

theorem create_file_of_lt {file : ℕ} (isUsed : file < d.used) :
    (d.create name).files file = d.files file :=
  Function.update_of_ne (Nat.ne_of_lt isUsed) ..

@[simp]
theorem append_content (data : Bytes) : ((d.append file data).files file).content =
      (d.files file).content ++ data := by
  show (Function.update d.files file ((d.files file).append data) file).content = _
  rw [Function.update_self, File.append]

@[simp]
theorem setLock_self (isLocked : Bool) : (d.setLock file isLocked).locked file = isLocked :=
  Function.update_self ..

theorem setLock_of_ne {another : ℕ} (different : another ≠ file) (isLocked : Bool) :
    (d.setLock file isLocked).locked another = d.locked another :=
  Function.update_of_ne different ..

end Directory

/-! ## Steps -/

inductive FileCommand
  | secureDir
  | openLock
  | flock (file : ℕ)
  | lstatKey
  | openKey
  | stat (file : ℕ)
  | readAll (file limit : ℕ)
  | generateKey
  | randomSuffix
  | createTemporary (suffix : GoString)
  | write (file : ℕ) (data : Bytes)
  | sync (file : ℕ)
  | close (file : ℕ)
  | link (suffix : GoString)
  | remove (name : FileName)
  | syncDir
  | unlock (file : ℕ)

@[reducible]
def FileCommand.Response : FileCommand → Type
  | .openLock | .openKey | .createTemporary _ => Except GoError ℕ
  | .lstatKey | .stat _ => Except GoError FileInfo
  | .readAll .. | .generateKey => Except GoError Bytes
  | .randomSuffix => Except GoError GoString
  | .unlock _ => Unit
  | _ => Except GoError Unit

/-- What the surroundings decide about a step. -/
inductive FileInput
  | proceed
  | fail (error : GoError) (written : ℕ)
  | random (bytes : Bytes)

/-- A step that may fail without effect. -/
def attempt {α : Type} (input : FileInput) (d : Directory)
    (otherwise : Option (Except GoError α × Directory)) : Option (Except GoError α × Directory) :=
  match input with
  | .fail error _ =>
    if error.is errNotExist then none else some (.error error, d)
  | _ => otherwise

/-- One step of the file system; there is none while a lock is waited for. -/
def execute (input : FileInput) : (c : FileCommand) → Directory → Option (c.Response × Directory)
  | .secureDir, d => attempt input d (some (.ok (), d))
  | .openLock, d => attempt input d <|
      match d.entries .lock with
      | some file =>
        if (d.files file).symlink then some (.error errLoop, d)
        else some (.ok file, d)
      | none => some (.ok d.used, d.create .lock)
  | .flock file, d => attempt input d <|
      if d.locked file then none else some (.ok (), d.setLock file true)
  | .lstatKey, d => attempt input d <|
      match d.entries .key with
      | some file => some (.ok (d.files file).info, d)
      | none => some (.error errNotExist, d)
  | .openKey, d => attempt input d <|
      match d.entries .key with
      | some file =>
        if (d.files file).symlink then some (.error errLoop, d)
        else some (.ok file, d)
      | none => some (.error errNotExist, d)
  | .stat file, d => attempt input d (some (.ok (d.files file).info, d))
  | .readAll file limit, d =>
    attempt input d (some (.ok ((d.files file).content.take limit), d))
  | .generateKey, d => attempt input d <|
      match input with
      | .random seed => some (.ok (keyFromSeed seed), d)
      | _ => none
  | .randomSuffix, d => attempt input d <|
      match input with
      | .random bytes => some (.ok (rawURLEncode bytes), d)
      | _ => none
  | .createTemporary suffix, d => attempt input d <|
      match d.entries (.temporary suffix) with
      | some _ => some (.error errExist, d)
      | none => some (.ok d.used, d.create (.temporary suffix))
  | .write file data, d =>
    match input with
    | .fail error written =>
      some (.error error, d.append file (data.take written))
    | _ => some (.ok (), d.append file data)
  | .sync _, d => attempt input d (some (.ok (), d))
  | .close _, d => attempt input d (some (.ok (), d))
  | .link suffix, d => attempt input d <|
      match d.entries (.temporary suffix), d.entries .key with
      | none, _ => some (.error errNotExist, d)
      | some _, some _ => some (.error errExist, d)
      | some _, none => some (.ok (), d.hardLink (.temporary suffix) .key)
  | .remove name, d => attempt input d <|
      match d.entries name with
      | none => some (.error errNotExist, d)
      | some _ => some (.ok (), d.unlink name)
  | .syncDir, d => attempt input d (some (.ok (), d))
  | .unlock file, d => some ((), d.setLock file false)

/-! ## The programs -/

abbrev FileProgram (α : Type) :=
  Program FileCommand FileCommand.Response (Except GoError α)

/-- The error of an `open` with `O_NOFOLLOW`. -/
def openError (error : GoError) (text : String) : GoError :=
  if error.is errLoop then detail errUnsafe (str text) else error

/-- `Load`. -/
def load : FileProgram Bytes :=
  .call .lstatKey fun
    | .error error => .done (.error error)
    | .ok info =>
      match checkFileInfo info with
      | .error error => .done (.error error)
      | .ok () =>
        .call .openKey fun
          | .error error =>
            .done (.error (openError error "key file is symlink"))
          | .ok file =>
            .call (.stat file) fun
              | .error error => .done (.error error)
              | .ok opened =>
                match checkFileInfo opened with
                | .error error => .done (.error error)
                | .ok () =>
                  .call (.readAll file (encodedPrivateKeyLen + 1)) fun
                    | .error error => .done (.error error)
                    | .ok data =>
                      .done (parseCanonicalPrivate keyFromSeed data)

/-- `acquireLock`. -/
def acquireLock : FileProgram ℕ :=
  .call .openLock fun
    | .error error => .done (.error (openError error "lock file is symlink"))
    | .ok file =>
      .call (.stat file) fun
        | .error error => .done (.error error)
        | .ok info =>
          match checkLockInfo info with
          | .error error => .done (.error error)
          | .ok () =>
            .call (.flock file) fun
              | .error error => .done (.error error)
              | .ok () => .done (.ok file)

/-- The end of `writeDurableNoClobber`, after the key has been linked.  A failure
withdraws the key; errors of the withdrawal are ignored. -/
def confirmPublished (suffix : GoString) : FileProgram Unit :=
  .call (.remove (.temporary suffix)) fun
    | .error error =>
      .call (.remove .key) fun _ =>
        .call (.remove (.temporary suffix)) fun _ => .done (.error error)
    | .ok () =>
      .call .syncDir fun
        | .error error =>
          .call (.remove .key) fun _ =>
            .call (.remove (.temporary suffix)) fun _ =>
              .call .syncDir fun _ => .done (.error error)
        | .ok () => .done (.ok ())

/-- Return an error of `writeDurableNoClobber`, with its deferred removal of the
temporary file. -/
def abandon (suffix : GoString) (error : GoError) : FileProgram Unit :=
  .call (.remove (.temporary suffix)) fun _ => .done (.error error)

/-- `writeDurableNoClobber`. -/
def writeDurableNoClobber (key : Bytes) : FileProgram Unit :=
  .call .randomSuffix fun
    | .error error => .done (.error error)
    | .ok suffix =>
      .call (.createTemporary suffix) fun
        | .error error => .done (.error error)
        | .ok file =>
          .call (.write file (rawURLEncode key)) fun
            | .error error => abandon suffix error
            | .ok () =>
              .call (.sync file) fun
                | .error error => abandon suffix error
                | .ok () =>
                  .call (.close file) fun
                    | .error error => abandon suffix error
                    | .ok () =>
                      .call (.link suffix) fun
                        | .error error =>
                          abandon suffix (if error.is errExist then
                              detail errUnsafe (str "key appeared during provision")
                            else error)
                        | .ok () => confirmPublished suffix

/-- What `provision` does while it holds the lock. -/
def provisionLocked : FileProgram Bytes :=
  (load keyFromSeed).bind fun
    | .ok key => .done (.ok key)
    | .error error =>
      if ¬error.is errNotExist then .done (.error error)
      else
        .call .generateKey fun
          | .error error => .done (.error error)
          | .ok key =>
            (writeDurableNoClobber key).bind fun
              | .error error => .done (.error error)
              | .ok () => .done (.ok key)

/-- `provision`: the lock file is removed before the lock is released. -/
def provision : FileProgram Bytes :=
  .call .secureDir fun
    | .error error => .done (.error error)
    | .ok () =>
      acquireLock.andThen fun lock =>
        (provisionLocked keyFromSeed).bind fun result =>
          .call (.remove .lock) fun _ =>
            .call (.unlock lock) fun _ => .done result

/-- Any number of calls of `Provision` on one path. -/
def provisions : System Unit FileCommand FileCommand.Response (Except GoError Bytes) Directory where
  code _ := provision keyFromSeed
  exec c d response after :=
    ∃ input, execute keyFromSeed input c d = some (response, after)
  admits _ _ := True

end LocalKey

end Tubo
