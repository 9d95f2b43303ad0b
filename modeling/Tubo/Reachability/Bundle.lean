import Tubo.AccessLease.Window
import Tubo.Go.Binary

/-!
# Signed bootstrap bundles

Package `internal/reachability/bundle`: a bundle names a relay by its peer and its
addresses, for a time, and is signed by a root that the reader has pinned.

The encoder and the decoder meet in `Bundle.body`, the bytes between the magic and the
signature: `canonical_eq_ok` says when a bundle is encoded, `parseUnsigned_eq_ok` says that
exactly the bodies of such bundles are decoded.

* `parseVerify_exact` — an accepted blob is the canonical encoding of its bundle with a
  signature, and nothing is read outside of a blob;
* `parseVerify_sign_iff` — which of the blobs that `Sign` makes are accepted;
* `addresses_end_at_peer_iff` — when the addresses of an accepted bundle end at its peer.
-/

namespace Tubo

/-- `RoleBootstrap`. -/
def roleBootstrap : GoString := str "tubo.bootstrap.v1"

/-- `KindBootstrap`. -/
def kindBootstrap : GoString := str "bootstrap"

/-- `Magic`. -/
def bundleMagic : Bytes := str "TUBN"

/-- `MaxBundleSize`. -/
def maxBundleSize : ℕ := 16 * 1024

def errBundleMalformed : GoError := .sentinel (str "malformed bootstrap bundle")
def errBundleOversized : GoError := .sentinel (str "bootstrap bundle exceeds size bound")
def errUnknownVersion : GoError := .sentinel (str "bootstrap bundle version not supported")
def errDowngrade : GoError :=
  .sentinel (str "bootstrap bundle version is below the minimum supported")
def errUnpinnedRoot : GoError :=
  .sentinel (str "bootstrap bundle references an unpinned or wrong-role trust root")
def errDuplicateAddrs : GoError := .sentinel (str "bootstrap bundle repeats an address")
def errIdentityMismatch : GoError :=
  .sentinel (str "bootstrap bundle address does not match its peer identity")
def errInvalidSignature : GoError := .sentinel (str "bootstrap bundle signature is invalid")
def errNotYetValid : GoError :=
  .sentinel (str "bootstrap bundle is not yet within its validity window")
def errBundleExpired : GoError := .sentinel (str "bootstrap bundle validity window has expired")
def errEmptyAddress : GoError := .sentinel (str "bootstrap bundle has no addresses")
def errInvalidValidity : GoError := .sentinel (str "bootstrap bundle validity window is invalid")

/-- `fmt.Errorf("%w: …", ErrMalformed)`. -/
def malformed (detail : String) : GoError := .wrap [] errBundleMalformed (str (": " ++ detail))

/-- A component of a multiaddr. -/
structure Component where
  code : ℕ
  value : GoString
  deriving DecidableEq

/-- The code of a `p2p` component. -/
def p2pCode : ℕ := 421

/-- What the bundles need of the libraries: whether `peer.Decode` succeeds, and the
components of a multiaddr. -/
structure Addressing where
  peerDecodes : GoString → Bool
  multiaddr : GoString → Option (List Component)

/-- `Root`. -/
structure Root where
  keyID : GoString
  role : GoString
  publicKey : Bytes

/-- `Bundle`. -/
structure Bundle where
  version : ℕ
  kind : GoString
  rootKeyID : GoString
  peerID : GoString
  addresses : List GoString
  notBefore : Time
  notAfter : Time
  deriving DecidableEq

/-! ## Addresses -/

section Functions

variable (lib : Library) (net : Addressing)

/-- `terminalP2P`. -/
def terminalP2P (components : List Component) : Except GoError GoString := do
  let last := components.foldl (fun last c => if c.code = p2pCode then c.value else last) []
  failIf (last = []) (errorsNew "missing p2p component")
  failIf (net.peerDecodes last = false) (errorsNew "failed to parse peer ID")
  return last

/-- `validateAddress`. -/
def validateAddress (address peerID : GoString) : Except GoError Unit :=
  match net.multiaddr address with
  | none => .error (malformed "address")
  | some components =>
    match terminalP2P net components with
    | .error _ => .error (malformed "address")
    | .ok embedded => failIf (embedded ≠ peerID) errIdentityMismatch

/-! ## Encoding -/

/-- 1 January 1970. -/
def unixEpoch : ℤ := 62135596800 * 10 ^ 9

/-- `UnixNano`. -/
def unixNano (t : Time) : ℤ := Int.bmod (t.instant - unixEpoch) (2 ^ 64)

/-- A text with its length: `writeLen8` and `writeLen16`. -/
def writeLen (width : ℕ) (value : GoString) : Bytes := bigEndian width value.length ++ value

/-- `binary.Write` of the nanoseconds of a time. -/
def writeTime (t : Time) : Bytes := bigEndian 8 (unixNano t % 2 ^ 64).toNat

/-- The loop of `canonical`. -/
def writeAddresses (peerID : GoString) : List GoString → List GoString → Except GoError Bytes
  | _, [] => .ok []
  | seen, address :: rest => do
    failIf (4096 < address.length) (malformed "address length")
    failIf (address ∈ seen) errDuplicateAddrs
    validateAddress net address peerID
    return writeLen 2 address ++ (← writeAddresses peerID (seen ++ [address]) rest)

/-- `canonical`. -/
def canonical (b : Bundle) : Except GoError Bytes := do
  failIf (b.kind ≠ kindBootstrap) (malformed "kind")
  failIf (b.version < 1 ∨ 1 < b.version) (malformed "version")
  failIf (b.rootKeyID = [] ∨ 128 < b.rootKeyID.length) (malformed "root key id")
  failIf (b.peerID.length = 0 ∨ 128 < b.peerID.length) (malformed "peer id")
  failIf (net.peerDecodes b.peerID = false) (malformed "peer id")
  failIf (b.addresses.length = 0) errEmptyAddress
  failIf (64 < b.addresses.length) (malformed "addresses")
  failIf (b.notAfter.after b.notBefore = false) errInvalidValidity
  let addresses ← writeAddresses net b.peerID [] b.addresses
  return bundleMagic ++ (bigEndian 4 b.version ++ (writeLen 1 b.kind ++ (writeLen 1 b.rootKeyID ++
    (writeLen 1 b.peerID ++ (bigEndian 2 b.addresses.length ++ (addresses ++
      (writeTime b.notBefore ++ writeTime b.notAfter)))))))

/-- `Sign`. -/
def signBundle (b : Bundle) (secret : Bytes) : Except GoError Bytes := do
  let unsigned ← canonical net b
  let signature := lib.sign secret unsigned
  return unsigned ++ (bigEndian 1 signature.length ++ signature)

/-! ## Decoding -/

/-- The bounds check before a slice, and the slice. -/
def readFixed (n : ℕ) (data : Bytes) : Except GoError (Bytes × Bytes) := do
  failIf (data.length < n) errBundleMalformed
  cut n data

/-- `readLen8` and `readLen16`. -/
def readLen (width max : ℕ) (data : Bytes) : Except GoError (GoString × Bytes) := do
  let (size, rest) ← readFixed width data
  failIf (max < bigEndianValue size) errBundleOversized
  readFixed (bigEndianValue size) rest

/-- `readTime`. -/
def readTime (data : Bytes) : Except GoError (Time × Bytes) := do
  let (value, rest) ← readFixed 8 data
  return (⟨unixEpoch + Int.bmod (bigEndianValue value) (2 ^ 64), 0⟩, rest)

/-- The loop of `parseUnsigned`. -/
def parseAddresses (peerID : GoString) :
    ℕ → List GoString → Bytes → Except GoError (List GoString × Bytes)
  | 0, seen, data => .ok (seen, data)
  | count + 1, seen, data => do
    let (address, rest) ← readLen 2 4096 data
    failIf (address ∈ seen) errDuplicateAddrs
    validateAddress net address peerID
    parseAddresses peerID count (seen ++ [address]) rest

/-- `parseUnsigned`. -/
def parseUnsigned (data : Bytes) : Except GoError (Bundle × Bytes) := do
  let (version, data) ← readFixed 4 data
  let (kind, data) ← readLen 1 64 data
  let (rootKeyID, data) ← readLen 1 128 data
  let (peerID, data) ← readLen 1 128 data
  failIf (kind ≠ kindBootstrap) (malformed "kind")
  failIf (net.peerDecodes peerID = false) (malformed "peer id")
  let (count, data) ← readFixed 2 data
  failIf (bigEndianValue count = 0 ∨ 64 < bigEndianValue count) (malformed "address count")
  let (addresses, data) ← parseAddresses net peerID (bigEndianValue count) [] data
  let (notBefore, data) ← readTime data
  let (notAfter, data) ← readTime data
  failIf (notAfter.after notBefore = false) errInvalidValidity
  return (⟨bigEndianValue version, kind, rootKeyID, peerID, addresses, notBefore, notAfter⟩, data)

/-- `pinnedRoot`. -/
def pinnedRoot (roots : List Root) (keyID : GoString) : Option Root :=
  roots.find? (·.keyID = keyID)

/-- `ParseVerify`. -/
def parseVerify (raw : Bytes) (roots : List Root) (now : Time) : Except GoError Bundle := do
  failIf (maxBundleSize < raw.length) errBundleOversized
  let (magic, rest) ← readFixed bundleMagic.length raw
  failIf (magic ≠ bundleMagic) errBundleMalformed
  let (b, rest) ← parseUnsigned net rest
  failIf (b.version < 1) errDowngrade
  failIf (1 < b.version) errUnknownVersion
  let (size, rest) ← readFixed 1 rest
  failIf (bigEndianValue size ≠ ed25519SignatureSize) errBundleMalformed
  let (signature, rest) ← readFixed ed25519SignatureSize rest
  failIf (rest.length ≠ 0) errBundleMalformed
  match pinnedRoot roots b.rootKeyID with
  | none => .error (.wrap [] errUnpinnedRoot (str ": " ++ b.rootKeyID))
  | some root => do
    failIf (root.role ≠ roleBootstrap)
      (.wrap [] errUnpinnedRoot (str ": root has role " ++ root.role))
    let unsigned ← canonical net b
    failIf (lib.verify root.publicKey unsigned signature = false) errInvalidSignature
    failIf (b.notBefore.after now = true) errNotYetValid
    failIf (b.notAfter.after now = false) errBundleExpired
    return b

end Functions

/-! ## The bytes of a bundle -/

/-- The bytes between the magic and the signature. -/
def Bundle.body (b : Bundle) : Bytes :=
  bigEndian 4 b.version ++ (writeLen 1 b.kind ++ (writeLen 1 b.rootKeyID ++ (writeLen 1 b.peerID ++
    (bigEndian 2 b.addresses.length ++ (b.addresses.flatMap (writeLen 2) ++
      (writeTime b.notBefore ++ writeTime b.notAfter))))))

/-- The nanoseconds of the time are an `int64`, and it is a UTC time. -/
def Time.Nanos (t : Time) : Prop :=
  t.offset = 0 ∧ -2 ^ 63 ≤ t.instant - unixEpoch ∧ t.instant - unixEpoch < 2 ^ 63

/-- What both the encoder and the decoder check. -/
structure Bundle.Checked (net : Addressing) (b : Bundle) : Prop where
  kind : b.kind = kindBootstrap
  root : b.rootKeyID.length ≤ 128
  peer : b.peerID.length ≤ 128
  decodes : net.peerDecodes b.peerID = true
  count : b.addresses.length ≠ 0 ∧ b.addresses.length ≤ 64
  distinct : b.addresses.Nodup
  short : ∀ address ∈ b.addresses, address.length ≤ 4096
  valid : ∀ address ∈ b.addresses, validateAddress net address b.peerID = .ok ()
  window : b.notAfter.after b.notBefore = true

section Lemmas

variable {lib : Library} {net : Addressing} {peerID : GoString} {data rest : Bytes}

theorem readFixed_eq_ok {n : ℕ} {first : Bytes} :
    readFixed n data = .ok (first, rest) ↔ first.length = n ∧ data = first ++ rest := by
  rw [readFixed, bind_eq_ok]
  constructor
  · rintro ⟨⟨⟩, -, isCut⟩
    exact cut_eq_ok.mp isCut
  · rintro ⟨rfl, rfl⟩
    exact ⟨(), failIf_of_not (by simp), cut_eq_ok.mpr ⟨rfl, rfl⟩⟩

theorem readLen_eq_ok {width max : ℕ} {value : GoString} (bound : max < 256 ^ width) :
    readLen width max data = .ok (value, rest) ↔
      value.length ≤ max ∧ data = writeLen width value ++ rest := by
  simp only [readLen, bind_eq_ok, Prod.exists, readFixed_eq_ok, failIf_eq_ok, not_lt]
  constructor
  · grind [bigEndian_bigEndianValue, writeLen]
  · grind [bigEndian_length, bigEndianValue_bigEndian, writeLen]

/-- A number of 64 bits is an `int64`, and back. -/
theorem toNat_bmod_emod {value : ℕ} (bound : value < 2 ^ 64) :
    (Int.bmod value (2 ^ 64) % 2 ^ 64).toNat = value := by
  grind

theorem bmod_bounds (value : ℤ) :
    -2 ^ 63 ≤ Int.bmod value (2 ^ 64) ∧ Int.bmod value (2 ^ 64) < 2 ^ 63 := by
  simp only [Int.bmod]
  constructor <;> split <;> omega

theorem bmod_toNat_emod {value : ℤ} (low : -2 ^ 63 ≤ value) (high : value < 2 ^ 63) :
    Int.bmod (value % 2 ^ 64).toNat (2 ^ 64) = value := by
  simp only [Int.bmod]
  split <;> omega

variable {t now : Time} {seen : List GoString} {b : Bundle} {raw : Bytes} {roots : List Root}

theorem unixNano_eq (nanos : t.Nanos) : unixNano t = t.instant - unixEpoch := by
  obtain ⟨-, low, high⟩ := nanos
  exact Int.bmod_eq_of_le (by omega) (by omega)

theorem readTime_eq_ok : readTime data = .ok (t, rest) ↔ t.Nanos ∧ data = writeTime t ++ rest := by
  simp only [readTime, bind_eq_ok, Prod.exists, readFixed_eq_ok]
  constructor
  · rintro ⟨value, after, ⟨size, rfl⟩, same⟩
    obtain ⟨isTime, rfl⟩ := Prod.mk.inj (Except.ok.inj same)
    subst isTime
    have below : bigEndianValue value < 2 ^ 64 := by
      grind [bigEndianValue_lt]
    have nanos : Time.Nanos ⟨unixEpoch + Int.bmod (bigEndianValue value) (2 ^ 64), 0⟩ := by
      obtain ⟨low, high⟩ := bmod_bounds (bigEndianValue value)
      exact ⟨rfl, by dsimp only; omega, by dsimp only; omega⟩
    refine ⟨nanos, ?_⟩
    rw [writeTime, unixNano_eq nanos, add_sub_cancel_left, toNat_bmod_emod below]
    conv_rhs => rw [← size, bigEndian_bigEndianValue]
  · rintro ⟨nanos, rfl⟩
    refine ⟨writeTime t, rest, ⟨by rw [writeTime, bigEndian_length], rfl⟩, ?_⟩
    have bound : (unixNano t % 2 ^ 64).toNat < 256 ^ 8 := by
      omega
    rw [writeTime, bigEndianValue_bigEndian bound, unixNano_eq nanos,
      bmod_toNat_emod nanos.2.1 nanos.2.2, add_sub_cancel, ← nanos.1]
    rfl

/-- The addresses that are read are those that are written. -/
theorem parseAddresses_eq_ok {count : ℕ} {all : List GoString} :
    parseAddresses net peerID count seen data = .ok (all, rest) ↔
      ∃ more, all = seen ++ more ∧ more.length = count ∧ more.Nodup ∧
        (∀ address ∈ more, address ∉ seen ∧ address.length ≤ 4096 ∧
          validateAddress net address peerID = .ok ()) ∧
        data = more.flatMap (writeLen 2) ++ rest := by
  induction count generalizing seen data with
  | zero =>
    constructor
    · intro done
      cases done
      exact ⟨[], by simp⟩
    · grind [parseAddresses]
  | succ count ih =>
    simp only [parseAddresses, bind_eq_ok, Prod.exists, readLen_eq_ok (show 4096 < 256 ^ 2 by decide),
      failIf_eq_ok, ih]
    constructor
    · rintro ⟨address, after, ⟨short, rfl⟩, -, new, ⟨⟩, valid, more, rfl, rfl, distinct, each, rfl⟩
      refine ⟨address :: more, by simp, rfl, List.nodup_cons.mpr ⟨?_, distinct⟩, ?_, by simp⟩
      · grind
      · grind
    · rintro ⟨more, rfl, isCount, distinct, each, rfl⟩
      obtain ⟨address, more, rfl⟩ := List.exists_cons_of_length_eq_add_one isCount
      obtain ⟨⟨new, short, valid⟩, each⟩ := List.forall_mem_cons.mp each
      obtain ⟨notAgain, distinct⟩ := List.nodup_cons.mp distinct
      refine ⟨address, more.flatMap (writeLen 2) ++ rest, ⟨short, by simp⟩, (), new, (), valid,
        more, by simp, by simpa using isCount, distinct, fun other member => ?_, rfl⟩
      obtain ⟨notSeen, fine⟩ := each other member
      refine ⟨?_, fine⟩
      simp only [List.mem_append, List.mem_singleton, not_or]
      exact ⟨notSeen, fun same => notAgain (same ▸ member)⟩

theorem writeAddresses_eq_ok {addresses : List GoString} {written : Bytes} :
    writeAddresses net peerID seen addresses = .ok written ↔
      addresses.Nodup ∧ (∀ address ∈ addresses, address ∉ seen ∧ address.length ≤ 4096 ∧
        validateAddress net address peerID = .ok ()) ∧
      written = addresses.flatMap (writeLen 2) := by
  induction addresses generalizing seen written with
  | nil => simp [writeAddresses, eq_comm]
  | cons address rest ih =>
    simp only [writeAddresses, bind_eq_ok, failIf_eq_ok, ih, not_lt, List.nodup_cons,
      List.forall_mem_cons, List.flatMap_cons, List.mem_append, List.mem_singleton, not_or]
    constructor
    · rintro ⟨-, short, -, new, ⟨⟩, valid, more, ⟨distinct, each, rfl⟩, same⟩
      cases same
      grind
    · rintro ⟨⟨notAgain, distinct⟩, ⟨⟨new, short, valid⟩, each⟩, rfl⟩
      refine ⟨(), short, (), new, (), valid, _, ⟨distinct, fun other member => ?_, rfl⟩, rfl⟩
      exact ⟨⟨(each other member).1, fun same => notAgain (same ▸ member)⟩, (each other member).2⟩

/-- **The encoder.** -/
theorem canonical_eq_ok {unsigned : Bytes} :
    canonical net b = .ok unsigned ↔ b.Checked net ∧ b.version = 1 ∧ b.rootKeyID ≠ [] ∧
      b.peerID ≠ [] ∧ unsigned = bundleMagic ++ b.body := by
  simp only [canonical, bind_eq_ok, failIf_eq_ok, writeAddresses_eq_ok, not_or, not_lt, ne_eq,
    not_not, Bool.not_eq_false, List.length_eq_zero_iff]
  constructor
  · rintro ⟨-, kind, -, version, -, ⟨hasRoot, root⟩, -, ⟨hasPeer, peer⟩, -, decodes, -, some, -,
      few, -, window, addresses, ⟨distinct, each, rfl⟩, same⟩
    cases same
    exact ⟨⟨kind, root, peer, decodes, ⟨by simpa using some, few⟩, distinct,
      fun a member => (each a member).2.1, fun a member => (each a member).2.2, window⟩,
      by omega, hasRoot, hasPeer, rfl⟩
  · rintro ⟨checked, version, hasRoot, hasPeer, rfl⟩
    exact ⟨(), checked.kind, (), by omega, (), ⟨hasRoot, checked.root⟩, (),
      ⟨hasPeer, checked.peer⟩, (), checked.decodes, (), by simpa using checked.count.1, (),
      checked.count.2, (), checked.window, _, ⟨checked.distinct, fun a member =>
        ⟨by simp, checked.short a member, checked.valid a member⟩, rfl⟩, rfl⟩

/-- **The decoder.** -/
theorem parseUnsigned_eq_ok :
    parseUnsigned net data = .ok (b, rest) ↔ b.Checked net ∧ b.version < 2 ^ 32 ∧
      b.notBefore.Nanos ∧ b.notAfter.Nanos ∧ data = b.body ++ rest := by
  simp only [parseUnsigned, bind_eq_ok, Prod.exists, readFixed_eq_ok, failIf_eq_ok,
    readLen_eq_ok (show 64 < 256 ^ 1 by decide), readLen_eq_ok (show 128 < 256 ^ 1 by decide),
    parseAddresses_eq_ok, readTime_eq_ok, not_or, not_lt, ne_eq, not_not, Bool.not_eq_false]
  constructor
  · rintro ⟨version, -, ⟨sizeV, rfl⟩, kind, -, ⟨-, rfl⟩, root, -, ⟨shortR, rfl⟩, peer, -,
      ⟨shortP, rfl⟩, -, isKind, -, decodes, count, -, ⟨sizeC, rfl⟩, -, ⟨some, few⟩, addresses, -,
      ⟨more, rfl, isCount, distinct, each, rfl⟩, before, -, ⟨nanosB, rfl⟩, after, last,
      ⟨nanosA, rfl⟩, -, window, same⟩
    cases same
    refine ⟨⟨isKind, shortR, shortP, decodes, ⟨?_, ?_⟩, distinct, ?_, ?_, window⟩, ?_, nanosB,
      nanosA, ?_⟩
    · simpa [isCount] using some
    · simpa [isCount] using few
    · exact fun a member => (each a member).2.1
    · exact fun a member => (each a member).2.2
    · grind [bigEndianValue_lt]
    · grind [bigEndian_bigEndianValue, Bundle.body]
  · rintro ⟨checked, version, nanosB, nanosA, rfl⟩
    have versionValue : bigEndianValue (bigEndian 4 b.version) = b.version :=
      bigEndianValue_bigEndian (version.trans_eq (by norm_num))
    have countValue : bigEndianValue (bigEndian 2 b.addresses.length) = b.addresses.length :=
      bigEndianValue_bigEndian (checked.count.2.trans_lt (by norm_num))
    refine ⟨bigEndian 4 b.version, _, ⟨bigEndian_length _ _, by rw [Bundle.body, List.append_assoc]⟩,
      b.kind, _, ⟨by rw [checked.kind]; decide, by rw [List.append_assoc]⟩,
      b.rootKeyID, _, ⟨checked.root, by rw [List.append_assoc]⟩,
      b.peerID, _, ⟨checked.peer, by rw [List.append_assoc]⟩, (), checked.kind, (), checked.decodes,
      bigEndian 2 b.addresses.length, _, ⟨bigEndian_length _ _, by rw [List.append_assoc]⟩, (), ?_,
      b.addresses, _, ⟨b.addresses, rfl, countValue.symm, checked.distinct, fun a member =>
        ⟨by simp, checked.short a member, checked.valid a member⟩, by rw [List.append_assoc]⟩,
      b.notBefore, _, ⟨nanosB, by rw [List.append_assoc]⟩, b.notAfter, rest, ⟨nanosA, rfl⟩, (),
      checked.window, ?_⟩
    · rw [countValue]
      exact checked.count
    · rw [versionValue]
      rfl

/-! ## Accepted blobs -/

/-- A blob that is accepted, with everything that was checked. -/
structure Accepts (lib : Library) (net : Addressing) (raw : Bytes) (roots : List Root) (now : Time)
    (b : Bundle) (signature : Bytes) (root : Root) : Prop where
  raw_eq : raw = bundleMagic ++ b.body ++ 64 :: signature
  size : raw.length ≤ maxBundleSize
  signatureSize : signature.length = ed25519SignatureSize
  checked : b.Checked net
  version : b.version = 1
  nanos : b.notBefore.Nanos ∧ b.notAfter.Nanos
  isRoot : pinnedRoot roots b.rootKeyID = some root
  role : root.role = roleBootstrap
  encodes : canonical net b = .ok (bundleMagic ++ b.body)
  verifies : lib.verify root.publicKey (bundleMagic ++ b.body) signature = true
  window : b.notBefore.after now = false ∧ b.notAfter.after now = true

theorem parseVerify_eq_ok :
    parseVerify lib net raw roots now = .ok b ↔
      ∃ signature root, Accepts lib net raw roots now b signature root := by
  have bytes : bigEndian 1 ed25519SignatureSize = [64] := by decide
  simp only [parseVerify, bind_eq_ok, Prod.exists, failIf_eq_ok, readFixed_eq_ok,
    parseUnsigned_eq_ok, not_lt, ne_eq, not_not]
  constructor
  · rintro ⟨-, size, magic, -, ⟨-, rfl⟩, -, rfl, b, -, ⟨checked, -, nanosB, nanosA, rfl⟩, -, low, -,
      high, length, -, ⟨one, rfl⟩, -, isLength, signature, rest, ⟨sizeS, rfl⟩, -, none, done⟩
    obtain rfl : rest = [] := List.length_eq_zero_iff.mp none
    split at done
    · cases done
    · rename_i root found
      simp only [bind_eq_ok, failIf_eq_ok, not_not, Bool.not_eq_true, Bool.not_eq_false] at done
      obtain ⟨-, role, unsigned, encodes, -, verifies, -, started, -, notEnded, same⟩ := done
      cases same
      obtain rfl := (canonical_eq_ok.mp encodes).2.2.2.2
      have isByte : length = [64] := by
        grind [bigEndian_bigEndianValue]
      refine ⟨signature, root, ?_, size, sizeS, checked, by omega, ⟨nanosB, nanosA⟩, found, role,
        encodes, verifies, started, notEnded⟩
      simp [isByte]
  · rintro ⟨signature, root, accepts⟩
    have value : bigEndianValue [64] = ed25519SignatureSize := by decide
    have version := accepts.version
    refine ⟨(), accepts.size, bundleMagic, b.body ++ 64 :: signature, ⟨rfl, ?_⟩, (), rfl, b,
      64 :: signature, ⟨accepts.checked, by omega, accepts.nanos.1, accepts.nanos.2, rfl⟩, (),
      version.ge, (), version.le, [64], signature, ⟨rfl, rfl⟩, (), value, signature, [],
      ⟨accepts.signatureSize, by simp⟩, (), rfl, ?_⟩
    · rw [accepts.raw_eq, List.append_assoc]
    · rw [accepts.isRoot]
      simp [accepts.role, accepts.encodes, accepts.verifies, accepts.window, bind_eq_ok]
      rfl

/-- The decoder checks before it slices. -/
theorem calm_readFixed (n : ℕ) (data : Bytes) : Calm (readFixed n data) := by
  intro panics
  rcases bind_eq_error.mp panics with short | ⟨_, fits, panics⟩
  · exact absurd (failIf_eq_error.mp short).2 (by decide)
  · rw [cut, if_pos (Nat.not_lt.mp (failIf_eq_ok.mp fits))] at panics
    cases panics

theorem calm_malformed {bad : Prop} [Decidable bad] (detail : String) :
    Calm (failIf bad (malformed detail)) := calm_failIf nofun

theorem calm_readLen (width max : ℕ) (data : Bytes) : Calm (readLen width max data) :=
  (calm_readFixed _ _).bind fun _ => (calm_failIf (by decide)).bind fun _ => calm_readFixed _ _

theorem calm_readTime (data : Bytes) : Calm (readTime data) :=
  (calm_readFixed _ _).bind fun _ => calm_ok _

theorem calm_validateAddress (address peerID : GoString) :
    Calm (validateAddress net address peerID) := by
  unfold validateAddress
  split
  · exact nofun
  · split
    · exact nofun
    · exact calm_failIf (by decide)

theorem calm_parseAddresses (count : ℕ) (seen : List GoString) (data : Bytes) :
    Calm (parseAddresses net peerID count seen data) := by
  induction count generalizing seen data with
  | zero => exact calm_ok _
  | succ count ih =>
    exact (calm_readLen _ _ _).bind fun _ => (calm_failIf (by decide)).bind fun _ =>
      (calm_validateAddress _ _).bind fun _ => ih _ _

theorem calm_writeAddresses (seen addresses : List GoString) :
    Calm (writeAddresses net peerID seen addresses) := by
  induction addresses generalizing seen with
  | nil => exact calm_ok _
  | cons address rest ih =>
    exact (calm_malformed _).bind fun _ => (calm_failIf (by decide)).bind fun _ =>
      (calm_validateAddress _ _).bind fun _ => (ih _).bind fun _ => calm_ok _

theorem calm_parseVerify (raw : Bytes) (roots : List Root) (now : Time) :
    Calm (parseVerify lib net raw roots now) := by
  unfold parseVerify parseUnsigned
  repeat' first
    | with_reducible refine Calm.bind ?_ fun _ => ?_
    | exact calm_ok _
    | exact calm_readFixed _ _
    | exact calm_readLen _ _ _
    | exact calm_readTime _
    | exact calm_parseAddresses _ _ _
    | exact calm_malformed _
    | exact calm_failIf (by decide)
  split
  · exact nofun
  · unfold canonical
    repeat' first
      | with_reducible refine Calm.bind ?_ fun _ => ?_
      | exact calm_ok _
      | exact calm_writeAddresses _ _
      | exact calm_malformed _
      | exact calm_failIf (by decide)
      | exact calm_failIf nofun

/-- The bytes before the signature. -/
theorem Accepts.take_eq
    {signature : Bytes} {root : Root} (accepts : Accepts lib net raw roots now b signature root) :
    raw.take (raw.length - 65) = bundleMagic ++ b.body := by
  have length : raw.length - 65 = (bundleMagic ++ b.body).length := by
    have total : (bundleMagic ++ b.body ++ 64 :: signature).length =
        (bundleMagic ++ b.body).length + 65 :=
      List.length_append.trans (congrArg (fun n => (bundleMagic ++ b.body).length + (n + 1)) accepts.signatureSize)
    rw [accepts.raw_eq, total, Nat.add_sub_cancel]
  rw [length, accepts.raw_eq, List.take_left]

end Lemmas

/-! ## What is accepted -/

/-- The format of bundles is not malleable: what is accepted is the canonical encoding of the bundle
that is returned, the byte 64 and a signature under a pinned root of the bundle's name; different
encodings give different bundles; and the decoder never slices beyond its input. -/
theorem parseVerify_exact (lib : Library) (net : Addressing) (raw : Bytes) (roots : List Root)
    (now : Time) :
    (∀ b, parseVerify lib net raw roots now = .ok b → ∃ unsigned signature, ∃ root ∈ roots,
      canonical net b = .ok unsigned ∧ raw = unsigned ++ 64 :: signature ∧ signature.length = 64 ∧
      root.role = roleBootstrap ∧ root.keyID = b.rootKeyID ∧
      lib.verify root.publicKey unsigned signature = true) ∧
    (∀ raw' roots' now' b b', parseVerify lib net raw roots now = .ok b →
      parseVerify lib net raw' roots' now' = .ok b' →
      raw.take (raw.length - 65) ≠ raw'.take (raw'.length - 65) → b ≠ b') ∧
    parseVerify lib net raw roots now ≠ .error slicePanic := by
  refine ⟨?_, ?_, calm_parseVerify raw roots now⟩
  · intro b accepted
    obtain ⟨signature, root, accepts⟩ := parseVerify_eq_ok.mp accepted
    have found := List.find?_some accepts.isRoot
    exact ⟨_, signature, root, List.mem_of_find?_eq_some accepts.isRoot, accepts.encodes,
      accepts.raw_eq, accepts.signatureSize, accepts.role, by simpa using found, accepts.verifies⟩
  · rintro raw' roots' now' b _ accepted accepted' different rfl
    obtain ⟨_, _, accepts⟩ := parseVerify_eq_ok.mp accepted
    obtain ⟨_, _, accepts'⟩ := parseVerify_eq_ok.mp accepted'
    exact different (accepts.take_eq.trans accepts'.take_eq.symm)

/-! ## What is signed -/

/-- The same bundle, with its instants in perhaps another zone. -/
def Bundle.Same (b b' : Bundle) : Prop :=
  b'.version = b.version ∧ b'.kind = b.kind ∧ b'.rootKeyID = b.rootKeyID ∧ b'.peerID = b.peerID ∧
    b'.addresses = b.addresses ∧ b'.notBefore.instant = b.notBefore.instant ∧
    b'.notAfter.instant = b.notAfter.instant

theorem Bundle.Same.body {b b' : Bundle} (same : b.Same b') : b'.body = b.body := by
  obtain ⟨version, kind, root, peer, addresses, before, after⟩ := same
  simp only [Bundle.body, writeTime, unixNano, version, kind, root, peer, addresses, before, after]

/-- The nanoseconds of the instant since 1970 are an `int64`. -/
def Time.FitsUnixNano (t : Time) : Prop :=
  -2 ^ 63 ≤ t.instant - unixEpoch ∧ t.instant - unixEpoch < 2 ^ 63

/-- A signed bundle is readable inside its window exactly if it is not too large, its instants
are those that nanoseconds can express, and the first root with its name is a bootstrap root that
verifies it. -/
theorem parseVerify_sign_iff (lib : Library) (net : Addressing) {b : Bundle} {secret blob : Bytes}
    {now : Time} (pair : lib.KeyPair secret) (signed : signBundle lib net b secret = .ok blob)
    (started : b.notBefore.after now = false) (notEnded : b.notAfter.after now = true)
    (roots : List Root) :
    (∃ b', parseVerify lib net blob roots now = .ok b' ∧ b.Same b') ↔
      blob.length ≤ maxBundleSize ∧ b.notBefore.FitsUnixNano ∧ b.notAfter.FitsUnixNano ∧
      ∃ root, pinnedRoot roots b.rootKeyID = some root ∧ root.role = roleBootstrap ∧
        lib.verify root.publicKey (bundleMagic ++ b.body)
          (lib.sign secret (bundleMagic ++ b.body)) = true := by
  obtain ⟨_, encoded, same⟩ := bind_eq_ok.mp signed
  obtain ⟨checked, version, hasRoot, hasPeer, rfl⟩ := canonical_eq_ok.mp encoded
  have size := pair.signatureSize (bundleMagic ++ b.body)
  have isBlob : blob = bundleMagic ++ b.body ++ 64 :: lib.sign secret (bundleMagic ++ b.body) := by
    rw [← Except.ok.inj same, size]
    rfl
  constructor
  · rintro ⟨b', accepted, isSame⟩
    obtain ⟨signature, root, accepts⟩ := parseVerify_eq_ok.mp accepted
    have isSignature : 64 :: lib.sign secret (bundleMagic ++ b.body) = 64 :: signature := by
      have both := isBlob.symm.trans accepts.raw_eq
      rw [isSame.body] at both
      exact List.append_cancel_left both
    have fits : ∀ {t t' : Time}, t'.Nanos → t'.instant = t.instant → t.FitsUnixNano := by
      rintro t t' ⟨-, low, high⟩ isInstant
      exact ⟨isInstant ▸ low, isInstant ▸ high⟩
    have verifies := accepts.verifies
    rw [isSame.body, ← (List.cons.inj isSignature).2] at verifies
    obtain ⟨-, -, isID, -, -, before, after⟩ := isSame
    exact ⟨accepts.size, fits accepts.nanos.1 before, fits accepts.nanos.2 after, root,
      isID ▸ accepts.isRoot, accepts.role, verifies⟩
  · rintro ⟨small, before, after, root, isRoot, role, verifies⟩
    -- The decoder gives the same instants in UTC.
    let utc : Bundle := { b with notBefore := b.notBefore.utc, notAfter := b.notAfter.utc }
    have isSame : b.Same utc := ⟨rfl, rfl, rfl, rfl, rfl, rfl, rfl⟩
    have utcChecked : utc.Checked net :=
      ⟨checked.kind, checked.root, checked.peer, checked.decodes, checked.count, checked.distinct,
        checked.short, checked.valid, checked.window⟩
    refine ⟨utc, parseVerify_eq_ok.mpr ⟨_, root, ?_, small, size, utcChecked, version,
      ⟨⟨rfl, before⟩, ⟨rfl, after⟩⟩, isRoot, role,
      canonical_eq_ok.mpr ⟨utcChecked, version, hasRoot, hasPeer, rfl⟩, ?_,
      ⟨started, notEnded⟩⟩, isSame⟩
    · rw [isSame.body]
      exact isBlob
    · rw [isSame.body]
      exact verifies

/-! ## Where the addresses end -/

/-- The last component of the address is a `p2p` component. -/
def EndsAtPeer (net : Addressing) (address : GoString) : Prop :=
  ∃ components last, net.multiaddr address = some components ∧ components.getLast? = some last ∧
    last.code = p2pCode

theorem terminalP2P_concat {net : Addressing} {before : List Component} {last : Component}
    {value : GoString} (isPeer : last.code = p2pCode)
    (found : terminalP2P net (before ++ [last]) = .ok value) : last.value = value := by
  simp only [terminalP2P, bind_eq_ok, List.foldl_append, List.foldl_cons, List.foldl_nil,
    if_pos isPeer] at found
  obtain ⟨-, -, -, -, same⟩ := found
  exact Except.ok.inj same

/-- The addresses of an accepted bundle end at its peer exactly if they end at some peer:
`terminalP2P` takes the last `p2p` component, wherever it stands. -/
theorem addresses_end_at_peer_iff (lib : Library) (net : Addressing) {raw : Bytes}
    {roots : List Root} {now : Time} {b : Bundle}
    (accepted : parseVerify lib net raw roots now = .ok b) :
    (∀ address ∈ b.addresses, ∃ components, net.multiaddr address = some components ∧
      components.getLast? = some ⟨p2pCode, b.peerID⟩) ↔
      ∀ address ∈ b.addresses, EndsAtPeer net address := by
  obtain ⟨signature, root, accepts⟩ := parseVerify_eq_ok.mp accepted
  constructor
  · intro ends address member
    obtain ⟨components, parsed, isLast⟩ := ends address member
    exact ⟨components, _, parsed, isLast, rfl⟩
  · intro ends address member
    obtain ⟨components, last, parsed, isLast, isPeer⟩ := ends address member
    obtain ⟨before, rfl⟩ := List.getLast?_eq_some_iff.mp isLast
    have valid := accepts.checked.valid address member
    simp only [validateAddress, parsed] at valid
    split at valid
    · cases valid
    · rename_i embedded found
      have isID : embedded = b.peerID := not_not.mp (failIf_eq_ok.mp valid)
      have value := terminalP2P_concat isPeer found
      rw [isID] at value
      refine ⟨_, parsed, isLast.trans (congrArg some ?_)⟩
      rw [← isPeer, ← value]

namespace Sample

/-- The components of an address: `p2p` and the like with a value, `p2p-circuit` without. -/
def components : List GoString → Option (List Component)
  | [] => some []
  | [name] => if name = str "p2p-circuit" then some [⟨290, []⟩] else none
  | name :: value :: rest =>
    if name = str "p2p-circuit" then (components (value :: rest)).map (⟨290, []⟩ :: ·)
    else if name = str "p2p" then (components rest).map (⟨p2pCode, value⟩ :: ·)
    else if name = str "tcp" then (components rest).map (⟨6, value⟩ :: ·)
    else none

def addressing : Addressing where
  peerDecodes text := text ≠ []
  multiaddr text := components ((split 0x2F text).drop 1)

def bootstrapRoots : List Root := [⟨str "root", roleBootstrap, sizedLibrary.publicKey [1]⟩]

/-- A bundle of one address, from 1999 on. -/
def bootstrapBundle (address : String) (lifetime : Duration) : Bundle where
  version := 1
  kind := kindBootstrap
  rootKeyID := str "root"
  peerID := str "QmA"
  addresses := [str address]
  notBefore := issueTime
  notAfter := issueTime.add lifetime

/-- It is read at its first instant. -/
def bootstrapRead (address : String) (lifetime : Duration) : Except GoError Bundle := do
  let blob ← signBundle sizedLibrary addressing (bootstrapBundle address lifetime) [1]
  parseVerify sizedLibrary addressing blob bootstrapRoots issueTime

/-- The bundle that is read, of one hour. -/
def readBundle (address : String) : Bundle :=
  { bootstrapBundle address (3600 * 10 ^ 9) with
    notBefore := issueTime.utc, notAfter := (issueTime.add (3600 * 10 ^ 9)).utc }

theorem bootstrapRead_hour : ∀ address ∈ ["/tcp/4001/p2p/QmA", "/tcp/4001/p2p/QmA/p2p-circuit"],
    bootstrapRead address (3600 * 10 ^ 9) = .ok (readBundle address) := by decide +kernel

end Sample

/-- A bundle of one hour. -/
theorem parseVerify_sign_iff_hour : ∃ blob b',
    signBundle Sample.sizedLibrary Sample.addressing
      (Sample.bootstrapBundle "/tcp/4001/p2p/QmA" (3600 * 10 ^ 9)) [1] = .ok blob ∧
    parseVerify Sample.sizedLibrary Sample.addressing blob Sample.bootstrapRoots
      Sample.issueTime = .ok b' ∧
    (Sample.bootstrapBundle "/tcp/4001/p2p/QmA" (3600 * 10 ^ 9)).Same b' := by
  obtain ⟨blob, signed, read⟩ := bind_eq_ok.mp (Sample.bootstrapRead_hour _ List.mem_cons_self)
  obtain ⟨_, _, accepts⟩ := parseVerify_eq_ok.mp read
  obtain ⟨b', accepted, same⟩ := (parseVerify_sign_iff Sample.sizedLibrary Sample.addressing
    (Sample.sizedLibrary_keyPair [1]) signed
    (show Sample.issueTime.after Sample.issueTime = false by decide)
    (show (Sample.issueTime.add _).after _ = true by decide) Sample.bootstrapRoots).mpr
    ⟨accepts.size, ⟨by decide, by decide⟩, ⟨by decide, by decide⟩, _, rfl, rfl, rfl⟩
  exact ⟨blob, b', signed, accepted, same⟩

/-- A bundle that is valid for three centuries is signed and cannot be read. -/
theorem long_bundle_unreadable : ∃ blob,
    signBundle Sample.sizedLibrary Sample.addressing
      (Sample.bootstrapBundle "/tcp/4001/p2p/QmA" (300 * 365 * 86400 * 10 ^ 9)) [1] = .ok blob ∧
    parseVerify Sample.sizedLibrary Sample.addressing blob Sample.bootstrapRoots
      Sample.issueTime = .error errInvalidValidity :=
  ⟨_, rfl, by decide +kernel⟩

/-- An address that ends at the peer. -/
theorem addresses_end_at_peer_iff_direct : ∃ b,
    Sample.bootstrapRead "/tcp/4001/p2p/QmA" (3600 * 10 ^ 9) = .ok b ∧
    ∀ address ∈ b.addresses, ∃ components, Sample.addressing.multiaddr address = some components ∧
      components.getLast? = some ⟨p2pCode, b.peerID⟩ := by
  have isBundle := Sample.bootstrapRead_hour "/tcp/4001/p2p/QmA" List.mem_cons_self
  obtain ⟨blob, -, accepted⟩ := bind_eq_ok.mp isBundle
  refine ⟨_, isBundle, (addresses_end_at_peer_iff Sample.sizedLibrary Sample.addressing
    accepted).mpr ?_⟩
  intro address member
  rw [List.mem_singleton.mp member]
  exact ⟨_, _, rfl, rfl, rfl⟩

/-- An address that goes on after the peer is accepted. -/
theorem circuit_address_accepted : ∃ b components last,
    Sample.bootstrapRead "/tcp/4001/p2p/QmA/p2p-circuit" (3600 * 10 ^ 9) = .ok b ∧
    str "/tcp/4001/p2p/QmA/p2p-circuit" ∈ b.addresses ∧
    Sample.addressing.multiaddr (str "/tcp/4001/p2p/QmA/p2p-circuit") = some components ∧
    components.getLast? = some last ∧ last.code ≠ p2pCode :=
  ⟨_, _, _, Sample.bootstrapRead_hour _ (List.mem_cons_of_mem _ (List.mem_singleton_self _)),
    List.mem_singleton_self _, rfl, rfl, by decide⟩

end Tubo
