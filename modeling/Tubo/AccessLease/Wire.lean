import Tubo.AccessLease.Invite
import Tubo.AccessLease.Language

/-!
# The wire form of the credentials

Package `internal/accesslease`: the JSON of the Access Lease, the owner binding and
the exact invite, with and without their signatures, and what the strict decoder reads
from it.  `Library` keeps what is not translated: Ed25519, SHA-256 and the general
`time.Parse`.

* `read_lease`, `read_binding`, `read_invite` — the fields of a credential are read
  back from its members.
* `signingBytes_determine` — the signed bytes of a credential determine its kind and
  all its fields except the signature.
-/

namespace Tubo

open Json

/-- The library functions that are not translated. -/
structure Library where
  publicKey : Bytes → Bytes
  sign : Bytes → Bytes → Bytes
  verify : Bytes → Bytes → Bytes → Bool
  sha256 : Bytes → Bytes
  parseTime : Bytes → Option Time

/-! ## Members -/

/-- A string member. -/
def textScalar (text : GoString) : Scalar := .string (escape text)

/-- A time member. -/
def timeScalar (t : Time) : Except GoError Scalar := do
  let text ← errorf "json: error calling MarshalJSON for type time.Time: " t.marshalText
  return .string text

/-- A string member with `omitempty`. -/
def optionalMember (key : String) (text : GoString) : Members :=
  if text = [] then [] else [(str key, textScalar text)]

def signatureMember (signature : GoString) : Members :=
  [(str "signature", textScalar signature)]

/-- The members of `accessLeaseSigning`. -/
def AccessLease.bodyMembers (l : AccessLease) : Except GoError Members := do
  let issuedAt ← timeScalar l.issuedAt
  let notBefore ← timeScalar l.notBefore
  let expiresAt ← timeScalar l.expiresAt
  return [(str "version", .number (itoa l.version)), (str "type", textScalar l.type),
    (str "issuer", textScalar l.issuer), (str "subject", textScalar l.subject),
    (str "audience_pipe_id", textScalar l.audiencePipeID), (str "jti", textScalar l.jti),
    (str "issued_at", issuedAt), (str "not_before", notBefore),
    (str "expires_at", expiresAt), (str "access_epoch", .number (itoa l.accessEpoch))]

/-- The members of `ownerBindingSigning`. -/
def OwnerBinding.bodyMembers (b : OwnerBinding) : Members :=
  [(str "version", .number (itoa b.version)), (str "type", textScalar b.type),
    (str "owner", textScalar b.owner), (str "authority_key", textScalar b.authorityKey),
    (str "pipe_id", textScalar b.pipeID)] ++
  (optionalMember "redemption_peers" b.redemptionPeers ++
    (optionalMember "redemption_protocol" b.redemptionProtocol ++
      [(str "epoch", .number (itoa b.epoch))]))

/-- The members of `inviteSigning`. -/
def ExactInvite.bodyMembers (i : ExactInvite) : Except GoError Members := do
  let issuedAt ← timeScalar i.issuedAt
  let notBefore ← timeScalar i.notBefore
  let expiresAt ← timeScalar i.expiresAt
  return [(str "version", .number (itoa i.version)), (str "type", textScalar i.type),
    (str "issuer", textScalar i.issuer),
    (str "audience_pipe_id", textScalar i.audiencePipeID),
    (str "binding", textScalar i.binding), (str "jti", textScalar i.jti),
    (str "issued_at", issuedAt), (str "not_before", notBefore),
    (str "expires_at", expiresAt), (str "access_epoch", .number (itoa i.accessEpoch)),
    (str "one_time", .bool i.oneTime)]

/-! ## Allow-lists -/

/-- `accessLeaseAllowed`. -/
def accessLeaseAllowed : Allowed :=
  [(str "audience_pipe_id", maxPipeIDLen), (str "version", maxFieldLen),
    (str "type", maxFieldLen), (str "issuer", maxFieldLen), (str "subject", maxFieldLen),
    (str "jti", maxFieldLen), (str "issued_at", maxFieldLen),
    (str "not_before", maxFieldLen), (str "expires_at", maxFieldLen),
    (str "access_epoch", maxFieldLen), (str "signature", maxFieldLen)]

/-- `ownerBindingAllowed`. -/
def ownerBindingAllowed : Allowed :=
  [(str "pipe_id", maxPipeIDLen), (str "redemption_peers", maxRedemptionAddrLen),
    (str "redemption_protocol", maxRedemptionProtocolLen), (str "version", maxFieldLen),
    (str "type", maxFieldLen), (str "owner", maxFieldLen),
    (str "authority_key", maxFieldLen), (str "epoch", maxFieldLen),
    (str "signature", maxFieldLen)]

/-- `inviteAllowed`. -/
def inviteAllowed : Allowed :=
  [(str "audience_pipe_id", maxPipeIDLen), (str "binding", maxBytes),
    (str "version", maxFieldLen), (str "type", maxFieldLen), (str "issuer", maxFieldLen),
    (str "jti", maxFieldLen), (str "issued_at", maxFieldLen),
    (str "not_before", maxFieldLen), (str "expires_at", maxFieldLen),
    (str "access_epoch", maxFieldLen), (str "one_time", maxFieldLen),
    (str "signature", maxFieldLen)]

/-! ## Reading -/

section Reading

variable (parse : Bytes → Option Time)

/-- `json.Unmarshal` into an `AccessLease`. -/
def readLease (members : Members) : Except GoError AccessLease := do
  let version ← members.int "version"
  let type ← members.text "type"
  let issuer ← members.text "issuer"
  let subject ← members.text "subject"
  let audiencePipeID ← members.text "audience_pipe_id"
  let jti ← members.text "jti"
  let issuedAt ← members.time parse "issued_at"
  let notBefore ← members.time parse "not_before"
  let expiresAt ← members.time parse "expires_at"
  let accessEpoch ← members.uint "access_epoch"
  let signature ← members.text "signature"
  return ⟨version, type, issuer, subject, audiencePipeID, jti, issuedAt, notBefore,
    expiresAt, accessEpoch, signature⟩

/-- `json.Unmarshal` into an `OwnerBinding`. -/
def readBinding (members : Members) : Except GoError OwnerBinding := do
  let version ← members.int "version"
  let type ← members.text "type"
  let owner ← members.text "owner"
  let authorityKey ← members.text "authority_key"
  let pipeID ← members.text "pipe_id"
  let redemptionPeers ← members.text "redemption_peers"
  let redemptionProtocol ← members.text "redemption_protocol"
  let epoch ← members.uint "epoch"
  let signature ← members.text "signature"
  return ⟨version, type, owner, authorityKey, pipeID, redemptionPeers,
    redemptionProtocol, epoch, signature⟩

/-- `json.Unmarshal` into an `ExactInvite`. -/
def readInvite (members : Members) : Except GoError ExactInvite := do
  let version ← members.int "version"
  let type ← members.text "type"
  let issuer ← members.text "issuer"
  let audiencePipeID ← members.text "audience_pipe_id"
  let binding ← members.text "binding"
  let jti ← members.text "jti"
  let issuedAt ← members.time parse "issued_at"
  let notBefore ← members.time parse "not_before"
  let expiresAt ← members.time parse "expires_at"
  let accessEpoch ← members.uint "access_epoch"
  let oneTime ← members.bool "one_time"
  let signature ← members.text "signature"
  return ⟨version, type, issuer, audiencePipeID, binding, jti, issuedAt, notBefore,
    expiresAt, accessEpoch, oneTime, signature⟩

end Reading

/-- The functions that credentials rest on, with the JSON of the package. -/
def Library.primitives (lib : Library) : Primitives where
  publicKey := lib.publicKey
  sign := lib.sign
  verify := lib.verify
  sha256 := lib.sha256
  leaseBody l := do return writeObject (← l.bodyMembers)
  bindingBody b := .ok (writeObject b.bodyMembers)
  inviteBody i := do return writeObject (← i.bodyMembers)
  marshalLease l := do
    return writeObject ((← l.bodyMembers) ++ signatureMember l.signature)
  marshalBinding b := .ok (writeObject (b.bodyMembers ++ signatureMember b.signature))
  marshalInvite i := do
    return writeObject ((← i.bodyMembers) ++ signatureMember i.signature)
  unmarshalLease data := do readLease lib.parseTime (← scanFlatObject data accessLeaseAllowed)
  unmarshalBinding data := do readBinding (← scanFlatObject data ownerBindingAllowed)
  unmarshalInvite data := do readInvite lib.parseTime (← scanFlatObject data inviteAllowed)

/-! ## Fields are read back -/

/-- The numbers of an `int`. -/
def FitsInt (value : ℤ) : Prop := -int64Size ≤ value ∧ value < int64Size

section Fields

variable {members : Members} {key : String}

theorem Members.text_textScalar {text : GoString} (valid : ValidUTF8 text)
    (found : members.lookup (str key) = some (textScalar text)) : members.text key = .ok text := by
  rw [Members.text, found]
  exact congrArg Except.ok (unquote_escape valid)

theorem Members.text_absent (absent : members.lookup (str key) = none) :
    members.text key = .ok [] := by
  rw [Members.text, absent]

theorem Members.text_append {fields tail : Members} (absent : fields.lookup (str key) = none) :
    Members.text (fields ++ tail) key = tail.text key := by
  rw [Members.text, List.lookup_append, absent, Option.none_or]
  rfl

theorem Members.int_itoa {value : ℤ} (fits : FitsInt value)
    (found : members.lookup (str key) = some (.number (itoa value))) :
    members.int key = .ok value := by
  rw [Members.int, found]
  dsimp only
  rw [parseInt_itoa fits.1 fits.2]
  rfl

theorem Members.uint_itoa {value : ℕ} (fits : value < uint64Size)
    (found : members.lookup (str key) = some (.number (itoa value))) :
    members.uint key = .ok value := by
  rw [Members.uint, found]
  dsimp only
  rw [parseUint_itoa fits]
  rfl

theorem Members.bool_bool {value : Bool} (found : members.lookup (str key) = some (.bool value)) :
    members.bool key = .ok value := by
  rw [Members.bool, found]

theorem timeScalar_eq_ok {t : Time} {scalar : Scalar} (written : timeScalar t = .ok scalar) :
    ∃ text, t.marshalText = .ok text ∧ scalar = .string text := by
  simp only [timeScalar, bind_eq_ok, errorf_eq_ok] at written
  obtain ⟨text, isText, same⟩ := written
  exact ⟨text, isText, (Except.ok.inj same).symm⟩

theorem Members.time_timeScalar {parse : Bytes → Option Time} {t : Time} {scalar : Scalar}
    (isUTC : t.offset = 0) (written : timeScalar t = .ok scalar)
    (found : members.lookup (str key) = some scalar) : members.time parse key = .ok t := by
  obtain ⟨text, isText, rfl⟩ := timeScalar_eq_ok written
  rw [Members.time, found]
  dsimp only
  rw [Time.unmarshalText, Time.parseRFC3339_text isUTC isText]
  rfl

end Fields

/-- A lease whose strings, numbers and times are those of Go: valid UTF-8, UTC. -/
structure AccessLease.Encodable (l : AccessLease) : Prop where
  version : FitsInt l.version
  epoch : l.accessEpoch < uint64Size
  texts : ∀ text ∈ [l.type, l.issuer, l.subject, l.audiencePipeID, l.jti, l.signature],
    ValidUTF8 text
  times : ∀ t ∈ [l.issuedAt, l.notBefore, l.expiresAt], t.offset = 0

structure OwnerBinding.Encodable (b : OwnerBinding) : Prop where
  version : FitsInt b.version
  epoch : b.epoch < uint64Size
  texts : ∀ text ∈ [b.type, b.owner, b.authorityKey, b.pipeID, b.redemptionPeers,
    b.redemptionProtocol, b.signature], ValidUTF8 text

structure ExactInvite.Encodable (i : ExactInvite) : Prop where
  version : FitsInt i.version
  epoch : i.accessEpoch < uint64Size
  texts : ∀ text ∈ [i.type, i.issuer, i.audiencePipeID, i.binding, i.jti, i.signature],
    ValidUTF8 text
  times : ∀ t ∈ [i.issuedAt, i.notBefore, i.expiresAt], t.offset = 0

section ReadBack

variable (parse : Bytes → Option Time) {members tail : Members} {signature : GoString}

/-- The fields of a lease are read back from the members of its body, whatever gives
the signature. -/
theorem readLease_members {l : AccessLease} (encodable : l.Encodable)
    (written : l.bodyMembers = .ok members) (signed : tail.text "signature" = .ok signature) :
    readLease parse (members ++ tail) = .ok { l with signature } := by
  simp only [AccessLease.bodyMembers, bind_eq_ok] at written
  obtain ⟨issuedAt, isIssued, notBefore, isNotBefore, expiresAt, isExpires, same⟩ := written
  obtain rfl := Except.ok.inj same
  have texts := encodable.texts
  have times := encodable.times
  simp only [List.mem_cons, List.not_mem_nil, or_false, forall_eq_or_imp, forall_eq] at texts times
  obtain ⟨validType, validIssuer, validSubject, validPipe, validJTI, -⟩ := texts
  obtain ⟨issuedUTC, notBeforeUTC, expiresUTC⟩ := times
  rw [readLease, Members.int_itoa encodable.version rfl, ok_bind,
    Members.text_textScalar validType rfl, ok_bind,
    Members.text_textScalar validIssuer rfl, ok_bind,
    Members.text_textScalar validSubject rfl, ok_bind,
    Members.text_textScalar validPipe rfl, ok_bind,
    Members.text_textScalar validJTI rfl, ok_bind,
    Members.time_timeScalar issuedUTC isIssued rfl, ok_bind,
    Members.time_timeScalar notBeforeUTC isNotBefore rfl, ok_bind,
    Members.time_timeScalar expiresUTC isExpires rfl, ok_bind,
    Members.uint_itoa encodable.epoch rfl, ok_bind, Members.text_append rfl, signed]
  rfl

/-- Like `readLease_members`; a member with `omitempty` that is missing is empty. -/
theorem readBinding_members {b : OwnerBinding} (encodable : b.Encodable)
    (signed : tail.text "signature" = .ok signature)
    (noPeers : tail.lookup (str "redemption_peers") = none)
    (noProtocol : tail.lookup (str "redemption_protocol") = none) :
    readBinding (b.bodyMembers ++ tail) = .ok { b with signature } := by
  have texts := encodable.texts
  simp only [List.mem_cons, List.not_mem_nil, or_false, forall_eq_or_imp, forall_eq] at texts
  obtain ⟨validType, validOwner, validKey, validPipe, validPeers, validProtocol, -⟩ := texts
  have peers : Members.text (b.bodyMembers ++ tail) "redemption_peers" = .ok b.redemptionPeers := by
    unfold OwnerBinding.bodyMembers optionalMember
    by_cases empty : b.redemptionPeers = []
    · rw [if_pos empty, empty]
      refine Members.text_absent ?_
      split <;> exact noPeers
    · rw [if_neg empty]
      exact Members.text_textScalar validPeers rfl
  have protocol : Members.text (b.bodyMembers ++ tail) "redemption_protocol" =
      .ok b.redemptionProtocol := by
    unfold OwnerBinding.bodyMembers optionalMember
    by_cases empty : b.redemptionProtocol = []
    · rw [if_pos empty, empty]
      refine Members.text_absent ?_
      split <;> exact noProtocol
    · rw [if_neg empty]
      split <;> exact Members.text_textScalar validProtocol rfl
  have epoch : Members.uint (b.bodyMembers ++ tail) "epoch" = .ok b.epoch := by
    unfold OwnerBinding.bodyMembers optionalMember
    split <;> split <;> exact Members.uint_itoa encodable.epoch rfl
  have last : Members.text (b.bodyMembers ++ tail) "signature" = .ok signature := by
    refine (Members.text_append ?_).trans signed
    unfold OwnerBinding.bodyMembers optionalMember
    split <;> split <;> rfl
  rw [readBinding, Members.int_itoa encodable.version rfl, ok_bind,
    Members.text_textScalar validType rfl, ok_bind,
    Members.text_textScalar validOwner rfl, ok_bind,
    Members.text_textScalar validKey rfl, ok_bind,
    Members.text_textScalar validPipe rfl, ok_bind, peers, ok_bind, protocol, ok_bind,
    epoch, ok_bind, last]
  rfl

theorem readInvite_members {i : ExactInvite} (encodable : i.Encodable)
    (written : i.bodyMembers = .ok members) (signed : tail.text "signature" = .ok signature) :
    readInvite parse (members ++ tail) = .ok { i with signature } := by
  simp only [ExactInvite.bodyMembers, bind_eq_ok] at written
  obtain ⟨issuedAt, isIssued, notBefore, isNotBefore, expiresAt, isExpires, same⟩ := written
  obtain rfl := Except.ok.inj same
  have texts := encodable.texts
  have times := encodable.times
  simp only [List.mem_cons, List.not_mem_nil, or_false, forall_eq_or_imp, forall_eq] at texts times
  obtain ⟨validType, validIssuer, validPipe, validBinding, validJTI, -⟩ := texts
  obtain ⟨issuedUTC, notBeforeUTC, expiresUTC⟩ := times
  rw [readInvite, Members.int_itoa encodable.version rfl, ok_bind,
    Members.text_textScalar validType rfl, ok_bind,
    Members.text_textScalar validIssuer rfl, ok_bind,
    Members.text_textScalar validPipe rfl, ok_bind,
    Members.text_textScalar validBinding rfl, ok_bind,
    Members.text_textScalar validJTI rfl, ok_bind,
    Members.time_timeScalar issuedUTC isIssued rfl, ok_bind,
    Members.time_timeScalar notBeforeUTC isNotBefore rfl, ok_bind,
    Members.time_timeScalar expiresUTC isExpires rfl, ok_bind,
    Members.uint_itoa encodable.epoch rfl, ok_bind, Members.bool_bool rfl, ok_bind,
    Members.text_append rfl, signed]
  rfl

end ReadBack

/-! ## The texts determine the members -/

theorem writtenMember_text {key : String} {text : GoString}
    (plain : (str key).all plainByte = true) (valid : ValidUTF8 text) :
    WrittenMember (str key, textScalar text) :=
  ⟨content_plain plain, escape_content valid⟩

theorem writtenMember_int {key : String} {value : ℤ}
    (plain : (str key).all plainByte = true) (bound : value.natAbs ≤ uint64Size) :
    WrittenMember (str key, .number (itoa value)) := by
  have small : uint64Size < floatLimit := by decide +kernel
  exact ⟨content_plain plain, value, rfl, bound.trans_lt small⟩

theorem writtenMember_bool {key : String} {value : Bool}
    (plain : (str key).all plainByte = true) : WrittenMember (str key, .bool value) :=
  ⟨content_plain plain, trivial⟩

theorem writtenMember_time {key : String} {t : Time} {scalar : Scalar}
    (plain : (str key).all plainByte = true) (isUTC : t.offset = 0)
    (written : timeScalar t = .ok scalar) : WrittenMember (str key, scalar) := by
  obtain ⟨text, isText, rfl⟩ := timeScalar_eq_ok written
  exact ⟨content_plain plain, content_plain (Time.marshalText_plain isUTC isText).1⟩

theorem FitsInt.natAbs_le {value : ℤ} (fits : FitsInt value) : value.natAbs ≤ uint64Size := by
  unfold FitsInt int64Size at fits
  unfold uint64Size
  omega

theorem AccessLease.writtenMembers {l : AccessLease} (encodable : l.Encodable)
    {members : Members} (written : l.bodyMembers = .ok members) :
    members ≠ [] ∧ ∀ member ∈ members, WrittenMember member := by
  simp only [AccessLease.bodyMembers, bind_eq_ok] at written
  obtain ⟨issuedAt, isIssued, notBefore, isNotBefore, expiresAt, isExpires, same⟩ := written
  obtain rfl := Except.ok.inj same
  have texts := encodable.texts
  have times := encodable.times
  simp only [List.mem_cons, List.not_mem_nil, or_false, forall_eq_or_imp, forall_eq] at texts times
  refine ⟨by simp, ?_⟩
  simp only [List.mem_cons, List.not_mem_nil, or_false, forall_eq_or_imp, forall_eq]
  exact ⟨writtenMember_int (by decide) encodable.version.natAbs_le,
    writtenMember_text (by decide) texts.1, writtenMember_text (by decide) texts.2.1,
    writtenMember_text (by decide) texts.2.2.1, writtenMember_text (by decide) texts.2.2.2.1,
    writtenMember_text (by decide) texts.2.2.2.2.1,
    writtenMember_time (by decide) times.1 isIssued,
    writtenMember_time (by decide) times.2.1 isNotBefore,
    writtenMember_time (by decide) times.2.2 isExpires,
    writtenMember_int (by decide) (by simpa using encodable.epoch.le)⟩

theorem OwnerBinding.writtenMembers {b : OwnerBinding} (encodable : b.Encodable) :
    b.bodyMembers ≠ [] ∧ ∀ member ∈ b.bodyMembers, WrittenMember member := by
  have texts := encodable.texts
  simp only [List.mem_cons, List.not_mem_nil, or_false, forall_eq_or_imp, forall_eq] at texts
  obtain ⟨validType, validOwner, validKey, validPipe, validPeers, validProtocol, -⟩ := texts
  have optional : ∀ {key : String} {text : GoString}, (str key).all plainByte = true →
      ValidUTF8 text → ∀ member ∈ optionalMember key text, WrittenMember member := by
    intro key text plain valid member isMember
    unfold optionalMember at isMember
    split at isMember
    · cases isMember
    · rw [List.mem_singleton.mp isMember]
      exact writtenMember_text plain valid
  refine ⟨by simp [OwnerBinding.bodyMembers], ?_⟩
  simp only [OwnerBinding.bodyMembers, List.cons_append, List.nil_append,
    List.forall_mem_cons, List.forall_mem_append]
  exact ⟨writtenMember_int (by decide) encodable.version.natAbs_le,
    writtenMember_text (by decide) validType, writtenMember_text (by decide) validOwner,
    writtenMember_text (by decide) validKey, writtenMember_text (by decide) validPipe,
    optional (by decide) validPeers, optional (by decide) validProtocol,
    writtenMember_int (by decide) (by simpa using encodable.epoch.le), by simp⟩

theorem ExactInvite.writtenMembers {i : ExactInvite} (encodable : i.Encodable)
    {members : Members} (written : i.bodyMembers = .ok members) :
    members ≠ [] ∧ ∀ member ∈ members, WrittenMember member := by
  simp only [ExactInvite.bodyMembers, bind_eq_ok] at written
  obtain ⟨issuedAt, isIssued, notBefore, isNotBefore, expiresAt, isExpires, same⟩ := written
  obtain rfl := Except.ok.inj same
  have texts := encodable.texts
  have times := encodable.times
  simp only [List.mem_cons, List.not_mem_nil, or_false, forall_eq_or_imp, forall_eq] at texts times
  refine ⟨by simp, ?_⟩
  simp only [List.mem_cons, List.not_mem_nil, or_false, forall_eq_or_imp, forall_eq]
  exact ⟨writtenMember_int (by decide) encodable.version.natAbs_le,
    writtenMember_text (by decide) texts.1, writtenMember_text (by decide) texts.2.1,
    writtenMember_text (by decide) texts.2.2.1, writtenMember_text (by decide) texts.2.2.2.1,
    writtenMember_text (by decide) texts.2.2.2.2.1,
    writtenMember_time (by decide) times.1 isIssued,
    writtenMember_time (by decide) times.2.1 isNotBefore,
    writtenMember_time (by decide) times.2.2 isExpires,
    writtenMember_int (by decide) (by simpa using encodable.epoch.le),
    writtenMember_bool (by decide)⟩

/-! ## Signed bytes -/

/-- One of the three signed values. -/
inductive Credential
  | lease (l : AccessLease)
  | binding (b : OwnerBinding)
  | invite (i : ExactInvite)
  deriving DecidableEq, Repr

namespace Credential

/-- `signingBody`: the bytes that are signed. -/
def signingBytes (lib : Library) : Credential → Except GoError Bytes
  | lease l => l.signingBody lib.primitives
  | binding b => b.signingBody lib.primitives
  | invite i => i.signingBody lib.primitives

/-- All fields except the signature. -/
def unsigned : Credential → Credential
  | lease l => lease { l with signature := [] }
  | binding b => binding { b with signature := [] }
  | invite i => invite { i with signature := [] }

/-- Valid UTF-8 strings, UTC times and numbers of their Go types. -/
def Encodable : Credential → Prop
  | lease l => l.Encodable
  | binding b => b.Encodable
  | invite i => i.Encodable

/-- The three kinds. -/
inductive Kind
  | lease
  | binding
  | invite
  deriving DecidableEq, Repr

/-- The domain of a kind. -/
def Kind.domain : Kind → GoString
  | lease => accessLeaseSigningDomain
  | binding => ownerBindingSigningDomain
  | invite => exactInviteSigningDomain

def kind : Credential → Kind
  | lease _ => .lease
  | binding _ => .binding
  | invite _ => .invite

/-- The members that are signed. -/
def bodyMembers : Credential → Except GoError Members
  | lease l => l.bodyMembers
  | binding b => .ok b.bodyMembers
  | invite i => i.bodyMembers

theorem signingBytes_eq (lib : Library) (c : Credential) :
    c.signingBytes lib = do return c.kind.domain ++ writeObject (← c.bodyMembers) := by
  cases c with
  | lease l =>
    simp only [signingBytes, AccessLease.signingBody, Library.primitives, bodyMembers]
    cases l.bodyMembers <;> rfl
  | binding b => rfl
  | invite i =>
    simp only [signingBytes, ExactInvite.signingBody, Library.primitives, bodyMembers]
    cases i.bodyMembers <;> rfl

theorem writtenMembers {c : Credential} (encodable : c.Encodable) {members : Members}
    (written : c.bodyMembers = .ok members) :
    members ≠ [] ∧ ∀ member ∈ members, WrittenMember member := by
  cases c with
  | lease l => exact AccessLease.writtenMembers encodable written
  | binding b =>
    obtain rfl := Except.ok.inj written
    exact OwnerBinding.writtenMembers encodable
  | invite i => exact ExactInvite.writtenMembers encodable written

/-- No two domains begin alike, so none is the beginning of signed bytes of another
kind. -/
theorem Kind.eq_of_domain {first second : Kind} {rest other : Bytes}
    (same : first.domain ++ rest = second.domain ++ other) : first = second := by
  have long : ∀ kind : Kind, 14 ≤ kind.domain.length := by
    intro kind
    cases kind <;> decide
  have beginnings := congrArg (List.take 14) same
  rw [List.take_append_of_le_length (long first),
    List.take_append_of_le_length (long second)] at beginnings
  cases first <;> cases second <;> first | rfl | exact absurd beginnings (by decide)

/-- The members of a kind determine the fields: what is read back from them is both. -/
theorem unsigned_of_members {a b : Credential} (encodableA : a.Encodable)
    (encodableB : b.Encodable) (sameKind : a.kind = b.kind) {members : Members}
    (writtenA : a.bodyMembers = .ok members) (writtenB : b.bodyMembers = .ok members) :
    a.unsigned = b.unsigned := by
  have unread : Members.text [] "signature" = .ok [] := rfl
  cases a with
  | lease l =>
    cases b with
    | lease other =>
      have first := readLease_members (fun _ => none) encodableA writtenA unread
      rw [readLease_members _ encodableB writtenB unread] at first
      exact congrArg lease (Except.ok.inj first).symm
    | binding other => cases sameKind
    | invite other => cases sameKind
  | binding l =>
    cases b with
    | lease other => cases sameKind
    | binding other =>
      have first := readBinding_members encodableA unread rfl rfl
      rw [Except.ok.inj (writtenA.trans writtenB.symm),
        readBinding_members encodableB unread rfl rfl] at first
      exact congrArg binding (Except.ok.inj first).symm
    | invite other => cases sameKind
  | invite l =>
    cases b with
    | lease other => cases sameKind
    | binding other => cases sameKind
    | invite other =>
      have first := readInvite_members (fun _ => none) encodableA writtenA unread
      rw [readInvite_members _ encodableB writtenB unread] at first
      exact congrArg invite (Except.ok.inj first).symm

end Credential

/-- **Signed bytes determine the credential**: two credentials with valid UTF-8
strings and UTC times that are signed over the same bytes are of one kind and agree on
every field except the signature. -/
theorem signingBytes_determine (lib : Library) {a b : Credential} {bytes : Bytes}
    (encodableA : a.Encodable) (encodableB : b.Encodable)
    (signedA : a.signingBytes lib = .ok bytes) (signedB : b.signingBytes lib = .ok bytes) :
    a.unsigned = b.unsigned := by
  rw [Credential.signingBytes_eq, bind_eq_ok] at signedA signedB
  obtain ⟨members, writtenA, sameA⟩ := signedA
  obtain ⟨others, writtenB, sameB⟩ := signedB
  have same : a.kind.domain ++ writeObject members = b.kind.domain ++ writeObject others :=
    (Except.ok.inj sameA).trans (Except.ok.inj sameB).symm
  have sameKind := Credential.Kind.eq_of_domain same
  rw [sameKind] at same
  obtain ⟨presentA, areWrittenA⟩ := Credential.writtenMembers encodableA writtenA
  obtain ⟨presentB, areWrittenB⟩ := Credential.writtenMembers encodableB writtenB
  obtain rfl := writeObject_inj presentA presentB areWrittenA areWrittenB
    (List.append_cancel_left same)
  exact Credential.unsigned_of_members encodableA encodableB sameKind writtenA writtenB

namespace Sample

/-- A lease of the first second of the year 1. -/
def earlyLease : AccessLease where
  version := 1
  type := accessLeaseType
  issuer := str "issuer"
  subject := str "subject"
  audiencePipeID := str "pip_web"
  jti := str "jti_first"
  issuedAt := ⟨second, 0⟩
  notBefore := ⟨second, 0⟩
  expiresAt := ⟨2 * second, 0⟩
  accessEpoch := 3
  signature := str "signed"

def library : Library where
  publicKey secret := secret
  sign _ _ := []
  verify _ _ _ := true
  sha256 data := data
  parseTime _ := none

theorem earlyLease_encodable : earlyLease.Encodable := by
  refine ⟨by unfold FitsInt; decide, by decide, ?_, ?_⟩
  · intro text member
    simp only [List.mem_cons, List.not_mem_nil, or_false] at member
    rcases member with rfl | rfl | rfl | rfl | rfl | rfl <;>
      exact ValidUTF8.of_plain (by decide)
  · intro t member
    simp only [List.mem_cons, List.not_mem_nil, or_false] at member
    rcases member with rfl | rfl | rfl <;> rfl

end Sample

/-- A lease and the same lease with its signature removed. -/
theorem signingBytes_determine_resigned : (Credential.lease Sample.earlyLease).unsigned =
      (Credential.lease { Sample.earlyLease with signature := [] }).unsigned := by
  obtain ⟨bytes, signed⟩ : ∃ bytes, (Credential.lease Sample.earlyLease).signingBytes
      Sample.library = .ok bytes := ⟨_, rfl⟩
  have encodable := Sample.earlyLease_encodable
  refine signingBytes_determine Sample.library encodable ⟨encodable.version, encodable.epoch,
    fun text member => ?_, encodable.times⟩ signed signed
  rcases List.mem_append.mp (show text ∈ [_, _, _, _, _] ++ [[]] from member) with
    field | signature
  · exact encodable.texts text (List.mem_append_left [Sample.earlyLease.signature] field)
  · rw [List.mem_singleton.mp signature]
    exact .nil

end Tubo
