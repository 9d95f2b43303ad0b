import Tubo.AccessLease.Wire

/-!
# Credentials are usable exactly in their window

Package `internal/accesslease`: what the minting functions give is encoded, decoded
unchanged by the strict decoder, and verified exactly from thirty seconds before the
issue time until the lifetime has passed.

* `credentials_window` — for the owner binding, the invite and the Access Lease.
-/

namespace Tubo

open Json

/-- A private key whose signatures verify under its public key. -/
structure Library.KeyPair (lib : Library) (secret : Bytes) : Prop where
  publicSize : (lib.publicKey secret).length = ed25519PublicKeySize
  signatureSize : ∀ message, (lib.sign secret message).length = ed25519SignatureSize
  verifies : ∀ message, lib.verify (lib.publicKey secret) message (lib.sign secret message) = true

/-! ## Canonical text is read back -/

theorem publicFromString_publicString {key : Bytes} (size : key.length = ed25519PublicKeySize) :
    publicFromString (publicString key) = .ok key := by
  have present : key ≠ [] := by
    rintro rfl
    exact absurd size (by decide)
  rw [publicFromString, publicString, decodeCanonicalRawBase64URL_encode present]
  simp [size]

theorem decodeSignature_publicString {signature : Bytes}
    (size : signature.length = ed25519SignatureSize) :
    decodeSignature (publicString signature) = .ok signature := by
  have present : signature ≠ [] := by
    rintro rfl
    exact absurd size (by decide)
  rw [decodeSignature, publicString, decodeCanonicalRawBase64URL_encode present]
  simp [size]

theorem decodeStrict_rawURLEncode {data : Bytes} (present : data ≠ [])
    (bound : 2 * data.length ≤ maxBytes) (tooLong : String) :
    encodeBounded data tooLong = .ok (rawURLEncode data) ∧
      decodeStrict (rawURLEncode data) = .ok data := by
  have short := (rawURLEncode_length_le data).trans bound
  refine ⟨?_, decodeStrict_of_short present short⟩
  rw [encodeBounded, failIf_of_not (Nat.not_lt.mpr short)]
  rfl

/-! ## Plain texts -/

theorem rawURLEncode_all_plain (data : Bytes) : (rawURLEncode data).all plainByte = true := by
  have characters : ∀ value < 64, plainByte (base64Char value) = true := by decide
  grind [rawURLEncode_eq_map, base64Sextets_lt]

theorem base32Encode_all_plain (data : Bytes) : (base32Encode data).all plainByte = true ∧
      (toLowerASCII (base32Encode data)).all plainByte = true := by
  have characters : ∀ value < 32, plainByte (base32Char value) = true ∧
    (toLowerASCII [base32Char value]).all plainByte = true := by decide
  have binary : ∀ bit ∈ data.flatMap byteBits, bit < 2 := by
    intro bit bitMember
    obtain ⟨source, -, bitMember⟩ := List.mem_flatMap.mp bitMember
    exact byteBits_lt source bit bitMember
  constructor
  · grind [fiveBits_lt, base32Encode]
  · rw [List.all_eq_true, toLowerASCII, base32Encode, List.map_map]
    intro byte member
    obtain ⟨value, isValue, rfl⟩ := List.mem_map.mp member
    have lower := (characters value (fiveBits_lt binary value isValue)).2
    rw [List.all_eq_true] at lower
    exact lower _ (List.mem_singleton_self _)

theorem pipeIDFromOwner_all_plain (prim : Primitives) (owner : Bytes) :
    (pipeIDFromOwner prim owner).all plainByte = true := by
  rw [pipeIDFromOwner, List.all_append, (base32Encode_all_plain _).2, Bool.and_true]
  decide

/-! ## Bounds -/

theorem itoa_length_le {value width : ℕ} (bound : value < 10 ^ (width + 1)) :
    (itoa value).length ≤ width + 1 := by
  rw [itoa_natCast]
  induction width generalizing value with
  | zero =>
    rw [padded_one_small (by simpa using bound)]
    rfl
  | succ width ih =>
    by_cases small : value < 10
    · rw [padded_one_small small]
      simp
    · have smaller : value / 10 < 10 ^ (width + 1) := by
        grind
      grind [padded_one_large]

/-- The length of the text of an object, from those of its members. -/
theorem writeObject_length_le (members : Members) : (writeObject members).length ≤
      2 + (members.map fun member => member.1.length + member.2.write.length + 4).sum := by
  have member : ∀ member : GoString × Scalar, (writeMember member).length =
      member.1.length + member.2.write.length + 3 := by
    intro member
    simp [writeMember]
    omega
  have more : ∀ members : Members, (writeMembers members).length = 1 +
      (members.map fun member => member.1.length + member.2.write.length + 4).sum := by
    intro members
    induction members with
    | nil => rfl
    | cons first members ih =>
      grind [writeMembers_cons]
  cases members with
  | nil => decide
  | cons first members =>
    grind [writeObject]

/-! ## Members that fit -/

section Fits

variable {allowed : Allowed} {key : String} {max : ℕ}

theorem fitsMember_text {text : GoString} (plain : (str key).all plainByte = true)
    (isAllowed : allowed.lookup (str key) = some max) (valid : ValidUTF8 text)
    (bound : text.length ≤ max) : FitsMember allowed (str key, textScalar text) := by
  refine ⟨plain, (writtenMember_text plain valid).value, max, isAllowed, ?_⟩
  intro read isText
  have same : unquote (escape text) = read := Option.some.inj isText
  rw [← same, unquote_escape valid]
  exact bound

theorem fitsMember_int {value : ℤ} (plain : (str key).all plainByte = true)
    (isAllowed : allowed.lookup (str key) = some max) (bound : value.natAbs ≤ uint64Size) :
    FitsMember allowed (str key, .number (itoa value)) :=
  ⟨plain, (writtenMember_int plain bound).value, max, isAllowed, by simp [Scalar.text?]⟩

theorem fitsMember_bool {value : Bool} (plain : (str key).all plainByte = true)
    (isAllowed : allowed.lookup (str key) = some max) : FitsMember allowed (str key, .bool value) :=
  ⟨plain, trivial, max, isAllowed, by simp [Scalar.text?]⟩

theorem fitsMember_time {t : Time} {scalar : Scalar} (plain : (str key).all plainByte = true)
    (isAllowed : allowed.lookup (str key) = some max) (isUTC : t.offset = 0)
    (written : timeScalar t = .ok scalar) (bound : 30 ≤ max) :
    FitsMember allowed (str key, scalar) := by
  have isWritten := (writtenMember_time plain isUTC written).value
  obtain ⟨text, isText, rfl⟩ := timeScalar_eq_ok written
  obtain ⟨plainText, short⟩ := Time.marshalText_plain isUTC isText
  refine ⟨plain, isWritten, max, isAllowed, ?_⟩
  intro read same
  have same : unquote text = read := Option.some.inj same
  rw [← same, unquote_plain plainText]
  exact short.trans bound

end Fits

/-- The lengths that the strict decoder allows a lease. -/
structure AccessLease.Bounded (l : AccessLease) : Prop where
  fields : ∀ text ∈ [l.type, l.issuer, l.subject, l.jti, l.signature], text.length ≤ maxFieldLen
  pipe : l.audiencePipeID.length ≤ maxPipeIDLen

structure OwnerBinding.Bounded (b : OwnerBinding) : Prop where
  fields : ∀ text ∈ [b.type, b.owner, b.authorityKey, b.signature], text.length ≤ maxFieldLen
  pipe : b.pipeID.length ≤ maxPipeIDLen
  peers : b.redemptionPeers.length ≤ maxRedemptionAddrLen
  protocol : b.redemptionProtocol.length ≤ maxRedemptionProtocolLen

structure ExactInvite.Bounded (i : ExactInvite) : Prop where
  fields : ∀ text ∈ [i.type, i.issuer, i.jti, i.signature], text.length ≤ maxFieldLen
  pipe : i.audiencePipeID.length ≤ maxPipeIDLen
  binding : i.binding.length ≤ maxBytes

theorem AccessLease.fits {l : AccessLease} (encodable : l.Encodable) (bounded : l.Bounded)
    {members : Members} (written : l.bodyMembers = .ok members) :
    Fits accessLeaseAllowed (members ++ signatureMember l.signature) := by
  simp only [AccessLease.bodyMembers, bind_eq_ok] at written
  obtain ⟨issuedAt, isIssued, notBefore, isNotBefore, expiresAt, isExpires, same⟩ := written
  obtain rfl := Except.ok.inj same
  have texts := encodable.texts
  have times := encodable.times
  have bounds := bounded.fields
  simp only [List.mem_cons, List.not_mem_nil, or_false, forall_eq_or_imp, forall_eq]
    at texts times bounds
  obtain ⟨validType, validIssuer, validSubject, validPipe, validJTI, validSignature⟩ := texts
  obtain ⟨shortType, shortIssuer, shortSubject, shortJTI, shortSignature⟩ := bounds
  have short : 30 ≤ maxFieldLen := by decide
  constructor
  on_goal 2 =>
    simp only [signatureMember, List.cons_append, List.nil_append, List.map_cons, List.map_nil]
    decide
  simp only [signatureMember, List.cons_append, List.nil_append, List.forall_mem_cons]
  exact ⟨fitsMember_int (by decide) rfl encodable.version.natAbs_le,
    fitsMember_text (by decide) rfl validType shortType,
    fitsMember_text (by decide) rfl validIssuer shortIssuer,
    fitsMember_text (by decide) rfl validSubject shortSubject,
    fitsMember_text (by decide) rfl validPipe bounded.pipe,
    fitsMember_text (by decide) rfl validJTI shortJTI,
    fitsMember_time (by decide) rfl times.1 isIssued short,
    fitsMember_time (by decide) rfl times.2.1 isNotBefore short,
    fitsMember_time (by decide) rfl times.2.2 isExpires short,
    fitsMember_int (by decide) rfl (by simpa using encodable.epoch.le),
    fitsMember_text (by decide) rfl validSignature shortSignature, by simp⟩

theorem OwnerBinding.fits {b : OwnerBinding} (encodable : b.Encodable) (bounded : b.Bounded) :
    Fits ownerBindingAllowed (b.bodyMembers ++ signatureMember b.signature) := by
  have texts := encodable.texts
  have bounds := bounded.fields
  simp only [List.mem_cons, List.not_mem_nil, or_false, forall_eq_or_imp, forall_eq] at texts bounds
  obtain ⟨validType, validOwner, validKey, validPipe, validPeers, validProtocol,
    validSignature⟩ := texts
  obtain ⟨shortType, shortOwner, shortKey, shortSignature⟩ := bounds
  have optional : ∀ {key : String} {text : GoString} {max : ℕ},
      (str key).all plainByte = true → ownerBindingAllowed.lookup (str key) = some max →
      ValidUTF8 text → text.length ≤ max →
      ∀ member ∈ optionalMember key text, FitsMember ownerBindingAllowed member := by
    grind [fitsMember_text, optionalMember]
  constructor
  · simp only [signatureMember, OwnerBinding.bodyMembers, List.cons_append, List.nil_append,
      List.append_assoc, List.forall_mem_cons, List.forall_mem_append]
    exact ⟨fitsMember_int (by decide) rfl encodable.version.natAbs_le,
      fitsMember_text (by decide) rfl validType shortType,
      fitsMember_text (by decide) rfl validOwner shortOwner,
      fitsMember_text (by decide) rfl validKey shortKey,
      fitsMember_text (by decide) rfl validPipe bounded.pipe,
      optional (by decide) rfl validPeers bounded.peers,
      optional (by decide) rfl validProtocol bounded.protocol,
      fitsMember_int (by decide) rfl (by simpa using encodable.epoch.le),
      fitsMember_text (by decide) rfl validSignature shortSignature, by simp⟩
  · unfold OwnerBinding.bodyMembers optionalMember
    split <;> split <;>
      simp only [signatureMember, List.cons_append, List.nil_append, List.map_cons,
        List.map_nil] <;> decide

theorem ExactInvite.fits {i : ExactInvite} (encodable : i.Encodable) (bounded : i.Bounded)
    {members : Members} (written : i.bodyMembers = .ok members) :
    Fits inviteAllowed (members ++ signatureMember i.signature) := by
  simp only [ExactInvite.bodyMembers, bind_eq_ok] at written
  obtain ⟨issuedAt, isIssued, notBefore, isNotBefore, expiresAt, isExpires, same⟩ := written
  obtain rfl := Except.ok.inj same
  have texts := encodable.texts
  have times := encodable.times
  have bounds := bounded.fields
  simp only [List.mem_cons, List.not_mem_nil, or_false, forall_eq_or_imp, forall_eq]
    at texts times bounds
  obtain ⟨validType, validIssuer, validPipe, validBinding, validJTI, validSignature⟩ := texts
  obtain ⟨shortType, shortIssuer, shortJTI, shortSignature⟩ := bounds
  have short : 30 ≤ maxFieldLen := by decide
  constructor
  on_goal 2 =>
    simp only [signatureMember, List.cons_append, List.nil_append, List.map_cons, List.map_nil]
    decide
  simp only [signatureMember, List.cons_append, List.nil_append, List.forall_mem_cons]
  exact ⟨fitsMember_int (by decide) rfl encodable.version.natAbs_le,
    fitsMember_text (by decide) rfl validType shortType,
    fitsMember_text (by decide) rfl validIssuer shortIssuer,
    fitsMember_text (by decide) rfl validPipe bounded.pipe,
    fitsMember_text (by decide) rfl validBinding bounded.binding,
    fitsMember_text (by decide) rfl validJTI shortJTI,
    fitsMember_time (by decide) rfl times.1 isIssued short,
    fitsMember_time (by decide) rfl times.2.1 isNotBefore short,
    fitsMember_time (by decide) rfl times.2.2 isExpires short,
    fitsMember_int (by decide) rfl (by simpa using encodable.epoch.le),
    fitsMember_bool (by decide) rfl,
    fitsMember_text (by decide) rfl validSignature shortSignature, by simp⟩

/-! ## Round trips -/

section RoundTrip

variable (lib : Library)

theorem signatureMember_text {signature : GoString} (valid : ValidUTF8 signature) :
    (signatureMember signature).text "signature" = .ok signature :=
  Members.text_textScalar valid rfl

theorem decodeLease_encodeLease {l : AccessLease} (encodable : l.Encodable)
    (bounded : l.Bounded) {members : Members} (written : l.bodyMembers = .ok members)
    (size : 2 * (writeObject (members ++ signatureMember l.signature)).length ≤ maxBytes) :
    ∃ text, encodeLease lib.primitives l = .ok text ∧ decodeLease lib.primitives text = .ok l := by
  have valid := encodable.texts l.signature (by simp)
  have present : writeObject (members ++ signatureMember l.signature) ≠ [] := by
    cases members <;> simp [writeObject, signatureMember]
  obtain ⟨encoded, decoded⟩ := decodeStrict_rawURLEncode present size
    "accesslease: exceeds bounded field"
  refine ⟨rawURLEncode (writeObject (members ++ signatureMember l.signature)), ?_, ?_⟩
  · rw [encodeLease]
    simp only [Library.primitives, written, ok_bind]
    exact encoded
  · rw [decodeLease, decoded, ok_bind]
    simp only [Library.primitives]
    rw [scanFlatObject_writeObject (l.fits encodable bounded written), ok_bind,
      readLease_members _ encodable written (signatureMember_text valid)]

theorem decodeOwnerBinding_encodeOwnerBinding {b : OwnerBinding} (encodable : b.Encodable)
    (bounded : b.Bounded)
    (size : 2 * (writeObject (b.bodyMembers ++ signatureMember b.signature)).length ≤ maxBytes) :
    encodeOwnerBinding lib.primitives b =
        .ok (rawURLEncode (writeObject (b.bodyMembers ++ signatureMember b.signature))) ∧
      decodeOwnerBinding lib.primitives
        (rawURLEncode (writeObject (b.bodyMembers ++ signatureMember b.signature))) = .ok b := by
  have valid := encodable.texts b.signature (by simp)
  have present : writeObject (b.bodyMembers ++ signatureMember b.signature) ≠ [] := by
    simp [writeObject, OwnerBinding.bodyMembers]
  obtain ⟨encoded, decoded⟩ := decodeStrict_rawURLEncode present size
    "accesslease: owner binding exceeds bounded field"
  constructor
  · rw [encodeOwnerBinding]
    exact encoded
  · rw [decodeOwnerBinding, decoded, ok_bind]
    simp only [Library.primitives]
    rw [scanFlatObject_writeObject (b.fits encodable bounded), ok_bind,
      readBinding_members encodable (signatureMember_text valid) rfl rfl]

theorem decodeInvite_encodeInvite {i : ExactInvite} (encodable : i.Encodable)
    (bounded : i.Bounded) {members : Members} (written : i.bodyMembers = .ok members)
    (size : 2 * (writeObject (members ++ signatureMember i.signature)).length ≤ maxBytes) :
    ∃ text, encodeInvite lib.primitives i = .ok text ∧
      decodeInvite lib.primitives text = .ok i := by
  have valid := encodable.texts i.signature (by simp)
  have present : writeObject (members ++ signatureMember i.signature) ≠ [] := by
    cases members <;> simp [writeObject, signatureMember]
  obtain ⟨encoded, decoded⟩ := decodeStrict_rawURLEncode present size
    "accesslease: invite exceeds bounded field"
  refine ⟨rawURLEncode (writeObject (members ++ signatureMember i.signature)), ?_, ?_⟩
  · rw [encodeInvite]
    simp only [Library.primitives, written, ok_bind]
    exact encoded
  · rw [decodeInvite, decoded, ok_bind]
    simp only [Library.primitives]
    rw [scanFlatObject_writeObject (i.fits encodable bounded written), ok_bind,
      readInvite_members _ encodable written (signatureMember_text valid)]

end RoundTrip

/-! ## Sizes -/

variable {text : GoString} {max : ℕ}

theorem textScalar_length_le (valid : ValidUTF8 text) :
    (textScalar text).write.length ≤ 6 * text.length + 2 := by
  grind [escape_length_le, List.length_nil, textScalar, Scalar.write]

theorem textScalar_length_plain (plain : text.all plainByte = true) :
    (textScalar text).write.length = text.length + 2 := by
  simp [textScalar, Scalar.write, escape_plain plain]

theorem timeScalar_length_le {t : Time} {scalar : Scalar} (isUTC : t.offset = 0)
    (written : timeScalar t = .ok scalar) : scalar.write.length ≤ 32 := by
  obtain ⟨text, isText, rfl⟩ := timeScalar_eq_ok written
  have short := (Time.marshalText_plain isUTC isText).2
  grind [Scalar.write]

/-- The length of a member in the text of an object; no name is longer than
`redemption_protocol`. -/
theorem member_length_le (key : String) {scalar : Scalar}
    (short : scalar.write.length ≤ max) (name : (str key).length ≤ 19) :
    (str key).length + scalar.write.length + 4 ≤ max + 23 := by omega

theorem textMember_length_le (key : String)
    (valid : ValidUTF8 text) (bound : text.length ≤ max) (name : (str key).length ≤ 19) :
    (str key).length + (textScalar text).write.length + 4 ≤ 6 * max + 25 := by
  have escaped := textScalar_length_le valid
  omega

theorem optionalMember_length_le (key : String)
    (valid : ValidUTF8 text) (bound : text.length ≤ max) (name : (str key).length ≤ 19) :
    ((optionalMember key text).map fun member => member.1.length + member.2.write.length + 4).sum ≤
      6 * max + 25 := by
  unfold optionalMember
  split
  · exact Nat.zero_le _
  · rw [List.map_singleton, List.sum_singleton]
    exact textMember_length_le key valid bound name

theorem epoch_length_le {epoch : ℕ} (fits : epoch < uint64Size) :
    (Scalar.number (itoa epoch)).write.length ≤ 20 := by
  have small : epoch < 10 ^ (19 + 1) := fits.trans (by decide)
  exact itoa_length_le small

/-! ## Windows -/

/-- The verification times of a credential that is issued at a time for a lifetime:
thirty seconds before the issue, until the lifetime has passed. -/
def InWindow (issued : Time) (lifetime : Duration) (t : Time) : Prop :=
  issued.instant - maxClockSkew ≤ t.instant ∧ t.instant < issued.instant + lifetime

theorem Time.sub_add_lifetime (t : Time) {lifetime : ℤ} (positive : 0 < lifetime)
    (short : lifetime ≤ 600000000000) : (t.add lifetime).sub t = lifetime := by
  have difference : t.instant + lifetime - t.instant = lifetime := by omega
  show max (-(2 ^ 63 : ℤ)) (min (2 ^ 63 - 1 : ℤ) (t.instant + lifetime - t.instant)) = _
  omega

/-- What `Verify` of a lease checks besides the clock. -/
structure AccessLease.Sound (prim : Primitives) (l : AccessLease) (key : Bytes)
    (subject pipeID : GoString) : Prop where
  kind : l.version = credentialVersion ∧ l.type = accessLeaseType
  issuer : l.issuer = publicString key ∧ validString l.issuer = true
  subject : l.subject = subject ∧ validString l.subject = true ∧
    ∃ subjectKey, publicFromString l.subject = .ok subjectKey
  audience : l.audiencePipeID = pipeID ∧ validString l.audiencePipeID = true ∧
    l.audiencePipeID.length ≤ maxPipeIDLen
  jti : validString l.jti = true ∧ hasPrefix l.jti (str "jti_") = true
  lifetime : l.issuedAt.isZero = false ∧ l.notBefore.isZero = false ∧
    l.expiresAt.after l.issuedAt = true ∧ l.expiresAt.sub l.issuedAt ≤ maxTTL
  signed : ∃ signature canonical, decodeSignature l.signature = .ok signature ∧
    l.signingBody prim = .ok canonical ∧ prim.verify key canonical signature = true

/-- A sound lease is verified by the clock alone. -/
theorem AccessLease.Sound.verify_iff {prim : Primitives} {l : AccessLease} {key : Bytes}
    {subject pipeID : GoString} (sound : l.Sound prim key subject pipeID) (now clock : Time) :
    l.verify prim key subject pipeID now clock = .ok () ↔
      l.issuedAt.after ((verificationTime now clock).add maxClockSkew) = false ∧
        l.notBefore.after ((verificationTime now clock).add maxClockSkew) = false ∧
        l.expiresAt.after (verificationTime now clock) = true := by
  obtain ⟨subjectKey, parsed⟩ := sound.subject.2.2
  obtain ⟨signature, canonical, decoded, body, signed⟩ := sound.signed
  have shortPipe := sound.audience.2.2
  have shortLife := sound.lifetime.2.2.2
  unfold verify
  simp only [sound.kind.1, sound.kind.2, sound.issuer.1, parsed, decoded, body, ok_bind]
  rw [failIf_of_not (by simp), ok_bind, failIf_of_not (by
    simp [sound.subject.2.1, sound.audience.2.1, sound.jti, ← sound.issuer.1,
      sound.issuer.2]), ok_bind, failIf_of_not (Nat.not_lt.mpr shortPipe), ok_bind,
    failIf_of_not (by simp [sound.lifetime]), ok_bind]
  simp only [bind_eq_ok, failIf_eq_ok, Bool.not_eq_true, Bool.not_eq_false]
  grind [AccessLease.Sound.subject, AccessLease.Sound.audience]

/-- What `Verify` of an invite checks besides the clock. -/
structure ExactInvite.Sound (prim : Primitives) (i : ExactInvite) (pipeID : GoString) : Prop where
  kind : i.version = credentialVersion ∧ i.type = inviteType
  issuer : validString i.issuer = true
  audience : (pipeID ≠ [] → i.audiencePipeID = pipeID) ∧ validString i.audiencePipeID = true ∧
    i.audiencePipeID.length ≤ maxPipeIDLen
  jti : validString i.jti = true ∧ hasPrefix i.jti (str "jti_") = true
  binding : i.binding ≠ [] ∧ i.binding.length ≤ maxBytes
  oneTime : i.oneTime = true
  lifetime : i.issuedAt.isZero = false ∧ i.notBefore.isZero = false ∧
    i.expiresAt.after i.issuedAt = true ∧ i.expiresAt.sub i.issuedAt ≤ maxTTL
  bound : i.verifyBinding prim = .ok ()
  signed : ∃ signature canonical key, decodeSignature i.signature = .ok signature ∧
    i.signingBody prim = .ok canonical ∧ publicFromString i.issuer = .ok key ∧
    prim.verify key canonical signature = true

/-- A sound invite is verified by the clock alone. -/
theorem ExactInvite.Sound.verify_iff {prim : Primitives} {i : ExactInvite}
    {pipeID : GoString} (sound : i.Sound prim pipeID) (now clock : Time) :
    i.verify prim now clock pipeID = .ok () ↔
      i.issuedAt.after ((AccessLease.verificationTime now clock).add maxClockSkew) = false ∧
        i.notBefore.after ((AccessLease.verificationTime now clock).add maxClockSkew) = false ∧
        i.expiresAt.after (AccessLease.verificationTime now clock) = true := by
  obtain ⟨signature, canonical, key, decoded, body, parsed, signed⟩ := sound.signed
  have shortPipe := sound.audience.2.2
  have shortLife := sound.lifetime.2.2.2
  have shortBinding := sound.binding.2
  have fields : i.verifyFields now clock pipeID = .ok () ↔
      i.issuedAt.after ((AccessLease.verificationTime now clock).add maxClockSkew) = false ∧
        i.notBefore.after ((AccessLease.verificationTime now clock).add maxClockSkew) = false ∧
        i.expiresAt.after (AccessLease.verificationTime now clock) = true := by
    unfold verifyFields
    rw [failIf_of_not (by simp [sound.kind]), ok_bind, failIf_of_not (by
      simp [sound.issuer, sound.audience.2.1, sound.jti]), ok_bind,
      failIf_of_not (Nat.not_lt.mpr shortPipe), ok_bind,
      failIf_of_not (not_or.mpr ⟨sound.binding.1, Nat.not_lt.mpr shortBinding⟩), ok_bind,
      failIf_of_not (by simp [sound.oneTime]), ok_bind,
      failIf_of_not (by simp [sound.lifetime]), ok_bind]
    simp only [bind_eq_ok, failIf_eq_ok, Bool.not_eq_true, Bool.not_eq_false]
    grind [ExactInvite.Sound.audience]
  rw [← fields, verify, bind_eq_ok]
  grind [ExactInvite.Sound.bound, ok_bind, failIf_of_not]

/-- The checks on the clock, for minted times. -/
theorem minted_window {issued now : Time} (clock : Time) (lifetime : Duration)
    (notZero : now.isZero = false) :
    (issued.utc.after ((AccessLease.verificationTime now clock).add maxClockSkew) = false ∧
        issued.utc.after ((AccessLease.verificationTime now clock).add maxClockSkew) = false ∧
        (issued.utc.add lifetime).after (AccessLease.verificationTime now clock) = true) ↔
      InWindow issued lifetime now := by
  have isNow : (AccessLease.verificationTime now clock).instant = now.instant := by
    simp [AccessLease.verificationTime, notZero]
  grind [Time.after_iff, Time.add_instant, Time.utc_instant, InWindow]

/-! ## Minting -/

section Minting

variable {lib : Library} {secret : Bytes}

theorem validString_iff {value : GoString} :
    validString value = true ↔ 0 < value.length ∧ value.length ≤ 4096 := by
  rw [validString, Bool.and_eq_true, decide_eq_true_iff, decide_eq_true_iff]
  rfl

theorem publicString_fits {key : Bytes} (size : key.length = ed25519PublicKeySize) :
    ValidUTF8 (publicString key) ∧ validString (publicString key) = true ∧
      (publicString key).length ≤ 64 := by
  have plain := rawURLEncode_all_plain key
  have bound := rawURLEncode_length_le key
  have low := length_le_rawURLEncode key
  rw [size] at bound low
  refine ⟨.of_plain plain, validString_iff.mpr ?_, bound⟩
  grind [ed25519PublicKeySize, publicString]

theorem signature_fits {signature : Bytes} (size : signature.length = ed25519SignatureSize) :
    ValidUTF8 (publicString signature) ∧ (publicString signature).length ≤ 128 := by
  have bound := rawURLEncode_length_le signature
  rw [size] at bound
  exact ⟨.of_plain (rawURLEncode_all_plain signature), bound⟩

/-- An identifier of sixteen random bytes. -/
theorem newJTI_fits {random : Bytes} (size : random.length = 16) :
    ∃ jti, newJTI (.ok random) = .ok jti ∧ jti.all plainByte = true ∧
      jti.length ≤ 30 ∧ validString jti = true ∧ hasPrefix jti (str "jti_") = true := by
  have bound := base32Encode_length random
  have length : (str "jti_" ++ base32Encode random).length ≤ 30 := by
    rw [List.length_append]
    have : (str "jti_").length = 4 := rfl
    omega
  refine ⟨str "jti_" ++ base32Encode random, rfl, ?_, length, ?_, ?_⟩
  · rw [List.all_append, (base32Encode_all_plain random).1, Bool.and_true]
    decide
  · refine validString_iff.mpr ⟨List.length_pos_of_ne_nil ?_, by omega⟩
    exact List.append_ne_nil_of_left_ne_nil (by decide) _
  · exact List.isPrefixOf_iff_prefix.mpr (List.prefix_append _ _)

theorem timeScalar_of_inRange {t : Time} (isUTC : t.offset = 0) (range : t.InRange) :
    ∃ scalar, timeScalar t = .ok scalar := by
  obtain ⟨text, isText⟩ := Time.marshalText_of_inRange isUTC range
  refine ⟨.string text, ?_⟩
  rw [timeScalar, isText]
  rfl

end Minting

section Binding

variable {lib : Library} {owner authorityKey : Bytes} {epoch : ℕ}
  {peers protocol : GoString}

/-- The owner binding that `NewOwnerBinding` gives. -/
def mintedBinding (lib : Library) (owner authorityKey : Bytes) (epoch : ℕ)
    (peers protocol : GoString) : OwnerBinding :=
  let unsigned : OwnerBinding :=
    { version := credentialVersion, type := ownerBindingType,
      owner := publicString (lib.publicKey owner),
      authorityKey := publicString authorityKey,
      pipeID := pipeIDFromOwner lib.primitives (lib.publicKey owner),
      redemptionPeers := peers, redemptionProtocol := protocol, epoch, signature := [] }
  { unsigned with
    signature := publicString (lib.sign owner
      (ownerBindingSigningDomain ++ writeObject unsigned.bodyMembers)) }

/-- The inputs of a binding, within the bounds of its fields. -/
structure BindingInput (lib : Library) (owner authorityKey : Bytes) (epoch : ℕ)
    (peers protocol : GoString) : Prop where
  owner : lib.KeyPair owner
  authority : authorityKey.length = ed25519PublicKeySize
  validPeers : ValidUTF8 peers
  validProtocol : ValidUTF8 protocol
  fewPeers : (split 0x2C peers).length ≤ maxRedemptionAddresses
  shortPeers : peers.length ≤ maxRedemptionAddrLen
  shortProtocol : protocol.length ≤ maxRedemptionProtocolLen
  epoch : epoch < uint64Size

theorem version_length_le : (Scalar.number (itoa credentialVersion)).write.length ≤ 20 := by decide

theorem fitsInt_credentialVersion : FitsInt credentialVersion := by
  unfold FitsInt
  decide

theorem ownerBindingType_fits :
    ownerBindingType.all plainByte = true ∧ ownerBindingType.length ≤ 64 := by decide

theorem pipeID_fits (prim : Primitives) (key : Bytes) :
    ValidUTF8 (pipeIDFromOwner prim key) ∧ validString (pipeIDFromOwner prim key) = true ∧
      (pipeIDFromOwner prim key).length ≤ 36 := by
  have short := pipeIDFromOwner_length prim key
  refine ⟨.of_plain (pipeIDFromOwner_all_plain prim key), validString_iff.mpr ?_, short⟩
  refine ⟨?_, by omega⟩
  rw [pipeIDFromOwner_bytes]
  simp

namespace BindingInput

/-- The Pipe of the owner. -/
abbrev pipeID (_ : BindingInput lib owner authorityKey epoch peers protocol) : GoString :=
  pipeIDFromOwner lib.primitives (lib.publicKey owner)

/-- The binding that is minted from the inputs. -/
abbrev binding (_ : BindingInput lib owner authorityKey epoch peers protocol) : OwnerBinding :=
  mintedBinding lib owner authorityKey epoch peers protocol

variable (input : BindingInput lib owner authorityKey epoch peers protocol)

include input

theorem ownPipe : verifyPipeOwner lib.primitives input.pipeID (lib.publicKey owner) = true := by
  obtain ⟨-, validPipe, -⟩ := pipeID_fits lib.primitives (lib.publicKey owner)
  have present := (validString_iff.mp validPipe).1
  simp [verifyPipeOwner, input.owner.publicSize, List.ne_nil_of_length_pos present]

theorem minted :
    newOwnerBinding lib.primitives owner authorityKey input.pipeID epoch peers protocol =
      .ok input.binding := by
  obtain ⟨-, validPipe, shortPipe⟩ := pipeID_fits lib.primitives (lib.publicKey owner)
  have long : ¬maxPipeIDLen < input.pipeID.length :=
    Nat.not_lt.mpr (shortPipe.trans (by decide))
  unfold newOwnerBinding
  simp only [show lib.primitives.publicKey = lib.publicKey from rfl]
  rw [failIf_of_not (by simp [input.owner.publicSize]), ok_bind,
    failIf_of_not (by simp [input.ownPipe]), ok_bind,
    failIf_of_not (by simp [validPipe, Nat.not_lt.mp long]), ok_bind,
    failIf_of_not (by simp [input.authority]), ok_bind,
    failIf_of_not (not_or.mpr ⟨Nat.not_lt.mpr input.fewPeers,
      Nat.not_lt.mpr input.shortPeers⟩), ok_bind,
    failIf_of_not (fun outside => Nat.not_lt.mpr input.shortProtocol outside.2), ok_bind]
  rfl

theorem encodable : input.binding.Encodable := by
  have validOwner := (publicString_fits input.owner.publicSize).1
  have validKey := (publicString_fits input.authority).1
  have validPipe := (pipeID_fits lib.primitives (lib.publicKey owner)).1
  refine ⟨fitsInt_credentialVersion, input.epoch, ?_⟩
  simp only [List.forall_mem_cons, List.not_mem_nil, false_implies, implies_true, and_true]
  exact ⟨.of_plain ownerBindingType_fits.1, validOwner, validKey, validPipe, input.validPeers,
    input.validProtocol, (signature_fits (input.owner.signatureSize _)).1⟩

theorem bounded : input.binding.Bounded := by
  have shortOwner := (publicString_fits input.owner.publicSize).2.2
  have shortKey := (publicString_fits input.authority).2.2
  have shortSignature := fun message =>
    (signature_fits (input.owner.signatureSize message)).2
  have shortPipe := (pipeID_fits lib.primitives (lib.publicKey owner)).2.2
  have sixtyFour : 64 ≤ maxFieldLen := by decide
  refine ⟨?_, shortPipe.trans (by decide), input.shortPeers, input.shortProtocol⟩
  simp only [List.forall_mem_cons, List.not_mem_nil, false_implies, implies_true, and_true]
  exact ⟨ownerBindingType_fits.2.trans (by decide), shortOwner.trans sixtyFour, shortKey.trans sixtyFour,
    (shortSignature _).trans (by decide)⟩

/-- The size of a binding is dominated by its redemption peers. -/
theorem size : (writeObject (input.binding.bodyMembers ++
    signatureMember input.binding.signature)).length ≤ 9500 := by
  obtain ⟨validOwner, -, shortOwner⟩ := publicString_fits input.owner.publicSize
  obtain ⟨validKey, -, shortKey⟩ := publicString_fits input.authority
  obtain ⟨validPipe, -, shortPipe⟩ := pipeID_fits lib.primitives (lib.publicKey owner)
  obtain ⟨validSignature, shortSignature⟩ :=
    signature_fits (input.owner.signatureSize (ownerBindingSigningDomain ++ writeObject
      ({ input.binding with signature := [] } : OwnerBinding).bodyMembers))
  refine (writeObject_length_le _).trans ?_
  simp only [OwnerBinding.bodyMembers, signatureMember, List.map_append, List.sum_append,
    List.map_cons, List.map_nil, List.sum_cons, List.sum_nil]
  have version := member_length_le "version" version_length_le (by decide)
  have type := textMember_length_le "type" (.of_plain ownerBindingType_fits.1)
    ownerBindingType_fits.2 (by decide)
  have owner := textMember_length_le "owner" validOwner shortOwner (by decide)
  have authority := textMember_length_le "authority_key" validKey shortKey (by decide)
  have pipe := textMember_length_le "pipe_id" validPipe shortPipe (by decide)
  have peers := optionalMember_length_le "redemption_peers" input.validPeers input.shortPeers
    (by decide)
  have protocol := optionalMember_length_le "redemption_protocol" input.validProtocol
    input.shortProtocol (by decide)
  have epoch := member_length_le "epoch" (epoch_length_le input.epoch) (by decide)
  have signature := textMember_length_le "signature" validSignature shortSignature (by decide)
  grind [maxRedemptionAddrLen, maxRedemptionProtocolLen, mintedBinding]

theorem verified : input.binding.verifyOwnerBinding lib.primitives = .ok (lib.publicKey owner) := by
  obtain ⟨-, validOwner, -⟩ := publicString_fits input.owner.publicSize
  obtain ⟨-, validKey, -⟩ := publicString_fits input.authority
  obtain ⟨-, validPipe, shortPipe⟩ := pipeID_fits lib.primitives (lib.publicKey owner)
  have identity : validString (publicString (lib.publicKey owner)) = true ∧
      validString (publicString authorityKey) = true ∧ validString input.pipeID = true ∧
      input.pipeID.length ≤ maxPipeIDLen :=
    ⟨validOwner, validKey, validPipe, shortPipe.trans (by decide)⟩
  have verifies := input.owner.verifies
    (ownerBindingSigningDomain ++ writeObject input.binding.bodyMembers)
  have shortPeers : input.binding.redemptionPeers.length ≤ maxRedemptionAddrLen :=
    input.shortPeers
  have fewPeers : (split 0x2C input.binding.redemptionPeers).length ≤ maxRedemptionAddresses :=
    input.fewPeers
  have shortProtocol : input.binding.redemptionProtocol.length ≤ maxRedemptionProtocolLen :=
    input.shortProtocol
  rw [OwnerBinding.verifyOwnerBinding, failIf_of_not (by simp [mintedBinding]), ok_bind,
    failIf_of_not (by simpa [mintedBinding] using identity), ok_bind,
    failIf_of_not (Nat.not_lt.mpr shortPeers), ok_bind,
    failIf_of_not (fun outside => Nat.not_lt.mpr fewPeers outside.2), ok_bind,
    failIf_of_not (fun outside => Nat.not_lt.mpr shortProtocol outside.2), ok_bind]
  show (publicFromString (publicString (lib.publicKey owner)) >>= fun ownerPub =>
    publicFromString (publicString authorityKey) >>= fun authorityPub => _) = _
  rw [publicFromString_publicString input.owner.publicSize, ok_bind,
    publicFromString_publicString input.authority, ok_bind,
    failIf_of_not (by simp [input.authority]), ok_bind]
  show (decodeSignature (publicString (lib.sign owner _)) >>= fun signature => _) = _
  rw [decodeSignature_publicString (input.owner.signatureSize _), ok_bind]
  exact congrArg (· >>= fun _ => _) (failIf_of_not (Classical.not_not.mpr verifies))

theorem authorised : input.binding.verifyOwnerAuthority lib.primitives (publicString authorityKey) =
      .ok input.binding := by
  have bound : input.binding.authorityKey = publicString authorityKey := rfl
  have owned : verifyPipeOwner lib.primitives input.binding.pipeID (lib.publicKey owner) = true :=
    input.ownPipe
  rw [OwnerBinding.verifyOwnerAuthority, input.verified, ok_bind,
    failIf_of_not (Classical.not_not.mpr owned), ok_bind,
    failIf_of_not (fun different => different.2 bound)]
  rfl

/-- The text of a binding, which is decoded to the binding. -/
theorem roundTrip : ∃ text, encodeOwnerBinding lib.primitives input.binding = .ok text ∧
    decodeOwnerBinding lib.primitives text = .ok input.binding ∧
    text.all plainByte = true ∧ text ≠ [] ∧ text.length ≤ 19000 := by
  have size := input.size
  obtain ⟨encoded, decoded⟩ := decodeOwnerBinding_encodeOwnerBinding lib input.encodable
    input.bounded (by unfold maxBytes; omega)
  grind [rawURLEncode_all_plain, rawURLEncode_ne_nil, rawURLEncode_length_le, writeObject,
    OwnerBinding.bodyMembers]

end BindingInput

end Binding

/-! ## Invites -/

/-- The times of a credential that is issued from 1970 to 9000 for at most ten
minutes. -/
structure TimeInput (issued : Time) (lifetime : Duration) (random : Bytes) : Prop where
  year : 1970 ≤ issued.utc.year ∧ issued.utc.year ≤ 9000
  positive : 0 < lifetime
  short : lifetime ≤ maxTTL
  random : random.length = 16

namespace TimeInput

variable {issued : Time} {lifetime : Duration} {random : Bytes}
  (input : TimeInput issued lifetime random)

include input

theorem nanoseconds : (0 : ℤ) < (lifetime : ℤ) ∧ (lifetime : ℤ) ≤ 600000000000 := ⟨input.positive, input.short⟩

theorem scalars : ∃ begins ends, timeScalar issued.utc = .ok begins ∧
      timeScalar (issued.utc.add lifetime) = .ok ends := by
  obtain ⟨positive, short⟩ := input.nanoseconds
  have inRange : ∀ {later : ℤ}, 0 ≤ later → later ≤ 600000000000 →
      (issued.utc.add later).InRange := fun begun ended =>
    Time.inRange_of_year input.year.1 input.year.2 begun (ended.trans (by decide))
  obtain ⟨begins, isBegin⟩ := timeScalar_of_inRange (by rfl) (inRange (le_refl 0) (by decide))
  obtain ⟨ends, isEnd⟩ := timeScalar_of_inRange (by rfl) (inRange positive.le short)
  grind [Time.utc, Time.add]

theorem sound : issued.utc.isZero = false ∧ issued.utc.isZero = false ∧
      (issued.utc.add lifetime).after issued.utc = true ∧
      (issued.utc.add lifetime).sub issued.utc ≤ maxTTL := by
  obtain ⟨positive, short⟩ := input.nanoseconds
  have notZero : issued.utc.isZero = false := by
    rw [Time.isZero, beq_eq_false_iff_ne]
    intro zero
    have first := input.year.1
    have origin : issued.utc.year = 1 := by
      rw [Time.year, zero, show issued.utc.offset = 0 from rfl]
      decide
    omega
  refine ⟨notZero, notZero, ?_, ?_⟩
  · rw [Time.after_iff]
    exact Int.lt_add_of_pos_right _ positive
  · rw [Time.sub_add_lifetime _ positive short]
    exact input.short

end TimeInput

section Invite

/-- The invite of `NewExactInvite` before it is signed. -/
def unsignedInvite (lib : Library) (authority : Bytes) (pipeID bindingText jti : GoString)
    (issued : Time) (lifetime : Duration) (epoch : ℕ) : ExactInvite :=
  { version := credentialVersion, type := inviteType,
    issuer := publicString (lib.publicKey authority), audiencePipeID := pipeID,
    binding := bindingText, jti, issuedAt := issued.utc, notBefore := issued.utc,
    expiresAt := issued.utc.add lifetime, accessEpoch := epoch, oneTime := true,
    signature := [] }

variable {lib : Library} {owner authority : Bytes} {bindingEpoch epoch : ℕ}
  {peers protocol bindingText jti : GoString} {issued : Time} {lifetime : Duration}
  {random : Bytes}

/-- An invite with the signature of the authority over its members. -/
abbrev ExactInvite.signedBy (lib : Library) (authority : Bytes) (i : ExactInvite)
    (members : Members) : ExactInvite :=
  { i with signature := publicString (lib.sign authority
      (exactInviteSigningDomain ++ writeObject members)) }

theorem inviteType_fits : inviteType.all plainByte = true ∧ inviteType.length ≤ 64 := by decide

theorem unsignedInvite_members (times : TimeInput issued lifetime random) (pipeID : GoString) :
    ∃ members, (unsignedInvite lib authority pipeID bindingText jti issued lifetime
      epoch).bodyMembers = .ok members := by
  obtain ⟨begins, ends, isBegin, isEnd⟩ := times.scalars
  rw [ExactInvite.bodyMembers]
  simp only [unsignedInvite, isBegin, isEnd, ok_bind]
  exact ⟨_, rfl⟩

theorem ExactInvite.signingBody_eq {i : ExactInvite} {members : Members}
    (body : i.bodyMembers = .ok members) :
    i.signingBody lib.primitives = .ok (exactInviteSigningDomain ++ writeObject members) := by
  show ((i.bodyMembers >>= fun members => pure (writeObject members)) >>=
    fun canonical => pure (exactInviteSigningDomain ++ canonical)) = _
  rw [body]
  rfl

theorem ExactInvite.verifyBinding_of {prim : Primitives} {i : ExactInvite}
    {binding : OwnerBinding} {ownerPub : Bytes}
    (decoded : decodeOwnerBinding prim i.binding = .ok binding)
    (verified : binding.verifyOwnerBinding prim = .ok ownerPub)
    (owned : verifyPipeOwner prim i.audiencePipeID ownerPub = true)
    (bound : binding.authorityKey = i.issuer) (pipe : binding.pipeID = i.audiencePipeID) :
    i.verifyBinding prim = .ok () := by
  grind [failIf_of_not, ok_bind, ExactInvite.verifyBinding]

/-- The fields of an invite, within the bounds that make its text short. -/
structure InviteParts (lib : Library) (authority : Bytes)
    (pipeID bindingText jti : GoString) (epoch : ℕ) : Prop where
  authority : lib.KeyPair authority
  epoch : epoch < uint64Size
  pipe : ValidUTF8 pipeID ∧ validString pipeID = true ∧ pipeID.length ≤ 36
  binding : bindingText.all plainByte = true ∧ bindingText ≠ [] ∧ bindingText.length ≤ 19000
  jti : jti.all plainByte = true ∧ jti.length ≤ 30 ∧ validString jti = true ∧
    hasPrefix jti (str "jti_") = true

namespace InviteParts

variable {pipeID signature : GoString}
  (parts : InviteParts lib authority pipeID bindingText jti epoch)

include parts

/-- The text of an invite is dominated by its owner binding. -/
theorem size {members : Members} (written : (unsignedInvite lib authority pipeID bindingText jti
      issued lifetime epoch).bodyMembers = .ok members)
    (signed : ValidUTF8 signature ∧ signature.length ≤ 128) :
    (writeObject (members ++ signatureMember signature)).length ≤ 21500 := by
  simp only [ExactInvite.bodyMembers, bind_eq_ok, unsignedInvite] at written
  obtain ⟨issuedAt, isIssued, notBefore, isNotBefore, expiresAt, isExpires, same⟩ := written
  obtain rfl := Except.ok.inj same
  obtain ⟨validIssuer, -, shortIssuer⟩ := publicString_fits parts.authority.publicSize
  have bindingText := (textScalar_length_plain parts.binding.1).trans_le
    (Nat.add_le_add_right parts.binding.2.2 2)
  refine (writeObject_length_le _).trans ?_
  simp only [signatureMember, List.map_append, List.sum_append,
    List.map_cons, List.map_nil, List.sum_cons, List.sum_nil]
  have version := member_length_le "version" version_length_le (by decide)
  have type := textMember_length_le "type" (.of_plain inviteType_fits.1) inviteType_fits.2
    (by decide)
  have issuer := textMember_length_le "issuer" validIssuer shortIssuer (by decide)
  have audience := textMember_length_le "audience_pipe_id" parts.pipe.1 parts.pipe.2.2 (by decide)
  have binding := member_length_le "binding" bindingText (by decide)
  have jti := textMember_length_le "jti" (.of_plain parts.jti.1) parts.jti.2.1 (by decide)
  have issued := member_length_le "issued_at" (timeScalar_length_le rfl isIssued) (by decide)
  have begun := member_length_le "not_before" (timeScalar_length_le rfl isNotBefore) (by decide)
  have ended := member_length_le "expires_at" (timeScalar_length_le rfl isExpires) (by decide)
  have epoch := member_length_le "access_epoch" (epoch_length_le parts.epoch) (by decide)
  have once := member_length_le "one_time" (show (Scalar.bool true).write.length ≤ 4 by decide)
    (by decide)
  have signature := textMember_length_le "signature" signed.1 signed.2 (by decide)
  omega

theorem encodable (signed : ValidUTF8 signature ∧ signature.length ≤ 128) :
    ExactInvite.Encodable { unsignedInvite lib authority pipeID bindingText jti issued
      lifetime epoch with signature } := by
  refine ⟨fitsInt_credentialVersion, parts.epoch, ?_, ?_⟩
  · simp only [unsignedInvite, List.forall_mem_cons, List.not_mem_nil, false_implies,
      implies_true, and_true]
    exact ⟨.of_plain inviteType_fits.1, (publicString_fits parts.authority.publicSize).1,
      parts.pipe.1, .of_plain parts.binding.1, .of_plain parts.jti.1, signed.1⟩
  · simp [unsignedInvite, Time.utc, Time.add]

theorem bounded (signed : ValidUTF8 signature ∧ signature.length ≤ 128) :
    ExactInvite.Bounded { unsignedInvite lib authority pipeID bindingText jti issued
      lifetime epoch with signature } := by
  refine ⟨?_, parts.pipe.2.2.trans (by decide), parts.binding.2.2.trans (by decide)⟩
  simp only [unsignedInvite, List.forall_mem_cons, List.not_mem_nil, false_implies,
    implies_true, and_true]
  exact ⟨inviteType_fits.2.trans (by decide),
    (publicString_fits parts.authority.publicSize).2.2.trans (by decide),
    parts.jti.2.1.trans (by decide), signed.2.trans (by decide)⟩

end InviteParts

section Bound

variable (binding : BindingInput lib owner (lib.publicKey authority) bindingEpoch peers protocol)
  (times : TimeInput issued lifetime random)

include binding times

theorem newExactInvite_eq
    (encoded : encodeOwnerBinding lib.primitives binding.binding = .ok bindingText)
    (isJTI : newJTI (.ok random) = .ok jti) {members : Members}
    (body : (unsignedInvite lib authority binding.pipeID bindingText jti issued lifetime
      epoch).bodyMembers = .ok members) :
    newExactInvite lib.primitives authority binding.binding binding.pipeID issued lifetime epoch
        (.ok random) =
      .ok ((unsignedInvite lib authority binding.pipeID bindingText jti issued lifetime
        epoch).signedBy lib authority members) := by
  obtain ⟨-, validPipe, shortPipe⟩ := pipeID_fits lib.primitives (lib.publicKey owner)
  have short : ¬maxPipeIDLen < binding.pipeID.length :=
    Nat.not_lt.mpr (shortPipe.trans (by decide))
  have samePipe : binding.binding.pipeID = binding.pipeID := rfl
  have inside : ¬(lifetime ≤ 0 ∨ maxTTL < lifetime) :=
    not_or.mpr ⟨not_le.mpr times.positive, not_lt.mpr times.short⟩
  rw [newExactInvite, show lib.primitives.publicKey = lib.publicKey from rfl,
    binding.authorised, ok_bind,
    failIf_of_not (by
      rintro (invalid | long | foreign)
      · exact invalid validPipe
      · exact short long
      · exact foreign samePipe), ok_bind, encoded, ok_bind, failIf_of_not inside, ok_bind,
    isJTI, ok_bind]
  show ((unsignedInvite lib authority binding.pipeID bindingText jti issued lifetime
      epoch).signingBody lib.primitives >>= fun canonical => _) = _
  rw [ExactInvite.signingBody_eq body, ok_bind]
  rfl

theorem InviteParts.sound (parts : InviteParts lib authority binding.pipeID bindingText jti epoch)
    (decoded : decodeOwnerBinding lib.primitives bindingText = .ok binding.binding)
    {expected : GoString} (own : expected ≠ [] → binding.pipeID = expected) {members : Members}
    (body : (unsignedInvite lib authority binding.pipeID bindingText jti issued lifetime
      epoch).bodyMembers = .ok members) :
    ExactInvite.Sound lib.primitives ((unsignedInvite lib authority binding.pipeID bindingText jti
      issued lifetime epoch).signedBy lib authority members) expected where
  kind := ⟨rfl, rfl⟩
  issuer := (publicString_fits parts.authority.publicSize).2.1
  audience := ⟨own, parts.pipe.2.1, parts.pipe.2.2.trans (by decide)⟩
  jti := parts.jti.2.2
  binding := ⟨parts.binding.2.1, parts.binding.2.2.trans (by decide)⟩
  oneTime := rfl
  lifetime := times.sound
  bound := ExactInvite.verifyBinding_of decoded binding.verified binding.ownPipe rfl rfl
  signed :=
    ⟨_, exactInviteSigningDomain ++ writeObject members, lib.publicKey authority,
      decodeSignature_publicString (parts.authority.signatureSize _),
      ExactInvite.signingBody_eq body,
      publicFromString_publicString parts.authority.publicSize, parts.authority.verifies _⟩

/-- A bound authority mints an invite that survives its encoding and is verified in
its window. -/
theorem newExactInvite_window (authorityKey : lib.KeyPair authority) (fits : epoch < uint64Size) :
    ∃ invite, newExactInvite lib.primitives authority binding.binding binding.pipeID issued
        lifetime epoch (.ok random) = .ok invite ∧
      (∃ text, encodeInvite lib.primitives invite = .ok text ∧
        decodeInvite lib.primitives text = .ok invite) ∧
      ∀ now clock expected, now.isZero = false → (expected ≠ [] → binding.pipeID = expected) →
        (invite.verify lib.primitives now clock expected = .ok () ↔
          InWindow issued lifetime now) := by
  obtain ⟨bindingText, encoded, decoded, isText⟩ := binding.roundTrip
  obtain ⟨jti, isJTI, validJTI⟩ := newJTI_fits times.random
  have parts : InviteParts lib authority binding.pipeID bindingText jti epoch :=
    ⟨authorityKey, fits, pipeID_fits lib.primitives (lib.publicKey owner), isText, validJTI⟩
  obtain ⟨members, body⟩ := unsignedInvite_members times binding.pipeID
  have signed := signature_fits
    (authorityKey.signatureSize (exactInviteSigningDomain ++ writeObject members))
  have size := parts.size body signed
  refine ⟨_, newExactInvite_eq binding times encoded isJTI body,
    decodeInvite_encodeInvite lib (parts.encodable signed) (parts.bounded signed) body
      ((Nat.mul_le_mul_left 2 size).trans (by decide)), ?_⟩
  intro now clock expected notZero own
  rw [(parts.sound binding times decoded own body).verify_iff]
  exact minted_window clock lifetime notZero

end Bound

end Invite

/-! ## Access Leases -/

section Lease

/-- The lease of `NewAccessLease` before it is signed. -/
def unsignedLease (lib : Library) (authority recipient : Bytes) (pipeID jti : GoString)
    (issued : Time) (lifetime : Duration) (epoch : ℕ) : AccessLease :=
  { version := credentialVersion, type := accessLeaseType,
    issuer := publicString (lib.publicKey authority), subject := publicString recipient,
    audiencePipeID := pipeID, jti, issuedAt := issued.utc, notBefore := issued.utc,
    expiresAt := issued.utc.add lifetime, accessEpoch := epoch, signature := [] }

/-- A lease with the signature of the authority over its members. -/
abbrev AccessLease.signedBy (lib : Library) (authority : Bytes) (l : AccessLease)
    (members : Members) : AccessLease :=
  { l with signature := publicString (lib.sign authority
      (accessLeaseSigningDomain ++ writeObject members)) }

/-- The fields of a lease, within their bounds. -/
structure LeaseParts (lib : Library) (authority recipient : Bytes)
    (pipeID jti : GoString) (epoch : ℕ) : Prop where
  authority : lib.KeyPair authority
  recipient : recipient.length = ed25519PublicKeySize
  epoch : epoch < uint64Size
  pipe : ValidUTF8 pipeID ∧ pipeID ≠ [] ∧ pipeID.length ≤ maxPipeIDLen
  jti : jti.all plainByte = true ∧ jti.length ≤ 30 ∧ validString jti = true ∧
    hasPrefix jti (str "jti_") = true

variable {lib : Library} {authority recipient : Bytes} {epoch : ℕ}
  {pipeID jti signature : GoString} {issued : Time} {lifetime : Duration} {random : Bytes}

theorem accessLeaseType_fits :
    accessLeaseType.all plainByte = true ∧ accessLeaseType.length ≤ 64 := by decide

theorem unsignedLease_members (times : TimeInput issued lifetime random) :
    ∃ members, (unsignedLease lib authority recipient pipeID jti issued lifetime
      epoch).bodyMembers = .ok members := by
  obtain ⟨begins, ends, isBegin, isEnd⟩ := times.scalars
  rw [AccessLease.bodyMembers]
  simp only [unsignedLease, isBegin, isEnd, ok_bind]
  exact ⟨_, rfl⟩

theorem AccessLease.signingBody_eq {l : AccessLease} {members : Members}
    (body : l.bodyMembers = .ok members) :
    l.signingBody lib.primitives = .ok (accessLeaseSigningDomain ++ writeObject members) := by
  show ((l.bodyMembers >>= fun members => pure (writeObject members)) >>=
    fun canonical => pure (accessLeaseSigningDomain ++ canonical)) = _
  rw [body]
  rfl

namespace LeaseParts

variable (parts : LeaseParts lib authority recipient pipeID jti epoch)

include parts

theorem validPipe : validString pipeID = true := by
  have short := parts.pipe.2.2
  unfold maxPipeIDLen at short
  exact validString_iff.mpr ⟨List.length_pos_of_ne_nil parts.pipe.2.1, by omega⟩

theorem size {members : Members} (written : (unsignedLease lib authority recipient pipeID jti
      issued lifetime epoch).bodyMembers = .ok members)
    (signed : ValidUTF8 signature ∧ signature.length ≤ 128) :
    (writeObject (members ++ signatureMember signature)).length ≤ 5000 := by
  simp only [AccessLease.bodyMembers, bind_eq_ok, unsignedLease] at written
  obtain ⟨issuedAt, isIssued, notBefore, isNotBefore, expiresAt, isExpires, same⟩ := written
  obtain rfl := Except.ok.inj same
  obtain ⟨validIssuer, -, shortIssuer⟩ := publicString_fits parts.authority.publicSize
  obtain ⟨validSubject, -, shortSubject⟩ := publicString_fits parts.recipient
  refine (writeObject_length_le _).trans ?_
  simp only [signatureMember, List.map_append, List.sum_append,
    List.map_cons, List.map_nil, List.sum_cons, List.sum_nil]
  have version := member_length_le "version" version_length_le (by decide)
  have type := textMember_length_le "type" (.of_plain accessLeaseType_fits.1)
    accessLeaseType_fits.2 (by decide)
  have issuer := textMember_length_le "issuer" validIssuer shortIssuer (by decide)
  have subject := textMember_length_le "subject" validSubject shortSubject (by decide)
  have audience := textMember_length_le "audience_pipe_id" parts.pipe.1 parts.pipe.2.2 (by decide)
  have jti := textMember_length_le "jti" (.of_plain parts.jti.1) parts.jti.2.1 (by decide)
  have issued := member_length_le "issued_at" (timeScalar_length_le rfl isIssued) (by decide)
  have begun := member_length_le "not_before" (timeScalar_length_le rfl isNotBefore) (by decide)
  have ended := member_length_le "expires_at" (timeScalar_length_le rfl isExpires) (by decide)
  have epoch := member_length_le "access_epoch" (epoch_length_le parts.epoch) (by decide)
  have signature := textMember_length_le "signature" signed.1 signed.2 (by decide)
  unfold maxPipeIDLen at audience
  omega

theorem encodable (signed : ValidUTF8 signature ∧ signature.length ≤ 128) :
    AccessLease.Encodable { unsignedLease lib authority recipient pipeID jti issued
      lifetime epoch with signature } := by
  refine ⟨fitsInt_credentialVersion, parts.epoch, ?_, ?_⟩
  · simp only [unsignedLease, List.forall_mem_cons, List.not_mem_nil, false_implies,
      implies_true, and_true]
    exact ⟨.of_plain accessLeaseType_fits.1,
      (publicString_fits parts.authority.publicSize).1, (publicString_fits parts.recipient).1,
      parts.pipe.1, .of_plain parts.jti.1, signed.1⟩
  · simp [unsignedLease, Time.utc, Time.add]

theorem bounded (signed : ValidUTF8 signature ∧ signature.length ≤ 128) :
    AccessLease.Bounded { unsignedLease lib authority recipient pipeID jti issued
      lifetime epoch with signature } := by
  refine ⟨?_, parts.pipe.2.2⟩
  simp only [unsignedLease, List.forall_mem_cons, List.not_mem_nil, false_implies,
    implies_true, and_true]
  exact ⟨accessLeaseType_fits.2.trans (by decide),
    (publicString_fits parts.authority.publicSize).2.2.trans (by decide),
    (publicString_fits parts.recipient).2.2.trans (by decide),
    parts.jti.2.1.trans (by decide), signed.2.trans (by decide)⟩

theorem sound (times : TimeInput issued lifetime random) {members : Members}
    (body : (unsignedLease lib authority recipient pipeID jti issued lifetime
      epoch).bodyMembers = .ok members) :
    AccessLease.Sound lib.primitives ((unsignedLease lib authority recipient pipeID jti issued
      lifetime epoch).signedBy lib authority members) (lib.publicKey authority) (publicString recipient) pipeID where
  kind := ⟨rfl, rfl⟩
  issuer := ⟨rfl, (publicString_fits parts.authority.publicSize).2.1⟩
  subject := ⟨rfl, (publicString_fits parts.recipient).2.1, recipient,
    publicFromString_publicString parts.recipient⟩
  audience := ⟨rfl, parts.validPipe, parts.pipe.2.2⟩
  jti := parts.jti.2.2
  lifetime := times.sound
  signed :=
    ⟨_, accessLeaseSigningDomain ++ writeObject members,
      decodeSignature_publicString (parts.authority.signatureSize _),
      AccessLease.signingBody_eq body, parts.authority.verifies _⟩

theorem minted (times : TimeInput issued lifetime random) (isJTI : newJTI (.ok random) = .ok jti)
    {members : Members} (body : (unsignedLease lib authority recipient pipeID jti issued lifetime
      epoch).bodyMembers = .ok members) :
    newAccessLease lib.primitives authority (publicString recipient) pipeID issued lifetime
        epoch (.ok random) =
      .ok ((unsignedLease lib authority recipient pipeID jti issued lifetime epoch).signedBy lib
        authority members) := by
  have validSubject := (publicString_fits parts.recipient).2.1
  have identity : ¬(¬validString (publicString recipient) = true ∨
      ¬validString pipeID = true ∨ maxPipeIDLen < pipeID.length) := by
    rintro (invalid | invalid | long)
    · exact invalid validSubject
    · exact invalid parts.validPipe
    · exact Nat.not_lt.mpr parts.pipe.2.2 long
  have inside : ¬(lifetime ≤ 0 ∨ maxTTL < lifetime) :=
    not_or.mpr ⟨not_le.mpr times.positive, not_lt.mpr times.short⟩
  rw [newAccessLease, failIf_of_not identity, ok_bind,
    publicFromString_publicString parts.recipient]
  rw [failIf_of_not inside, ok_bind, isJTI, ok_bind]
  show ((unsignedLease lib authority recipient pipeID jti issued lifetime
    epoch).signingBody lib.primitives >>= fun canonical => _) = _
  rw [AccessLease.signingBody_eq body, ok_bind]
  rfl

end LeaseParts

/-- A minted lease survives its encoding and is verified in its window. -/
theorem newAccessLease_window (authorityKey : lib.KeyPair authority)
    (isKey : recipient.length = ed25519PublicKeySize) (fits : epoch < uint64Size)
    (pipe : ValidUTF8 pipeID ∧ pipeID ≠ [] ∧ pipeID.length ≤ maxPipeIDLen)
    (times : TimeInput issued lifetime random) :
    ∃ lease, newAccessLease lib.primitives authority (publicString recipient) pipeID issued
        lifetime epoch (.ok random) = .ok lease ∧
      (∃ text, encodeLease lib.primitives lease = .ok text ∧
        decodeLease lib.primitives text = .ok lease) ∧
      ∀ now clock, now.isZero = false →
        (lease.verify lib.primitives (lib.publicKey authority) (publicString recipient)
            pipeID now clock = .ok () ↔
          InWindow issued lifetime now) := by
  obtain ⟨jti, isJTI, validJTI⟩ := newJTI_fits times.random
  have parts : LeaseParts lib authority recipient pipeID jti epoch :=
    ⟨authorityKey, isKey, fits, pipe, validJTI⟩
  obtain ⟨members, body⟩ := unsignedLease_members times
  have signed := signature_fits
    (authorityKey.signatureSize (accessLeaseSigningDomain ++ writeObject members))
  have size := parts.size body signed
  have sound := parts.sound times body
  refine ⟨_, parts.minted times isJTI body, decodeLease_encodeLease lib
    (parts.encodable signed) (parts.bounded signed) body
    ((Nat.mul_le_mul_left 2 size).trans (by decide)), ?_⟩
  intro now clock notZero
  rw [sound.verify_iff]
  exact minted_window clock lifetime notZero

end Lease

/-- Exact credentials are usable exactly in their window.  The owner binding and the
invite that are minted from keys, peers and a protocol within their bounds, and the Access
Lease of any recipient and Pipe, are decoded as they were encoded; the invite and the lease
verify from thirty seconds before the issue time until the lifetime has passed. -/
theorem credentials_window (lib : Library) {owner authority recipient : Bytes}
    {bindingEpoch epoch : ℕ} {peers protocol audience : GoString} {issued : Time}
    {lifetime : Duration} {random : Bytes}
    (binding : BindingInput lib owner (lib.publicKey authority) bindingEpoch peers protocol)
    (authorityKey : lib.KeyPair authority) (fits : epoch < uint64Size)
    (times : TimeInput issued lifetime random) (isKey : recipient.length = ed25519PublicKeySize)
    (pipe : ValidUTF8 audience ∧ audience ≠ [] ∧ audience.length ≤ maxPipeIDLen) :
    let prim := lib.primitives
    let pipeID := pipeIDFromOwner prim (lib.publicKey owner)
    ∃ ownerBinding invite lease,
      newOwnerBinding prim owner (lib.publicKey authority) pipeID bindingEpoch peers
          protocol = .ok ownerBinding ∧
      (∃ text, encodeOwnerBinding prim ownerBinding = .ok text ∧
        decodeOwnerBinding prim text = .ok ownerBinding) ∧
      newExactInvite prim authority ownerBinding pipeID issued lifetime epoch
          (.ok random) = .ok invite ∧
      (∃ text, encodeInvite prim invite = .ok text ∧ decodeInvite prim text = .ok invite) ∧
      (∀ t clock expected, t.isZero = false → (expected ≠ [] → pipeID = expected) →
        (invite.verify prim t clock expected = .ok () ↔ InWindow issued lifetime t)) ∧
      newAccessLease prim authority (publicString recipient) audience issued lifetime epoch
          (.ok random) = .ok lease ∧
      (∃ text, encodeLease prim lease = .ok text ∧ decodeLease prim text = .ok lease) ∧
      ∀ t clock, t.isZero = false →
        (lease.verify prim (lib.publicKey authority) (publicString recipient) audience t
          clock = .ok () ↔ InWindow issued lifetime t) := by
  intro prim pipeID
  obtain ⟨bindingText, encoded, decoded, -⟩ := binding.roundTrip
  obtain ⟨invite, isInvite, inviteTrip, inviteWindow⟩ :=
    newExactInvite_window binding times authorityKey fits
  obtain ⟨lease, isLease, leaseTrip, leaseWindow⟩ :=
    newAccessLease_window authorityKey isKey fits pipe times
  exact ⟨_, invite, lease, binding.minted, ⟨bindingText, encoded, decoded⟩, isInvite,
    inviteTrip, inviteWindow, isLease, leaseTrip, leaseWindow⟩

namespace Sample

/-- Keys and signatures of the right sizes. -/
def sizedLibrary : Library where
  publicKey secret := List.replicate 32 (secret.headD 0)
  sign _ _ := List.replicate 64 7
  verify _ _ _ := true
  sha256 _ := List.replicate 32 1
  parseTime _ := none

theorem sizedLibrary_keyPair (secret : Bytes) : sizedLibrary.KeyPair secret :=
  ⟨by simp [sizedLibrary, ed25519PublicKeySize],
    fun _ => by simp [sizedLibrary, ed25519SignatureSize], fun _ => rfl⟩

/-- A day of the year 1999. -/
def issueTime : Time := ⟨730000 * 86400 * 1000000000, 3600⟩

theorem binding_input : BindingInput sizedLibrary [1] (sizedLibrary.publicKey [2]) 3
    (str "/ip4/192.0.2.7/tcp/4001") (str "/tubo/redeem/1") where
  owner := sizedLibrary_keyPair [1]
  authority := (sizedLibrary_keyPair [2]).publicSize
  validPeers := .of_plain (by decide)
  validProtocol := .of_plain (by decide)
  fewPeers := by decide
  shortPeers := by decide
  shortProtocol := by decide
  epoch := by decide

theorem issueTime_input : TimeInput issueTime (5 * 60 * 1000000000) (List.replicate 16 9) where
  year := by decide
  positive := by decide
  short := by decide
  random := by decide

end Sample

/-- An invite and a lease of five minutes, at their issue and five minutes later. -/
theorem credentials_window_five_minutes : ∃ ownerBinding invite,
      newExactInvite Sample.sizedLibrary.primitives [2] ownerBinding
        (pipeIDFromOwner Sample.sizedLibrary.primitives (Sample.sizedLibrary.publicKey [1]))
        Sample.issueTime (5 * 60 * 1000000000) 4 (.ok (List.replicate 16 9)) = .ok invite ∧
      invite.verify Sample.sizedLibrary.primitives Sample.issueTime Sample.issueTime [] = .ok () ∧
      invite.verify Sample.sizedLibrary.primitives
        (Sample.issueTime.add (5 * 60 * 1000000000)) Sample.issueTime [] ≠ .ok () := by
  obtain ⟨ownerBinding, invite, lease, -, -, minted, -, window, -⟩ :=
    credentials_window Sample.sizedLibrary Sample.binding_input
      (Sample.sizedLibrary_keyPair [2]) (show 4 < uint64Size by decide)
      Sample.issueTime_input (Sample.sizedLibrary_keyPair [5]).publicSize
      (show ValidUTF8 (str "pip_web") ∧ str "pip_web" ≠ [] ∧
          (str "pip_web").length ≤ maxPipeIDLen from
        ⟨.of_plain (by decide), by decide, by decide⟩)
  refine ⟨ownerBinding, invite, minted, ?_, ?_⟩
  · exact (window _ _ [] (by decide) (fun present => absurd rfl present)).mpr ⟨by decide, by decide⟩
  · intro verified
    have inside := (window _ _ [] (by decide) (fun present => absurd rfl present)).mp verified
    exact absurd inside.2 (by decide)

end Tubo
