import Tubo.Discovery.Record
import Tubo.Go.JsonValue

/-!
# Nothing after a payload

Packages `internal/authority`, `internal/discovery` and `internal/protocol`: tokens, records and
messages are decoded with `DisallowUnknownFields`, and a second `Decode` looks for what follows
them.

`Parse` and `ReadFrame` require that it reports the end.  `authority.Decode` requires only that it
fails, which it does for most texts (`token_with_trailing_text`).  All three take the word `null`
for an object.

* `decoders_strict_iff` — where each of them accepts nothing but a whole object.
-/

namespace Tubo

open Json

/-! ## The decoders -/

/-- A `Decode` has returned `io.EOF`. -/
def isEOF {α : Type} : Except GoError α → Bool
  | .error error => error = ioEOF
  | .ok _ => false

/-- The JSON part of `authority.Decode`. -/
def tokenFromJSON (type : StructType Token) (data : Bytes) : Except GoError Token := do
  let (token, rest) ← errorf "invalid token: " (type.decode data)
  failIf ((emptyStruct.decode rest).isOk = true) (errorsNew "trailing token payload")
  return token

/-- The JSON part of `discovery.Parse` and of `ReadFrame`. -/
def wholeFromJSON {α : Type} (type : StructType α) (trailing : String) (data : Bytes) :
    Except GoError α := do
  let (value, rest) ← type.decode data
  failIf (isEOF (emptyStruct.decode rest) = false) (errorsNew trailing)
  return value

/-- Tokens and records with these decoders. -/
def RecordJSON.decoding (json : RecordJSON) (token : StructType Token)
    (record : StructType PipeRecord) : RecordJSON :=
  { json with
    unmarshalToken := tokenFromJSON token
    unmarshalRecord := wholeFromJSON record "trailing record payload" }

/-! ## What they accept -/

/-- One object, all of whose members are fields, and white space. -/
def Strict {α : Type} (type : StructType α) (data : Bytes) : Prop :=
  ∃ members rest, next data = .value (.object members) rest ∧ rest.all isSpace = true ∧
    ∀ member ∈ members, (type.field (unquote member.1)).isSome = true

/-- The word `null` and white space. -/
def IsNull (data : Bytes) : Prop :=
  ∃ rest, next data = .value (.scalar .null) rest ∧ rest.all isSpace = true

/-- The text begins with a value that an empty struct takes. -/
def Noticed (rest : Bytes) : Prop :=
  ∃ after, next rest = .value (.scalar .null) after ∨ next rest = .value (.object []) after

/-- A token, or `null`, with a text behind it that the second `Decode` fails on; for `null` it
may be empty. -/
def Lenient (type : StructType Token) (data : Bytes) : Prop :=
  ∃ first rest token, next data = .value first rest ∧ type.unmarshal first = .ok token ∧
    ¬Noticed rest ∧ (first = .scalar .null ∨ rest.all isSpace = false)

section Decode

variable {α : Type} {type : StructType α}

theorem decode_eq_ok {text rest : Bytes} {value : α} : type.decode text = .ok (value, rest) ↔
    ∃ first, next text = .value first rest ∧ type.unmarshal first = .ok value := by
  unfold StructType.decode
  constructor
  · intro decoded
    split at decoded
    · cases decoded
    · cases decoded
    · rename_i first behind isNext
      cases taken : type.unmarshal first with
      | error error =>
        rw [taken] at decoded
        cases decoded
      | ok other =>
        rw [taken] at decoded
        cases decoded
        exact ⟨first, isNext, taken⟩
  · rintro ⟨first, isNext, unmarshalled⟩
    rw [isNext]
    dsimp only
    rw [unmarshalled]
    rfl

theorem fields_isSome {members : List (Bytes × Value)} {fields : List (GoString × Value)}
    (found : type.fields members = some fields) :
    ∀ member ∈ members, (type.field (unquote member.1)).isSome = true := by
  induction members generalizing fields with
  | nil => exact fun _ member => absurd member List.not_mem_nil
  | cons first members ih =>
    simp only [StructType.fields, List.mapM_cons, Option.bind_eq_bind,
      Option.bind_eq_some_iff, Option.map_eq_some_iff] at found
    obtain ⟨-, ⟨field, isField, -⟩, more, isMore, -⟩ := found
    refine List.forall_mem_cons.mpr ⟨?_, ih isMore⟩
    rw [isField]
    rfl

/-- A struct takes `null`, or an object of its fields. -/
theorem unmarshal_eq_ok {first : Value} {value : α} (taken : type.unmarshal first = .ok value) :
    first = .scalar .null ∨ ∃ members, first = .object members ∧
      ∀ member ∈ members, (type.field (unquote member.1)).isSome = true := by
  unfold StructType.unmarshal at taken
  split at taken
  · exact .inl rfl
  · rename_i members
    split at taken
    · rename_i fields found
      exact .inr ⟨members, rfl, fields_isSome found⟩
    · cases taken
  · cases taken

/-- The value behind which nothing is left is strict, if it is an object. -/
theorem strict_iff {data rest : Bytes} {first : Value} {value : α}
    (isNext : next data = .value first rest) (taken : type.unmarshal first = .ok value) :
    Strict type data ↔ first ≠ .scalar .null ∧ rest.all isSpace = true := by
  constructor
  · rintro ⟨members, behind, isObject, blank, -⟩
    cases isNext.symm.trans isObject
    exact ⟨nofun, blank⟩
  · rintro ⟨notNull, blank⟩
    obtain isNull | ⟨members, rfl, known⟩ := unmarshal_eq_ok taken
    · exact absurd isNull notNull
    · exact ⟨members, rest, isNext, blank, known⟩

end Decode

/-- The second `Decode` succeeds on `null` and on an empty object. -/
theorem emptyStruct_isOk {rest : Bytes} : (emptyStruct.decode rest).isOk = true ↔ Noticed rest := by
  have isOk : (emptyStruct.decode rest).isOk = true ↔
      ∃ after, emptyStruct.decode rest = .ok ((), after) := by
    cases emptyStruct.decode rest with
    | error error => simp [Except.isOk, Except.toBool]
    | ok result => simp [Except.isOk, Except.toBool, Prod.ext_iff]
  rw [isOk]
  refine exists_congr fun after => ?_
  rw [decode_eq_ok]
  constructor
  · rintro ⟨first, isNext, taken⟩
    obtain rfl | ⟨members, rfl, known⟩ := unmarshal_eq_ok taken
    · exact .inl isNext
    · cases members with
      | nil => exact .inr isNext
      | cons member members => exact absurd (known member List.mem_cons_self) nofun
  · rintro (isNull | isEmpty)
    · exact ⟨_, isNull, rfl⟩
    · exact ⟨_, isEmpty, rfl⟩

/-- It reports the end exactly after white space. -/
theorem isEOF_decode {rest : Bytes} :
    isEOF (emptyStruct.decode rest) = true ↔ rest.all isSpace = true := by
  unfold StructType.decode next
  by_cases blank : rest.all isSpace = true
  · simp [blank, isEOF]
  · simp only [blank, if_neg Bool.false_ne_true]
    split
    · rename_i isNext
      split at isNext <;> cases isNext
    · rfl
    · rename_i first behind _
      cases taken : emptyStruct.unmarshal first with
      | ok value => rfl
      | error error =>
        unfold StructType.unmarshal at taken
        split at taken
        · cases taken
        · split at taken <;> cases taken
          rfl
        · cases taken
          rfl

theorem tokenFromJSON_eq_ok {type : StructType Token} {data : Bytes} {token : Token} :
    tokenFromJSON type data = .ok token ↔ ∃ first rest, next data = .value first rest ∧
      type.unmarshal first = .ok token ∧ ¬Noticed rest := by
  simp only [tokenFromJSON, bind_eq_ok, errorf_eq_ok, Prod.exists, decode_eq_ok, failIf_eq_ok,
    emptyStruct_isOk]
  constructor
  · rintro ⟨value, rest, ⟨first, isNext, taken⟩, -, unnoticed, same⟩
    cases same
    exact ⟨first, rest, isNext, taken, unnoticed⟩
  · rintro ⟨first, rest, isNext, taken, unnoticed⟩
    exact ⟨token, rest, ⟨first, isNext, taken⟩, (), unnoticed, rfl⟩

theorem wholeFromJSON_eq_ok {α : Type} {type : StructType α} {trailing : String} {data : Bytes}
    {value : α} : wholeFromJSON type trailing data = .ok value ↔ ∃ first rest,
      next data = .value first rest ∧ type.unmarshal first = .ok value ∧
      rest.all isSpace = true := by
  simp only [wholeFromJSON, bind_eq_ok, Prod.exists, decode_eq_ok, failIf_eq_ok,
    Bool.not_eq_false, isEOF_decode]
  constructor
  · rintro ⟨taken, rest, ⟨first, isNext, isTaken⟩, -, blank, same⟩
    cases same
    exact ⟨first, rest, isNext, isTaken, blank⟩
  · rintro ⟨first, rest, isNext, taken, blank⟩
    exact ⟨value, rest, ⟨first, isNext, taken⟩, (), blank, rfl⟩

/-- A decoder that requires the end accepts nothing but objects and `null`. -/
theorem wholeFromJSON_strict_iff {α : Type} (type : StructType α) (trailing : String)
    (data : Bytes) : (∀ value, wholeFromJSON type trailing data = .ok value → Strict type data) ↔
      ¬IsNull data := by
  constructor
  · rintro strict ⟨rest, isNext, blank⟩
    have accepted : wholeFromJSON type trailing data = .ok type.zero :=
      wholeFromJSON_eq_ok.mpr ⟨_, rest, isNext, rfl, blank⟩
    exact ((strict_iff isNext rfl).mp (strict _ accepted)).1 rfl
  · intro notNull value accepted
    obtain ⟨first, rest, isNext, taken, blank⟩ := wholeFromJSON_eq_ok.mp accepted
    refine (strict_iff isNext taken).mpr ⟨?_, blank⟩
    rintro rfl
    exact notNull ⟨rest, isNext, blank⟩

theorem decodeToken_eq_ok {json : RecordJSON} {encoded : GoString} {token : Token} :
    decodeToken json encoded = .ok token ↔ ∃ data, rawURLDecode encoded = some data ∧
      encoded.length ≤ maxTokenSize ∧ data.length ≤ maxTokenSize ∧
      json.unmarshalToken data = .ok token := by
  simp only [decodeToken, bind_eq_ok, failIf_eq_ok, not_lt]
  cases rawURLDecode encoded with
  | none => simp
  | some data => simp [bind_eq_ok, failIf_eq_ok]

/-- Tokens are not decoded strictly.  A text that `authority.Decode` accepts is one object of token
fields and white space, exactly unless it is a token or `null` with a further text on which the
second `Decode` fails, or `null` alone.  Records and messages are decoded strictly, exactly unless
they are `null`. -/
theorem decoders_strict_iff {α : Type} (json : RecordJSON) (token : StructType Token)
    (record : StructType PipeRecord) (message : StructType α) :
    (∀ encoded, (∀ value, decodeToken (json.decoding token record) encoded = .ok value →
        ∃ data, rawURLDecode encoded = some data ∧ Strict token data) ↔
      ¬∃ data, rawURLDecode encoded = some data ∧ encoded.length ≤ maxTokenSize ∧
        data.length ≤ maxTokenSize ∧ Lenient token data) ∧
    (∀ data, (∀ value, PipeRecord.parse (json.decoding token record) data = .ok value →
        Strict record data) ↔ ¬(data.length ≤ maxRecordSize ∧ IsNull data)) ∧
    ∀ data, (∀ value, wholeFromJSON message "trailing frame payload" data = .ok value →
        Strict message data) ↔ ¬IsNull data := by
  refine ⟨fun encoded => ?_, fun data => ?_, wholeFromJSON_strict_iff message _⟩
  · constructor
    · rintro strict ⟨data, isData, short, shortData, first, rest, value, isNext, taken,
        unnoticed, loose⟩
      obtain ⟨other, isOther, isStrict⟩ := strict value (decodeToken_eq_ok.mpr
        ⟨data, isData, short, shortData, tokenFromJSON_eq_ok.mpr
          ⟨first, rest, isNext, taken, unnoticed⟩⟩)
      cases isData.symm.trans isOther
      obtain ⟨notNull, blank⟩ := (strict_iff isNext taken).mp isStrict
      rcases loose with isNull | more
      · exact notNull isNull
      · rw [blank] at more
        cases more
    · intro notLenient value accepted
      obtain ⟨data, isData, short, shortData, accepted⟩ := decodeToken_eq_ok.mp accepted
      obtain ⟨first, rest, isNext, taken, unnoticed⟩ := tokenFromJSON_eq_ok.mp accepted
      refine ⟨data, isData, (strict_iff isNext taken).mpr ?_⟩
      by_contra loose
      refine notLenient ⟨data, isData, short, shortData, first, rest, value, isNext, taken,
        unnoticed, ?_⟩
      rwa [not_and_or, not_not, Bool.not_eq_true] at loose
  · have parsed : ∀ value, PipeRecord.parse (json.decoding token record) data = .ok value ↔
        data.length ≤ maxRecordSize ∧
          wholeFromJSON record "trailing record payload" data = .ok value := by
      intro value
      simp [PipeRecord.parse, RecordJSON.decoding, bind_eq_ok, failIf_eq_ok]
    rw [not_and, ← wholeFromJSON_strict_iff record "trailing record payload" data]
    constructor
    · exact fun strict short value accepted => strict value ((parsed value).mpr ⟨short, accepted⟩)
    · intro strict value accepted
      obtain ⟨short, accepted⟩ := (parsed value).mp accepted
      exact strict short value accepted

namespace Sample

/-- A token without a signature. -/
def bareToken : Token :=
  ⟨1, str "access", [], [], [], ⟨[], []⟩, [], [], .zero, .zero, [], [], false, none, [], 0, 0, []⟩

/-- The fields of a token, whose values are not looked at. -/
def bareTokenType : StructType Token where
  zero := bareToken
  field name := if toLowerASCII name ∈ ["version", "type", "issuer", "subject", "audience",
      "scope", "role", "jti", "issued_at", "expires_at", "authority_address", "namespace_key",
      "one_time", "pipe_endpoint", "display_name_hint", "access_epoch", "publish_epoch",
      "signature"].map str then some (toLowerASCII name) else none
  convert _ := .ok bareToken

/-- A record without fields. -/
def bareRecordType : StructType PipeRecord :=
  ⟨⟨2, [], [], [], [], ⟨[], []⟩, [], [], [], .unlisted, .members, [], .zero, .zero, 0, []⟩,
    fun _ => none, fun _ => .error (errorsNew "record")⟩

def bareJSON : RecordJSON :=
  ⟨fun _ => .ok [], fun _ => .ok bareToken, fun _ => .ok [], fun _ => .ok [],
    fun _ => .error (errorsNew "record")⟩

end Sample

/-- A token is accepted with a letter behind it. -/
theorem token_with_trailing_text :
    decodeToken (Sample.bareJSON.decoding Sample.bareTokenType Sample.bareRecordType)
      (rawURLEncode (str "\x7b\"type\":\"access\"\x7dx")) = .ok Sample.bareToken ∧
    ¬Strict Sample.bareTokenType (str "\x7b\"type\":\"access\"\x7dx") := by
  constructor
  · decide +kernel
  · rintro ⟨members, rest, isNext, blank, -⟩
    have behind : (match next (str "\x7b\"type\":\"access\"\x7dx") with
        | .value _ rest => rest.all isSpace
        | _ => true) = false := by
      decide +kernel
    rw [isNext] at behind
    exact Bool.noConfusion (blank.symm.trans behind)

end Tubo
