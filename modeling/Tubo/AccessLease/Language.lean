import Tubo.AccessLease.Strict

/-!
# The language of the strict decoder

Package `internal/accesslease`, file `strict.go`: the texts that `decodeStrictJSON` accepts.
The grammar of a flat object is written next to the scanner, with white space between any two
tokens.

* `scanMembers_sound`, `scanMembers_complete` — the loop reads the members of the grammar.
* `decodeStrictJSON_accepts` — the decoder accepts exactly its language.
-/

namespace Tubo

open Json

/-- `decodeStrictJSON`. -/
def decodeStrictJSON (encoded : GoString) (allowed : Allowed) : Except GoError Bytes := do
  let data ← decodeStrict encoded
  let _ ← scanFlatObject data allowed
  return data

/-! ## White space -/

namespace Json

/-- JSON white space. -/
def Blank (text : Bytes) : Prop := text.all isSpace = true

variable {stack : List TokenState} {state : TokenState} {text content : Bytes} {d : Decoder}

theorem tokenFrom_blank {space : Bytes} (blank : Blank space) :
    tokenFrom stack state (space ++ text) = tokenFrom stack state text := by
  induction space with
  | nil => rfl
  | cons byte space ih =>
    obtain ⟨isBlank, more⟩ := Bool.and_eq_true_iff.mp blank
    rw [List.cons_append, tokenFrom, if_pos isBlank]
    exact ih more

/-- A token begins after white space. -/
theorem tokenFrom_begins {result : Token × Decoder}
    (found : tokenFrom stack state text = some result) :
    ∃ space byte rest, text = space ++ byte :: rest ∧ Blank space ∧ isSpace byte = false ∧
      tokenFrom stack state (byte :: rest) = some result := by
  have whole := List.takeWhile_append_dropWhile (p := isSpace) (l := text)
  have blank : Blank (text.takeWhile isSpace) := List.all_takeWhile
  have notSpace := List.head?_dropWhile_not isSpace text
  rw [← whole, tokenFrom_blank blank] at found
  cases isRest : text.dropWhile isSpace with
  | nil =>
    rw [isRest] at found
    cases found
  | cons byte rest =>
    rw [isRest] at whole notSpace found
    exact ⟨_, byte, rest, whole.symm, blank, notSpace, found⟩

/-- What the first byte of a token decides, if the token is a scalar. -/
theorem tokenFrom_scalar {byte : UInt8} {rest : Bytes} {value : Scalar}
    (notSpace : isSpace byte = false)
    (found : tokenFrom stack state (byte :: rest) = some (.scalar value, d)) :
    (byte = 0x3A ∧ state = .objectColon ∧
      tokenFrom stack .objectValue rest = some (.scalar value, d)) ∨
    (byte = 0x2C ∧ state = .objectComma ∧
      tokenFrom stack .objectKey rest = some (.scalar value, d)) ∨
    (byte = 0x2C ∧ state = .arrayComma) ∨
    (byte = 0x22 ∧ (state = .objectStart ∨ state = .objectKey) ∧ ∃ content after,
      scanString rest = some (content, after) ∧ value = .string content ∧
      d = ⟨after, .objectColon, stack⟩) ∨
    (state.valueAllowed = true ∧ ∃ after, readScalar (byte :: rest) = some (value, after) ∧
      d = ⟨after, state.valueEnd, stack⟩) := by
  have noBracket : ∀ {next}, closing byte stack next ≠ some (.scalar value, d) := by
    intro next closed
    cases stack <;> simp [closing] at closed
  rw [tokenFrom, if_neg (Bool.eq_false_iff.mp notSpace)] at found
  split_ifs at found with _ _ _ _ _ _ _ _ colon isColon comma isArray isComma quote allowed
  · cases found
  · exact absurd found noBracket
  · cases found
  · exact absurd found noBracket
  · exact .inl ⟨colon, isColon, found⟩
  · exact .inr (.inr (.inl ⟨comma, isArray⟩))
  · exact .inr (.inl ⟨comma, isComma, found⟩)
  · obtain ⟨⟨content, after⟩, scanned, same⟩ := Option.map_eq_some_iff.mp found
    obtain ⟨isValue, rfl⟩ := Prod.mk.inj same
    exact .inr (.inr (.inr (.inl
      ⟨quote.1, quote.2, content, after, scanned, (Token.scalar.inj isValue).symm, rfl⟩)))
  · obtain ⟨⟨value, after⟩, read, same⟩ := Option.map_eq_some_iff.mp found
    obtain ⟨isValue, rfl⟩ := Prod.mk.inj same
    obtain rfl := Token.scalar.inj isValue
    exact .inr (.inr (.inr (.inr ⟨allowed, after, read, rfl⟩)))

theorem closing_delim {byte bracket : UInt8} {rest : Bytes}
    (closed : closing byte stack rest = some (.delim bracket, d)) :
    byte :: rest = bracket :: d.rest := by
  cases stack with
  | nil => cases closed
  | cons outer stack =>
    obtain ⟨⟨⟩, rfl⟩ := Prod.mk.inj (Option.some.inj closed)
    rfl

/-- No bracket stands where a key is expected. -/
theorem token_key_ne_delim {bracket : UInt8} :
    tokenFrom stack .objectKey text ≠ some (.delim bracket, d) := by
  intro found
  obtain ⟨-, byte, rest, -, -, notSpace, found⟩ := tokenFrom_begins found
  rw [tokenFrom, if_neg (Bool.eq_false_iff.mp notSpace)] at found
  split_ifs at found <;> simp_all [TokenState.valueAllowed]

/-- A bracket, where an object begins or may end. -/
theorem token_delim {bracket : UInt8}
    (expects : state = .topValue ∨ state = .objectStart ∨ state = .objectComma)
    (found : tokenFrom stack state text = some (.delim bracket, d)) :
    ∃ space, text = space ++ bracket :: d.rest ∧ Blank space := by
  obtain ⟨space, byte, rest, rfl, blank, notSpace, found⟩ := tokenFrom_begins found
  refine ⟨space, congrArg _ ?_, blank⟩
  rw [tokenFrom, if_neg (Bool.eq_false_iff.mp notSpace)] at found
  split_ifs at found with _ _ _ _ _ _ _ _ _ isColon _ isArray
  · obtain ⟨⟨⟩, rfl⟩ := Prod.mk.inj (Option.some.inj found)
    rfl
  · exact closing_delim found
  · obtain ⟨⟨⟩, rfl⟩ := Prod.mk.inj (Option.some.inj found)
    rfl
  · exact closing_delim found
  · rcases expects with rfl | rfl | rfl <;> cases isColon
  · rcases expects with rfl | rfl | rfl <;> cases isArray
  · exact absurd found token_key_ne_delim
  · simp at found
  · simp at found

/-- A key, where the decoder expects one. -/
theorem token_key (expects : state = .objectStart ∨ state = .objectKey)
    (found : tokenFrom stack state text = some (.scalar (.string content), d)) :
    ∃ space after, text = space ++ 0x22 :: (content ++ 0x22 :: after) ∧ Blank space ∧
      Content content ∧ d = ⟨after, .objectColon, stack⟩ := by
  obtain ⟨space, byte, rest, rfl, blank, notSpace, found⟩ := tokenFrom_begins found
  rcases tokenFrom_scalar notSpace found with ⟨-, rfl, -⟩ | ⟨-, rfl, -⟩ | ⟨-, rfl⟩ |
    ⟨rfl, -, key, after, scanned, ⟨⟩, rfl⟩ | ⟨allowed, -⟩
  · simp at expects
  · simp at expects
  · simp at expects
  · obtain ⟨rfl, isContent⟩ := scanString_sound scanned
    exact ⟨space, after, rfl, blank, isContent, rfl⟩
  · rcases expects with rfl | rfl <;> cases allowed

/-- A further key, after a comma. -/
theorem token_comma {value : Scalar}
    (found : tokenFrom stack .objectComma text = some (.scalar value, d)) :
    ∃ space after, text = space ++ 0x2C :: after ∧ Blank space ∧
      tokenFrom stack .objectKey after = some (.scalar value, d) := by
  obtain ⟨space, byte, rest, rfl, blank, notSpace, found⟩ := tokenFrom_begins found
  rcases tokenFrom_scalar notSpace found with ⟨-, ⟨⟩, -⟩ | ⟨rfl, -, found⟩ | ⟨-, ⟨⟩⟩ |
    ⟨-, ⟨⟨⟩⟩ | ⟨⟨⟩⟩, -⟩ | ⟨⟨⟩, -⟩
  exact ⟨space, rest, rfl, blank, found⟩

/-- The value of a member, after a colon. -/
theorem token_scalar {value : Scalar}
    (found : tokenFrom stack .objectColon text = some (.scalar value, d)) :
    ∃ space gap after, text = space ++ 0x3A :: (gap ++ (value.write ++ after)) ∧ Blank space ∧
      Blank gap ∧ value.Sound ∧ d = ⟨after, .objectComma, stack⟩ := by
  obtain ⟨space, byte, rest, rfl, blank, notSpace, found⟩ := tokenFrom_begins found
  rcases tokenFrom_scalar notSpace found with ⟨rfl, -, found⟩ | ⟨-, ⟨⟩, -⟩ | ⟨-, ⟨⟩⟩ |
    ⟨-, ⟨⟨⟩⟩ | ⟨⟨⟩⟩, -⟩ | ⟨⟨⟩, -⟩
  obtain ⟨gap, byte, rest, rfl, blankGap, notSpace, found⟩ := tokenFrom_begins found
  rcases tokenFrom_scalar notSpace found with ⟨-, ⟨⟩, -⟩ | ⟨-, ⟨⟩, -⟩ | ⟨-, ⟨⟩⟩ |
    ⟨-, ⟨⟨⟩⟩ | ⟨⟨⟩⟩, -⟩ | ⟨-, after, read, rfl⟩
  obtain ⟨whole, sound⟩ := readScalar_sound read
  exact ⟨space, gap, after, by rw [whole], blank, blankGap, sound, rfl⟩

end Json

/-! ## The grammar -/

/-- A member as it is written: its key has not been unquoted. -/
abbrev RawMember := Bytes × Scalar

def RawMember.read (member : RawMember) : GoString × Scalar := (unquote member.1, member.2)

/-- The text of a member, after white space; `next` says what follows it. -/
def MemberText (member : RawMember) (next : Bytes → Prop) (text : Bytes) : Prop :=
  ∃ space gap lead after, text = space ++ 0x22 :: (member.1 ++
      0x22 :: (gap ++ 0x3A :: (lead ++ (member.2.write ++ after)))) ∧
    Blank space ∧ Blank gap ∧ Blank lead ∧ Content member.1 ∧ member.2.Sound ∧ next after

/-- What stands before a member: nothing, if it is the first one, and a comma otherwise. -/
def Separator (first : Bool) (text : Bytes) : Prop :=
  if first then text = [] else ∃ space, text = space ++ [0x2C] ∧ Blank space

/-- The members of an object, its closing bracket and white space. -/
def BodyText : Bool → List RawMember → Bytes → Prop
  | _, [], text => ∃ space trail, text = space ++ 0x7D :: trail ∧ Blank space ∧ Blank trail
  | first, member :: members, text => ∃ comma after, text = comma ++ after ∧
      Separator first comma ∧ MemberText member (BodyText false members) after

/-- The text of a flat object. -/
def ObjectText (members : List RawMember) (text : Bytes) : Prop :=
  ∃ space body, text = space ++ 0x7B :: body ∧ Blank space ∧ BodyText true members body

/-- An allow-list admits a member. -/
def Admits (allowed : Allowed) (member : GoString × Scalar) : Prop :=
  ∃ max, allowed.lookup member.1 = some max ∧
    ∀ text, member.2.text? = some text → text.length ≤ max

/-- An allow-list admits members, none of them twice. -/
def AdmittedMembers (allowed : Allowed) (members : Members) : Prop :=
  (members.map Prod.fst).Nodup ∧ ∀ member ∈ members, Admits allowed member

/-! ## The loop -/

section Loop

variable {allowed : Allowed} {seen : List GoString} {stack : List TokenState}
  {state : TokenState} {text rest : Bytes} {d after : Decoder} {member : GoString × Scalar}

theorem scanValue_iff {key : GoString} {max : ℕ} {value : Scalar} :
    scanValue key max d = .ok (value, after) ↔ d.token = some (.scalar value, after) ∧
      ∀ text, value.text? = some text → text.length ≤ max := by
  unfold scanValue
  split
  · simp_all
  · simp_all
  · rename_i found
    simp only [bind_eq_ok, failIf_eq_ok, Option.any_eq_true, decide_eq_true_eq, not_exists,
      not_and, Nat.not_lt, pure, Except.pure, Except.ok.injEq, Prod.mk.injEq, found,
      Option.some.injEq, Token.scalar.injEq]
    grind

/-- One round of the loop, in terms of its tokens. -/
theorem scanMember_iff : scanMember allowed seen d = .ok (member, after) ↔
    ∃ raw : RawMember, raw.read = member ∧ member.1 ∉ seen ∧ Admits allowed member ∧
      ∃ between, d.token = some (.scalar (.string raw.1), between) ∧
        between.token = some (.scalar raw.2, after) := by
  constructor
  · intro scanned
    unfold scanMember at scanned
    split at scanned
    · rename_i content between isKey
      simp only [bind_eq_ok, failIf_eq_ok] at scanned
      obtain ⟨-, fresh, scanned⟩ := scanned
      split at scanned
      · cases scanned
      · rename_i max isAllowed
        simp only [bind_eq_ok, Prod.exists, scanValue_iff] at scanned
        obtain ⟨value, last, ⟨isValue, bounded⟩, same⟩ := scanned
        obtain ⟨rfl, rfl⟩ := Prod.mk.inj (Except.ok.inj same)
        exact ⟨(content, value), rfl, fresh, ⟨max, isAllowed, bounded⟩, between, isKey, isValue⟩
    · cases scanned
  · rintro ⟨raw, rfl, fresh, ⟨max, isAllowed, bounded⟩, between, isKey, isValue⟩
    change unquote raw.1 ∉ seen at fresh
    change allowed.lookup (unquote raw.1) = some max at isAllowed
    have value : scanValue (unquote raw.1) max between = .ok (raw.2, after) :=
      scanValue_iff.mpr ⟨isValue, bounded⟩
    rw [scanMember, isKey]
    dsimp only
    rw [failIf_of_not fresh, ok_bind, isAllowed]
    dsimp only
    rw [value]
    rfl

theorem scanMember_shorter (scanned : scanMember allowed seen d = .ok (member, after)) :
    after.rest.length < d.rest.length := by
  obtain ⟨_, -, -, -, between, isKey, isValue⟩ := scanMember_iff.mp scanned
  exact (token_shorter isValue).trans (token_shorter isKey)

/-- A member is read from its text. -/
theorem scanMember_sound (expects : state = .objectStart ∨ state = .objectKey)
    (scanned : scanMember allowed seen ⟨text, state, stack⟩ = .ok (member, after)) :
    ∃ raw : RawMember, raw.read = member ∧ member.1 ∉ seen ∧ Admits allowed member ∧
      after = ⟨after.rest, .objectComma, stack⟩ ∧ MemberText raw (· = after.rest) text := by
  obtain ⟨raw, isMember, fresh, admits, between, isKey, isValue⟩ := scanMember_iff.mp scanned
  obtain ⟨space, afterKey, rfl, blank, isContent, rfl⟩ := token_key expects isKey
  obtain ⟨gap, lead, last, rfl, blankGap, blankLead, sound, rfl⟩ := token_scalar isValue
  exact ⟨raw, isMember, fresh, admits, rfl, space, gap, lead, last, rfl, blank, blankGap,
    blankLead, isContent, sound, rfl⟩

theorem scanMember_complete (stack : List TokenState) (expects : state = .objectStart ∨ state = .objectKey)
    {raw : RawMember} (isText : MemberText raw (· = rest) text) (stops : Stops rest)
    (fresh : raw.read.1 ∉ seen) (admits : Admits allowed raw.read) :
    scanMember allowed seen ⟨text, state, stack⟩ = .ok (raw.read, ⟨rest, .objectComma, stack⟩) := by
  obtain ⟨space, gap, lead, _, rfl, blank, blankGap, blankLead, isContent, sound, rfl⟩ := isText
  have isKey : ∀ after, tokenFrom stack state (0x22 :: (raw.1 ++ 0x22 :: after)) =
      some (.scalar (.string raw.1), ⟨after, .objectColon, stack⟩) := by
    intro after
    have scanned := scanString_content isContent after
    rcases expects with rfl | rfl
    · exact token_first stack isContent after
    · show (scanString _).map _ = _
      rw [scanned]
      rfl
  refine scanMember_iff.mpr ⟨raw, rfl, fresh, admits, _,
    (tokenFrom_blank blank).trans (isKey _), ?_⟩
  · show tokenFrom stack .objectColon _ = _
    rw [tokenFrom_blank blankGap]
    show tokenFrom stack .objectValue _ = _
    rw [tokenFrom_blank blankLead]
    exact token_value stack sound stops

theorem scanEnd_iff {members all : Members} : scanEnd members d = .ok all ↔
    all = members ∧ ∃ last, d.token = some (.delim 0x7D, last) ∧ Blank last.rest := by
  unfold scanEnd
  split
  · rename_i byte last found
    split
    · subst_vars
      simp only [bind_eq_ok, failIf_eq_ok, found, pure, Except.pure, Option.some.injEq,
        Prod.mk.injEq, Except.ok.injEq]
      grind [Decoder.atEnd, Blank]
    · simp_all
  · rename_i noDelim
    simp only [reduceCtorEq, false_iff, not_and, not_exists]
    rintro - last found
    exact absurd found (noDelim _ _)

/-- Where the decoder stands before a member. -/
def beforeMember (first : Bool) : TokenState := if first then .objectStart else .objectComma

/-- A member is scanned after what separates it from the one before. -/
theorem token_separator {first : Bool} {comma : Bytes} (isComma : Separator first comma)
    (stack : List TokenState) (text : Bytes) : ∃ next, (next = .objectStart ∨ next = .objectKey) ∧
      (Decoder.mk (comma ++ text) (beforeMember first) stack).token =
        (Decoder.mk text next stack).token := by
  cases first with
  | true =>
    obtain rfl : comma = [] := isComma
    exact ⟨.objectStart, .inl rfl, rfl⟩
  | false =>
    obtain ⟨space, rfl, blank⟩ : ∃ space, comma = space ++ [0x2C] ∧ Blank space := isComma
    refine ⟨.objectKey, .inr rfl, ?_⟩
    rw [List.append_assoc]
    exact tokenFrom_blank blank

theorem scanMember_congr {other : Decoder} (same : d.token = other.token) :
    scanMember allowed seen d = scanMember allowed seen other := by
  rw [scanMember, scanMember, same]

theorem exists_separator {first : Bool}
    (scanned : scanMember allowed seen ⟨text, beforeMember first, stack⟩ = .ok (member, after)) :
    ∃ comma body, text = comma ++ body ∧ Separator first comma := by
  cases first with
  | true => exact ⟨[], text, rfl, rfl⟩
  | false =>
    obtain ⟨raw, -, -, -, between, isKey, -⟩ := scanMember_iff.mp scanned
    obtain ⟨space, body, rfl, blank, -⟩ := token_comma isKey
    exact ⟨space ++ [0x2C], body, by simp, space, rfl, blank⟩

theorem more_blank {space more : Bytes} {byte : UInt8} (blank : Blank space)
    (notSpace : isSpace byte = false) : (Decoder.mk (space ++ byte :: more) state stack).more =
      (byte != 0x5D && byte != 0x7D) := by
  rw [Decoder.more, List.dropWhile_append_of_pos (List.all_eq_true.mp blank),
    List.dropWhile_cons_of_neg (Bool.eq_false_iff.mp notSpace)]
  rfl

/-- What follows a member is no part of a number. -/
theorem BodyText.stops {members : List RawMember} (isText : BodyText false members text) :
    Stops text := by
  have afterBlank : ∀ {space more : Bytes} {byte : UInt8}, Blank space →
      (byte = 0x2C ∨ byte = 0x7D) → Stops (space ++ byte :: more) := by
    intro space more byte blank isEnd first isFirst
    cases space with
    | nil =>
      obtain rfl := Option.some.inj isFirst
      rcases isEnd with rfl | rfl <;> decide
    | cons head space =>
      obtain rfl := Option.some.inj isFirst
      obtain ⟨isBlank, -⟩ := Bool.and_eq_true_iff.mp blank
      simp only [isSpace, Bool.or_eq_true, beq_iff_eq] at isBlank
      rcases isBlank with ((rfl | rfl) | rfl) | rfl <;> decide
  cases members with
  | nil =>
    obtain ⟨space, trail, rfl, blank, -⟩ := isText
    exact afterBlank blank (.inr rfl)
  | cons member members =>
    obtain ⟨comma, after, rfl, ⟨space, rfl, blank⟩, -⟩ := isText
    rw [List.append_assoc]
    exact afterBlank blank (.inl rfl)

theorem AdmittedMembers.append {before : Members} (admitted : AdmittedMembers allowed before)
    (fresh : member.1 ∉ before.map Prod.fst) (admits : Admits allowed member) :
    AdmittedMembers allowed (before ++ [member]) := by
  refine ⟨?_, ?_⟩
  · rw [List.map_append]
    exact List.nodup_append.mpr ⟨admitted.1, by simp, by grind⟩
  · grind [AdmittedMembers]

/-- The loop reads members of the grammar. -/
theorem scanMembers_sound {fuel : ℕ} {first : Bool} {before members all : Members}
    (scanned : scanMembers allowed fuel before ⟨text, beforeMember first, stack⟩ = .ok (members, d))
    (ended : scanEnd members d = .ok all) (admitted : AdmittedMembers allowed before) :
    ∃ raws, BodyText first raws text ∧ members = before ++ raws.map RawMember.read ∧
      AdmittedMembers allowed members := by
  induction fuel generalizing first before text with
  | zero => cases scanned
  | succ fuel ih =>
    rw [scanMembers] at scanned
    split at scanned
    · obtain ⟨⟨member, after⟩, isMember, scanned⟩ := bind_eq_ok.mp scanned
      obtain ⟨comma, body, rfl, isComma⟩ := exists_separator isMember
      obtain ⟨next, expects, same⟩ := token_separator isComma stack body
      rw [scanMember_congr same] at isMember
      obtain ⟨raw, rfl, fresh, admits, isAfter, isText⟩ := scanMember_sound expects isMember
      rw [isAfter] at scanned
      obtain ⟨raws, isRest, rfl, admittedAll⟩ :=
        @ih _ false _ scanned (admitted.append fresh admits)
      obtain ⟨space, gap, lead, rest, isBody, blank, blankGap, blankLead, isContent, sound, rfl⟩ :=
        isText
      refine ⟨raw :: raws, ⟨comma, body, rfl, isComma, space, gap, lead, _, isBody, blank,
        blankGap, blankLead, isContent, sound, isRest⟩, by simp, admittedAll⟩
    · -- the object ends here
      obtain ⟨rfl, rfl⟩ := Prod.mk.inj (Except.ok.inj scanned)
      obtain ⟨-, last, found, blank⟩ := scanEnd_iff.mp ended
      have expects : beforeMember first = .topValue ∨ beforeMember first = .objectStart ∨
          beforeMember first = .objectComma := by
        cases first <;> simp [beforeMember]
      obtain ⟨space, rfl, blankSpace⟩ := token_delim expects found
      exact ⟨[], ⟨space, last.rest, rfl, blankSpace, blank⟩, by simp, admitted⟩

/-- The members of the grammar are read by the loop. -/
theorem scanMembers_complete {fuel : ℕ} {first : Bool} {before : Members} {raws : List RawMember}
    (isText : BodyText first raws text) (enough : text.length < fuel)
    (admitted : AdmittedMembers allowed (before ++ raws.map RawMember.read)) :
    ∃ d, scanMembers allowed fuel before ⟨text, beforeMember first, [.topValue]⟩ =
      .ok (before ++ raws.map RawMember.read, d) ∧ ∀ members, scanEnd members d = .ok members := by
  induction raws generalizing fuel first before text with
  | nil =>
    obtain ⟨fuel, rfl⟩ := Nat.exists_eq_add_one_of_ne_zero (Nat.ne_of_gt (Nat.zero_lt_of_lt enough))
    obtain ⟨space, trail, rfl, blank, blankTrail⟩ := isText
    rw [scanMembers, more_blank blank (by decide), if_neg (by decide), List.map_nil,
      List.append_nil]
    refine ⟨_, rfl, fun members => scanEnd_iff.mpr ⟨rfl, ⟨trail, .topValue, []⟩, ?_, blankTrail⟩⟩
    refine (tokenFrom_blank blank).trans ?_
    cases first <;> rfl
  | cons raw raws ih =>
    obtain ⟨fuel, rfl⟩ := Nat.exists_eq_add_one_of_ne_zero (Nat.ne_of_gt (Nat.zero_lt_of_lt enough))
    obtain ⟨comma, body, rfl, isComma, isMember⟩ := isText
    obtain ⟨space, gap, lead, rest, isBody, blank, blankGap, blankLead, isContent, sound, isRest⟩ :=
      isMember
    have regrouped : before ++ (raw :: raws).map RawMember.read =
        (before ++ [raw.read]) ++ raws.map RawMember.read := by
      simp
    have fresh : raw.read.1 ∉ before.map Prod.fst := by
      have once := admitted.1
      rw [List.map_append, List.nodup_append] at once
      intro again
      exact once.2.2 _ again _ (by simp) rfl
    obtain ⟨next, expects, same⟩ := token_separator isComma [.topValue] body
    have scanned := scanMember_complete [.topValue] expects ⟨space, gap, lead, rest,
      isBody, blank, blankGap, blankLead, isContent, sound, rfl⟩ isRest.stops fresh
      (admitted.2 raw.read (by simp))
    have shorter := scanMember_shorter scanned
    have more : (Decoder.mk (comma ++ body) (beforeMember first) [.topValue]).more = true := by
      cases first with
      | true =>
        obtain rfl : comma = [] := isComma
        rw [List.nil_append, isBody]
        exact more_blank blank (by decide)
      | false =>
        obtain ⟨space, rfl, blankComma⟩ := isComma
        rw [List.append_assoc]
        exact more_blank blankComma (by decide)
    rw [scanMembers, more, if_pos rfl, scanMember_congr same, scanned, ok_bind, regrouped]
    refine ih isRest ?_ (regrouped ▸ admitted)
    grind

/-! ## Flat objects -/

theorem scanFlatObject_iff {data : Bytes} {members : Members} :
    scanFlatObject data allowed = .ok members ↔ ∃ raws, ObjectText raws data ∧
      members = raws.map RawMember.read ∧ AdmittedMembers allowed members := by
  constructor
  · intro scanned
    unfold scanFlatObject at scanned
    split at scanned
    · rename_i byte d found
      split at scanned
      · subst_vars
        obtain ⟨⟨all, last⟩, scanned, ended⟩ := bind_eq_ok.mp scanned
        obtain ⟨space, isData, blank⟩ := token_delim (.inl rfl) found
        change data = _ at isData
        have opened : d = ⟨d.rest, .objectStart, [.topValue]⟩ := by
          change tokenFrom [] .topValue data = _ at found
          rw [isData, tokenFrom_blank blank] at found
          exact (Prod.mk.inj (Option.some.inj found)).2.symm
        rw [opened] at scanned
        obtain ⟨rfl, -⟩ := scanEnd_iff.mp ended
        obtain ⟨raws, isBody, isMembers, admitted⟩ := @scanMembers_sound _ _ _ _ _
          true _ _ _ scanned ended ⟨List.nodup_nil, by simp⟩
        exact ⟨raws, ⟨space, d.rest, isData, blank, isBody⟩, isMembers, admitted⟩
      · cases scanned
    · cases scanned
  · rintro ⟨raws, ⟨space, body, rfl, blank, isBody⟩, rfl, admitted⟩
    obtain ⟨last, scanned, ended⟩ := @scanMembers_complete _ _ _ _ [] _
      isBody (Nat.lt_succ_self _) admitted
    have opened : (Decoder.mk (space ++ 0x7B :: body) .topValue []).token =
        some (.delim 0x7B, ⟨body, .objectStart, [.topValue]⟩) := tokenFrom_blank blank
    rw [scanFlatObject, opened]
    dsimp only
    rw [if_pos rfl]
    exact bind_eq_ok.mpr ⟨_, scanned, ended _⟩

end Loop

/-! ## Written objects -/

theorem bodyText_writeMembers {members : List RawMember}
    (sound : ∀ member ∈ members, Content member.1 ∧ member.2.Sound) :
    BodyText false members (writeMembers members) := by
  induction members with
  | nil => exact ⟨[], [], rfl, rfl, rfl⟩
  | cons member members ih =>
    obtain ⟨⟨isContent, isSound⟩, more⟩ := List.forall_mem_cons.mp sound
    refine ⟨[0x2C], writeMember member ++ writeMembers members, ?_, ⟨[], rfl, rfl⟩, [], [], [],
      writeMembers members, ?_, rfl, rfl, rfl, isContent, isSound, ih more⟩
    · rw [writeMembers_cons]
      rfl
    · simp [writeMember]

theorem objectText_writeObject {members : List RawMember}
    (sound : ∀ member ∈ members, Content member.1 ∧ member.2.Sound) :
    ObjectText members (writeObject members) := by
  cases members with
  | nil => exact ⟨[], [0x7D], rfl, rfl, [], [], rfl, rfl, rfl⟩
  | cons first members =>
    obtain ⟨⟨isContent, isSound⟩, more⟩ := List.forall_mem_cons.mp sound
    refine ⟨[], _, rfl, rfl, [], _, rfl, rfl, [], [], [], writeMembers members, ?_, rfl, rfl, rfl,
      isContent, isSound, bodyText_writeMembers more⟩
    simp

/-- **Written objects are scanned.** -/
theorem scanFlatObject_writeObject {allowed : Allowed} {members : Members}
    (fits : Fits allowed members) : scanFlatObject (writeObject members) allowed = .ok members := by
  have sound : ∀ member ∈ members, Content member.1 ∧ member.2.Sound := fun member isMember =>
    ⟨content_plain (fits.member member isMember).plainKey,
      (fits.member member isMember).written.sound⟩
  have readBack : members.map RawMember.read = members := by
    refine (List.map_congr_left fun member isMember => ?_).trans (List.map_id members)
    exact Prod.ext (unquote_plain (fits.member member isMember).plainKey) rfl
  refine scanFlatObject_iff.mpr ⟨members, objectText_writeObject sound, readBack.symm,
    fits.once, fun member isMember => (fits.member member isMember).bounded⟩

/-! ## The language -/

theorem length_le_rawURLEncode (data : Bytes) : data.length ≤ (rawURLEncode data).length := by
  fun_induction rawURLEncode data with
  | case4 a b c rest ih =>
    simp only [List.length_cons]
    omega
  | _ => simp

theorem decodeCanonicalRawBase64URL_encode {data : Bytes} (present : data ≠ []) :
    decodeCanonicalRawBase64URL (rawURLEncode data) = .ok data := by
  have noSpace : containsAny (rawURLEncode data) [0x0D, 0x0A, 0x09, 0x20] = false := by
    simp only [containsAny, List.any_eq_false]
    intro byte member isSpace
    have plain := rawURLEncode_plain member
    grind
  have noPadding : 0x3D ∉ rawURLEncode data := fun padded =>
    rawURLEncode_plain padded (by decide)
  rw [decodeCanonicalRawBase64URL, failIf_of_not (rawURLEncode_ne_nil present), ok_bind,
    failIf_of_not (by simp [noSpace]), ok_bind, failIf_of_not (by simpa using noPadding), ok_bind,
    rawURLDecode_encode]
  dsimp only
  rw [failIf_of_not (by simp)]
  rfl

/-- A bounded text is decoded to its bytes. -/
theorem decodeStrict_of_short {data : Bytes} (present : data ≠ [])
    (short : (rawURLEncode data).length ≤ maxBytes) :
    decodeStrict (rawURLEncode data) = .ok data := by
  have shorter := (length_le_rawURLEncode data).trans short
  rw [decodeStrict, failIf_of_not (Nat.not_lt.mpr short), ok_bind,
    decodeCanonicalRawBase64URL_encode present]
  dsimp only
  rw [failIf_of_not (Nat.not_lt.mpr shorter)]
  rfl

theorem decodeStrict_iff {encoded : GoString} {data : Bytes} (present : data ≠ []) :
    decodeStrict encoded = .ok data ↔ encoded.length ≤ maxBytes ∧ encoded = rawURLEncode data := by
  constructor
  · intro decoded
    simp only [decodeStrict, bind_eq_ok, failIf_eq_ok, Nat.not_lt] at decoded
    obtain ⟨-, short, decoded⟩ := decoded
    split at decoded
    · cases decoded
    · rename_i canonical
      simp only [bind_eq_ok] at decoded
      obtain ⟨-, -, same⟩ := decoded
      obtain rfl := Except.ok.inj same
      exact ⟨short, (decodeCanonicalRawBase64URL_eq_ok canonical).symm⟩
  · rintro ⟨short, rfl⟩
    exact decodeStrict_of_short present short

/-- **The strict decoder accepts exactly its language**, and no two texts are decoded to the
same bytes. -/
theorem decodeStrictJSON_accepts (allowed : Allowed) :
    (∀ encoded data, decodeStrictJSON encoded allowed = .ok data ↔
      encoded.length ≤ 48 * 1024 ∧ encoded = rawURLEncode data ∧ ∃ members,
        ObjectText members data ∧ AdmittedMembers allowed (members.map RawMember.read)) ∧
    ∀ encoded other data, decodeStrictJSON encoded allowed = .ok data →
      decodeStrictJSON other allowed = .ok data → encoded = other := by
  have accepts : ∀ encoded data, decodeStrictJSON encoded allowed = .ok data ↔
      encoded.length ≤ 48 * 1024 ∧ encoded = rawURLEncode data ∧ ∃ members,
        ObjectText members data ∧ AdmittedMembers allowed (members.map RawMember.read) := by
    intro encoded data
    -- the text of an object is not empty
    have present : ∀ {members}, ObjectText members data → data ≠ [] := by
      rintro members ⟨space, body, rfl, -, -⟩
      simp
    constructor
    · intro decoded
      obtain ⟨_, isData, decoded⟩ := bind_eq_ok.mp decoded
      obtain ⟨members, scanned, same⟩ := bind_eq_ok.mp decoded
      obtain rfl := Except.ok.inj same
      obtain ⟨raws, isObject, rfl, admitted⟩ := scanFlatObject_iff.mp scanned
      obtain ⟨short, isText⟩ := (decodeStrict_iff (present isObject)).mp isData
      exact ⟨short, isText, raws, isObject, admitted⟩
    · rintro ⟨short, isText, raws, isObject, admitted⟩
      have isData := (decodeStrict_iff (present isObject)).mpr ⟨short, isText⟩
      have scanned := scanFlatObject_iff.mpr ⟨raws, isObject, rfl, admitted⟩
      rw [decodeStrictJSON, isData, ok_bind, scanned]
      rfl
  refine ⟨accepts, ?_⟩
  intro encoded other data isFirst isSecond
  obtain ⟨-, rfl, -⟩ := (accepts encoded data).mp isFirst
  obtain ⟨-, rfl, -⟩ := (accepts other data).mp isSecond
  rfl

end Tubo
