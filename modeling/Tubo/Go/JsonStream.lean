import Tubo.Go.Json

/-!
# Package `encoding/json`: tokens and flat objects

`Decoder.Token` and `Decoder.More`, on a text that has been read as a whole, and the
text of an object of scalars, as `json.Marshal` writes it for a struct.  An error of
the decoder has no further content here, because its callers drop it.

* `token_shorter` — a token takes part of the text.
* `token_first`, `token_value` — the tokens of a written member.
* `writeObject_inj` — an object determines its members.
-/

namespace Tubo.Json

/-! ## The decoder -/

/-- White space between tokens. -/
def isSpace (byte : UInt8) : Bool :=
  byte == 0x20 || byte == 0x09 || byte == 0x0D || byte == 0x0A

/-- `tokenState`. -/
inductive TokenState
  | topValue
  | arrayStart
  | arrayValue
  | arrayComma
  | objectStart
  | objectKey
  | objectColon
  | objectValue
  | objectComma
  deriving DecidableEq, Repr

namespace TokenState

/-- `tokenValueAllowed`. -/
def valueAllowed : TokenState → Bool
  | topValue | arrayStart | arrayValue | objectValue => true
  | _ => false

/-- `tokenValueEnd`. -/
def valueEnd : TokenState → TokenState
  | arrayStart | arrayValue => arrayComma
  | objectValue => objectComma
  | state => state

end TokenState

/-- A `Token`: a bracket, or a scalar that is not yet converted. -/
inductive Token
  | delim (byte : UInt8)
  | scalar (value : Scalar)
  deriving DecidableEq, Repr

/-- A `Decoder`: what is left of the text, and where it stands in it. -/
structure Decoder where
  rest : Bytes
  state : TokenState := .topValue
  stack : List TokenState := []
  deriving DecidableEq, Repr

/-- A closing bracket: the state before the opening one comes back. -/
def closing (byte : UInt8) (stack : List TokenState) (rest : Bytes) : Option (Token × Decoder) :=
  match stack with
  | [] => none
  | outer :: stack => some (.delim byte, ⟨rest, outer.valueEnd, stack⟩)

/-- The loop of `Token`. -/
def tokenFrom (stack : List TokenState) : TokenState → Bytes → Option (Token × Decoder)
  | _, [] => none
  | state, byte :: rest =>
    if isSpace byte then tokenFrom stack state rest
    else if byte = 0x5B then
      if state.valueAllowed then
        some (.delim byte, ⟨rest, .arrayStart, state :: stack⟩)
      else none
    else if byte = 0x5D then
      if state = .arrayStart ∨ state = .arrayComma then closing byte stack rest
      else none
    else if byte = 0x7B then
      if state.valueAllowed then
        some (.delim byte, ⟨rest, .objectStart, state :: stack⟩)
      else none
    else if byte = 0x7D then
      if state = .objectStart ∨ state = .objectComma then closing byte stack rest
      else none
    else if byte = 0x3A then
      if state = .objectColon then tokenFrom stack .objectValue rest else none
    else if byte = 0x2C then
      if state = .arrayComma then tokenFrom stack .arrayValue rest
      else if state = .objectComma then tokenFrom stack .objectKey rest
      else none
    else if byte = 0x22 ∧ (state = .objectStart ∨ state = .objectKey) then
      (scanString rest).map fun (content, after) =>
        (.scalar (.string content), ⟨after, .objectColon, stack⟩)
    else if state.valueAllowed then
      (readScalar (byte :: rest)).map fun (value, after) =>
        (.scalar value, ⟨after, state.valueEnd, stack⟩)
    else none

namespace Decoder

/-- `Token`. -/
def token (d : Decoder) : Option (Token × Decoder) :=
  tokenFrom d.stack d.state d.rest

/-- `More`. -/
def more (d : Decoder) : Bool :=
  (d.rest.dropWhile isSpace).head?.any fun byte => byte != 0x5D && byte != 0x7D

/-- `Decode` of a further value reports `io.EOF`. -/
def atEnd (d : Decoder) : Bool := d.rest.all isSpace

end Decoder

/-! ## Tokens take part of the text -/

theorem closing_shorter {byte : UInt8} {stack : List TokenState} {rest : Bytes}
    {token : Token} {after : Decoder}
    (found : closing byte stack rest = some (token, after)) : after.rest = rest := by
  cases stack with
  | nil => cases found
  | cons outer stack =>
    obtain ⟨-, rfl⟩ := Prod.mk.inj (Option.some.inj found)
    rfl

theorem tokenFrom_shorter {stack : List TokenState} {state : TokenState} {text : Bytes}
    {token : Token} {after : Decoder} (found : tokenFrom stack state text = some (token, after)) :
    after.rest.length < text.length := by
  induction text generalizing state with
  | nil => cases found
  | cons byte rest ih =>
    have later : ∀ {next}, tokenFrom stack next rest = some (token, after) →
        after.rest.length < (byte :: rest).length := fun continued =>
      (ih continued).trans (Nat.lt_succ_self _)
    have opened : ∀ {allowed : Bool} {next : TokenState},
        (if allowed then some (Token.delim byte, Decoder.mk rest next (state :: stack))
          else none) = some (token, after) →
        after.rest.length < (byte :: rest).length := by
      grind
    have closed : ∀ {p : Prop} [Decidable p],
        (if p then closing byte stack rest else none) = some (token, after) →
        after.rest.length < (byte :: rest).length := by
      grind [closing_shorter]
    rw [tokenFrom] at found
    by_cases space : isSpace byte = true
    · rw [if_pos space] at found
      exact later found
    rw [if_neg space] at found
    by_cases array : byte = 0x5B
    · rw [if_pos array] at found
      exact opened found
    rw [if_neg array] at found
    by_cases arrayEnd : byte = 0x5D
    · rw [if_pos arrayEnd] at found
      exact closed found
    rw [if_neg arrayEnd] at found
    by_cases object : byte = 0x7B
    · rw [if_pos object] at found
      exact opened found
    rw [if_neg object] at found
    by_cases objectEnd : byte = 0x7D
    · rw [if_pos objectEnd] at found
      exact closed found
    rw [if_neg objectEnd] at found
    by_cases colon : byte = 0x3A
    · grind
    rw [if_neg colon] at found
    by_cases comma : byte = 0x2C
    · grind
    rw [if_neg comma] at found
    split at found
    · obtain ⟨⟨content, last⟩, scanned, same⟩ := Option.map_eq_some_iff.mp found
      obtain ⟨-, rfl⟩ := Prod.mk.inj same
      rw [(scanString_sound scanned).1, List.length_cons, List.length_append, List.length_cons]
      show last.length < _
      omega
    split at found
    · obtain ⟨⟨value, last⟩, read, same⟩ := Option.map_eq_some_iff.mp found
      obtain ⟨-, rfl⟩ := Prod.mk.inj same
      exact readScalar_shorter read
    · cases found

theorem token_shorter {d after : Decoder} {token : Token}
    (found : d.token = some (token, after)) : after.rest.length < d.rest.length :=
  tokenFrom_shorter found

/-! ## Objects -/

/-- The text of one member; its key is a content. -/
def writeMember (member : Bytes × Scalar) : Bytes :=
  0x22 :: (member.1 ++ 0x22 :: 0x3A :: member.2.write)

/-- The members after the first one, and the end of the object. -/
def writeMembers (members : List (Bytes × Scalar)) : Bytes :=
  members.flatMap (fun member => 0x2C :: writeMember member) ++ [0x7D]

/-- The text of an object. -/
def writeObject : List (Bytes × Scalar) → Bytes
  | [] => [0x7B, 0x7D]
  | first :: members => 0x7B :: (writeMember first ++ writeMembers members)

theorem writeMembers_cons (member : Bytes × Scalar) (members : List (Bytes × Scalar)) :
    writeMembers (member :: members) = 0x2C :: (writeMember member ++ writeMembers members) := by
  simp [writeMembers]

/-- What follows a value is no part of a number. -/
theorem stops_writeMembers (members : List (Bytes × Scalar)) (rest : Bytes) :
    Stops (writeMembers members ++ rest) := by
  have comma : isDigit 0x2C = false ∧ (0x2C : UInt8) ≠ 0x2E ∧ (0x2C : UInt8) ≠ 0x65 ∧
    (0x2C : UInt8) ≠ 0x45 := by decide
  have brace : isDigit 0x7D = false ∧ (0x7D : UInt8) ≠ 0x2E ∧ (0x7D : UInt8) ≠ 0x65 ∧
    (0x7D : UInt8) ≠ 0x45 := by decide
  intro byte isFirst
  cases members with
  | nil =>
    obtain rfl := Option.some.inj isFirst
    exact brace
  | cons member members =>
    obtain rfl := Option.some.inj isFirst
    exact comma

section Tokens

variable {key : Bytes} (stack : List TokenState)

theorem token_first (isContent : Content key) (rest : Bytes) :
    (Decoder.mk (0x22 :: (key ++ 0x22 :: rest)) .objectStart stack).token =
      some (.scalar (.string key), ⟨rest, .objectColon, stack⟩) := by
  have scanned := scanString_content isContent rest
  show (scanString (key ++ 0x22 :: rest)).map _ = _
  rw [scanned]
  rfl

/-- The text of a scalar does not begin like anything else. -/
theorem write_head {scalar : Scalar} (sound : scalar.Sound) :
    ∃ byte rest, scalar.write = byte :: rest ∧ isSpace byte = false ∧
      byte ∉ ([0x5B, 0x5D, 0x7B, 0x7D, 0x3A, 0x2C] : Bytes) := by
  cases scalar with
  | string content => exact ⟨_, _, rfl, by decide, by decide⟩
  | number literal =>
    obtain ⟨first, more, rfl, rfl | isDigit⟩ := sound.1.first
    · exact ⟨_, _, rfl, by decide, by decide⟩
    · refine ⟨first, more, rfl, ?_, ?_⟩
      · rw [Bool.eq_false_iff]
        intro space
        simp only [isSpace, Bool.or_eq_true, beq_iff_eq] at space
        rcases space with ((rfl | rfl) | rfl) | rfl <;> exact absurd isDigit (by decide)
      · simp only [List.mem_cons, List.not_mem_nil, or_false]
        rintro (rfl | rfl | rfl | rfl | rfl | rfl) <;> exact absurd isDigit (by decide)
  | bool value => cases value <;> exact ⟨_, _, rfl, by decide, by decide⟩
  | null => exact ⟨_, _, rfl, by decide, by decide⟩

theorem token_value {scalar : Scalar} (sound : scalar.Sound) {rest : Bytes} (stops : Stops rest) :
    (Decoder.mk (0x3A :: (scalar.write ++ rest)) .objectColon stack).token =
      some (.scalar scalar, ⟨rest, .objectComma, stack⟩) := by
  have read := readScalar_complete sound stops
  obtain ⟨byte, more, isFirst, notSpace, notDelimiter⟩ := write_head sound
  simp only [List.mem_cons, List.not_mem_nil, or_false, not_or] at notDelimiter
  obtain ⟨noArray, noArrayEnd, noObject, noObjectEnd, noColon, noComma⟩ := notDelimiter
  show tokenFrom stack .objectValue (scalar.write ++ rest) = _
  rw [isFirst, List.cons_append] at read ⊢
  rw [tokenFrom, notSpace, if_neg Bool.false_ne_true, if_neg noArray, if_neg noArrayEnd,
    if_neg noObject, if_neg noObjectEnd, if_neg noColon, if_neg noComma,
    if_neg (by simp), if_pos (show TokenState.objectValue.valueAllowed = true from rfl), read]
  rfl

end Tokens

/-! ## Objects determine their members -/

/-- A member whose text is read back. -/
structure WrittenMember (member : Bytes × Scalar) : Prop where
  key : Content member.1
  value : member.2.Written

/-- The text of a member and what follows it determine both. -/
theorem writeMember_inj {first second : Bytes × Scalar} {rest other : Bytes}
    (isFirst : WrittenMember first) (isSecond : WrittenMember second)
    (stopsRest : Stops rest) (stopsOther : Stops other)
    (same : writeMember first ++ rest = writeMember second ++ other) :
    first = second ∧ rest = other := by
  have texts : ∀ (member : Bytes × Scalar) (more : Bytes), writeMember member ++ more =
      0x22 :: (member.1 ++ 0x22 :: 0x3A :: (member.2.write ++ more)) := by
    intro member more
    simp [writeMember]
  rw [texts, texts] at same
  -- both are what the decoder reads from one text
  have keys := token_first [] isFirst.key (0x3A :: (first.2.write ++ rest))
  rw [same, token_first [] isSecond.key] at keys
  have values := token_value [] isFirst.value.sound stopsRest
  have others := token_value [] isSecond.value.sound stopsOther
  grind

theorem writeMembers_inj {members others : List (Bytes × Scalar)}
    (written : ∀ member ∈ members, WrittenMember member)
    (writtenToo : ∀ member ∈ others, WrittenMember member)
    (same : writeMembers members = writeMembers others) : members = others := by
  have stops : ∀ members, Stops (writeMembers members) := by
    intro members
    have stop := stops_writeMembers members []
    rwa [List.append_nil] at stop
  induction members generalizing others with
  | nil =>
    cases others with
    | nil => rfl
    | cons other others =>
      exact absurd (List.cons.inj same).1 (by decide)
  | cons member members ih =>
    cases others with
    | nil =>
      exact absurd (List.cons.inj same).1 (by decide)
    | cons other others =>
      rw [List.forall_mem_cons] at written writtenToo
      grind [writeMembers_cons, writeMember_inj]

/-- **Objects determine their members.** -/
theorem writeObject_inj {members others : List (Bytes × Scalar)} (present : members ≠ [])
    (presentToo : others ≠ []) (written : ∀ member ∈ members, WrittenMember member)
    (writtenToo : ∀ member ∈ others, WrittenMember member)
    (same : writeObject members = writeObject others) : members = others := by
  obtain ⟨first, members, rfl⟩ := List.exists_cons_of_ne_nil present
  obtain ⟨other, others, rfl⟩ := List.exists_cons_of_ne_nil presentToo
  refine writeMembers_inj written writtenToo ?_
  rw [writeMembers_cons, writeMembers_cons]
  exact congrArg (0x2C :: ·) (List.cons.inj same).2

end Tubo.Json
