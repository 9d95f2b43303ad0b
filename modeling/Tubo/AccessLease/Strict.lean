import Tubo.AccessLease.Sign
import Tubo.Go.JsonStream
import Tubo.Go.TimeParse

/-!
# The strict decoder

Package `internal/accesslease`, file `strict.go`: `scanFlatObject` accepts a flat
object whose members are all allowed, within their bounds, and occur once.  After it
`json.Unmarshal` reads the same text again; the model keeps the scanned members and
reads the fields of a credential from them.
-/

namespace Tubo

open Json

/-- An allow-list: the names of the members, with the bounds on their strings. -/
abbrev Allowed := List (GoString × ℕ)

/-- The members of a flat object, in their order. -/
abbrev Members := List (GoString × Scalar)

/-! ## Scanning -/

/-- The string of a scalar. -/
def Json.Scalar.text? : Scalar → Option GoString
  | .string content => some (unquote content)
  | _ => none

/-- The value of a member in `scanFlatObject`. -/
def scanValue (key : GoString) (max : ℕ) (d : Decoder) : Except GoError (Scalar × Decoder) :=
  match d.token with
  | none => .error errStrict
  | some (.delim _, _) => .error (.new (str "accesslease: nested value for " ++ key))
  | some (.scalar value, d) => do
      failIf (value.text?.any (fun text => decide (max < text.length)))
        (.new (str "accesslease: field " ++ key ++ str " exceeds bound"))
      return (value, d)

/-- One round of the loop of `scanFlatObject`. -/
def scanMember (allowed : Allowed) (seen : List GoString) (d : Decoder) :
    Except GoError ((GoString × Scalar) × Decoder) :=
  match d.token with
  | some (.scalar (.string content), d) => do
      let key := unquote content
      failIf (key ∈ seen) (.new (str "accesslease: duplicate key " ++ key))
      match allowed.lookup key with
      | none => .error (.new (str "accesslease: unknown field " ++ key))
      | some max => do
          let (value, d) ← scanValue key max d
          return ((key, value), d)
  | _ => .error errStrict

/-- The loop of `scanFlatObject`. -/
def scanMembers (allowed : Allowed) : ℕ → Members → Decoder → Except GoError (Members × Decoder)
  | 0, _, _ => .error errStrict
  | fuel + 1, members, d =>
    if d.more then do
      let (member, d) ← scanMember allowed (members.map Prod.fst) d
      scanMembers allowed fuel (members ++ [member]) d
    else return (members, d)

/-- The end of `scanFlatObject`. -/
def scanEnd (members : Members) (d : Decoder) : Except GoError Members :=
  match d.token with
  | some (.delim byte, d) =>
    if byte = 0x7D then do
      failIf (d.atEnd = false) (errorsNew "accesslease: trailing payload")
      return members
    else .error errStrict
  | _ => .error errStrict

/-- `scanFlatObject`; every round takes part of the text. -/
def scanFlatObject (data : Bytes) (allowed : Allowed) : Except GoError Members :=
  match (Decoder.mk data .topValue []).token with
  | some (.delim byte, d) =>
    if byte = 0x7B then do
      let (members, d) ← scanMembers allowed (d.rest.length + 1) [] d
      scanEnd members d
    else .error errStrict
  | _ => .error errStrict

/-! ## Fields -/

/-- A string field. -/
def Members.text (members : Members) (key : String) : Except GoError GoString :=
  match members.lookup (str key) with
  | none | some .null => .ok []
  | some (.string content) => .ok (unquote content)
  | some _ => .error errStrict

/-- An `int` field. -/
def Members.int (members : Members) (key : String) : Except GoError ℤ :=
  match members.lookup (str key) with
  | none | some .null => .ok 0
  | some (.number literal) => (parseInt literal).elim (.error errStrict) .ok
  | some _ => .error errStrict

/-- A `uint64` field. -/
def Members.uint (members : Members) (key : String) : Except GoError ℕ :=
  match members.lookup (str key) with
  | none | some .null => .ok 0
  | some (.number literal) => (parseUint literal).elim (.error errStrict) .ok
  | some _ => .error errStrict

/-- A Boolean field. -/
def Members.bool (members : Members) (key : String) : Except GoError Bool :=
  match members.lookup (str key) with
  | none | some .null => .ok false
  | some (.bool value) => .ok value
  | some _ => .error errStrict

/-- A time; `parse` is the general `time.Parse`.  The text is not unquoted. -/
def Members.time (members : Members) (parse : Bytes → Option Time) (key : String) :
    Except GoError Time :=
  match members.lookup (str key) with
  | none | some .null => .ok .zero
  | some (.string content) =>
    (Time.unmarshalText parse content).elim (.error errStrict) .ok
  | some _ => .error errStrict

/-! ## Written members -/

/-- A member that an allow-list admits. -/
structure FitsMember (allowed : Allowed) (member : GoString × Scalar) : Prop where
  plainKey : member.1.all plainByte = true
  written : member.2.Written
  bounded : ∃ max, allowed.lookup member.1 = some max ∧
    ∀ text, member.2.text? = some text → text.length ≤ max

/-- Members that an allow-list admits, none of them twice. -/
structure Fits (allowed : Allowed) (members : Members) : Prop where
  member : ∀ member ∈ members, FitsMember allowed member
  once : (members.map Prod.fst).Nodup

theorem ValidUTF8.of_plain {text : GoString} (plain : text.all plainByte = true) :
    ValidUTF8 text := by
  refine .of_ascii fun byte member => ?_
  grind [plainByte]

theorem unquote_plain {text : GoString} (plain : text.all plainByte = true) :
    unquote text = text := by
  have read := unquote_escape (ValidUTF8.of_plain plain)
  rwa [escape_plain plain] at read

theorem content_plain {text : GoString} (plain : text.all plainByte = true) : Content text := by
  have isContent := escape_content (ValidUTF8.of_plain plain)
  rwa [escape_plain plain] at isContent

end Tubo
