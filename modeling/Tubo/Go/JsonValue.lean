import Tubo.Go.Binary
import Tubo.Go.JsonStream

/-!
# Package `encoding/json`: values of a stream

`Decoder.Decode` on a text that has been read as a whole.  The scanner takes the first value of
the text and stays behind it, whatever follows.  A struct takes an object, or `null`, which leaves
it as it is; with `DisallowUnknownFields` every member has to be one of its fields.
-/

namespace Tubo.Json

/-- A value; strings and numbers are kept as they stand in the text. -/
inductive Value
  | scalar (value : Scalar)
  | array (items : List Value)
  | object (members : List (Bytes × Value))

/-! ## The scanner -/

/-- A scalar; a number is not converted. -/
def scanScalar (text : Bytes) : Option (Scalar × Bytes) :=
  match scanNumber text with
  | some (literal, after) => some (.number literal, after)
  | none => readScalar text

section Groups

variable {α : Type} (close : UInt8) (item : Bytes → Option (α × Bytes))

/-- One or more items with commas between them, up to the closing bracket. -/
def readList : ℕ → Bytes → Option (List α × Bytes)
  | 0, _ => none
  | n + 1, text => do
    let (first, text) ← item text
    match text.dropWhile isSpace with
    | byte :: rest =>
      if byte = close then some ([first], rest)
      else if byte = 0x2C then
        (readList n rest).map fun (more, after) => (first :: more, after)
      else none
    | [] => none

/-- What follows an opening bracket; every item takes part of the text. -/
def readGroup (text : Bytes) : Option (List α × Bytes) :=
  match text.dropWhile isSpace with
  | byte :: rest =>
    if byte = close then some ([], rest)
    else readList close item (text.length + 1) (byte :: rest)
  | [] => none

end Groups

/-- A member: its name, a colon and its value. -/
def readMember (value : Bytes → Option (Value × Bytes)) (text : Bytes) :
    Option ((Bytes × Value) × Bytes) :=
  match text.dropWhile isSpace with
  | 0x22 :: rest => do
    let (key, rest) ← scanString rest
    match rest.dropWhile isSpace with
    | 0x3A :: rest => (value rest).map fun (v, after) => ((key, v), after)
    | _ => none
  | _ => none

/-- `maxNestingDepth`. -/
def maxNestingDepth : ℕ := 10000

/-- A value whose brackets are nested at most so deep, and what follows it. -/
def readValue : ℕ → Bytes → Option (Value × Bytes)
  | 0, text => (scanScalar (text.dropWhile isSpace)).map fun (s, after) => (.scalar s, after)
  | depth + 1, text =>
    match text.dropWhile isSpace with
    | 0x7B :: rest =>
      (readGroup 0x7D (readMember (readValue depth)) rest).map fun (members, after) =>
        (.object members, after)
    | 0x5B :: rest =>
      (readGroup 0x5D (readValue depth) rest).map fun (items, after) => (.array items, after)
    | text => (scanScalar text).map fun (s, after) => (.scalar s, after)

/-- What `readValue` of the decoder finds: white space only, no value, or a value and the text
behind it. -/
inductive Next
  | eof
  | failed
  | value (first : Value) (rest : Bytes)

def next (text : Bytes) : Next :=
  if text.all isSpace then .eof
  else
    match readValue maxNestingDepth text with
    | some (first, rest) => .value first rest
    | none => .failed

/-! ## Structs -/

/-- A struct type: its zero value, the field that a name stands for, and the conversion of the
fields of an object, which may fail. -/
structure StructType (α : Type) where
  zero : α
  field : GoString → Option GoString
  convert : List (GoString × Value) → Except GoError α

/-- `struct{}`. -/
def emptyStruct : StructType Unit := ⟨(), fun _ => none, fun _ => .ok ()⟩

namespace StructType

variable {α : Type} (type : StructType α)

/-- The fields of the members, if all of them are fields. -/
def fields (members : List (Bytes × Value)) : Option (List (GoString × Value)) :=
  members.mapM fun (key, value) => (type.field (unquote key)).map (·, value)

/-- `unmarshal` with `DisallowUnknownFields`. -/
def unmarshal : Value → Except GoError α
  | .scalar .null => .ok type.zero
  | .object members =>
    match type.fields members with
    | some fields => type.convert fields
    | none => .error (errorsNew "json: unknown field")
  | _ => .error (errorsNew "json: cannot unmarshal")

/-- `Decode`: the value, and what is left of the text. -/
def decode (text : Bytes) : Except GoError (α × Bytes) :=
  match next text with
  | .eof => .error ioEOF
  | .failed => .error (errorsNew "json: invalid character")
  | .value first rest => (type.unmarshal first).map (·, rest)

end StructType

end Tubo.Json
