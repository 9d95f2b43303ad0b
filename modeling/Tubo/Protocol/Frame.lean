import Tubo.Go.Binary
import Tubo.Go.Time

/-!
# Frames

Package `internal/protocol`, `frame.go`: messages as JSON with a length in front, over a
transport that returns the bytes in pieces of any size.

* `frames_lossless` — what is written is read again, each message with its own frame, however the
  transport splits the bytes; and what a `ReadFrame` has consumed of any stream.
-/

namespace Tubo

/-- `MaxFrame`. -/
def maxFrame : ℕ := 64 * 1024

/-- JSON of a message type: `json.Marshal`, and the decoder of `ReadFrame` on the bytes of a
frame, which rejects unknown members and trailing data.  What is written is read again, and
there is no message in an empty text. -/
structure MessageType (α : Type) where
  marshal : α → Except GoError Bytes
  unmarshal : Bytes → Except GoError α
  unmarshal_marshal : ∀ message data, marshal message = .ok data → unmarshal data = .ok message
  unmarshal_nil : ∀ message, unmarshal [] ≠ .ok message

/-! ## The transport -/

/-- The results of the reads to come, if the buffer is large enough for them. -/
abbrev Transport := List Bytes

/-- The loop of `io.ReadFull`: `got` is in the buffer, which has room for `n` more bytes. -/
def readMore (got : Bytes) (n : ℕ) : Transport → Except GoError Bytes × Transport
  | [] => if n = 0 then (.ok got, []) else (.error (if got = [] then ioEOF else ioUnexpectedEOF), [])
  | chunk :: rest =>
    if n = 0 then (.ok got, chunk :: rest)
    else if chunk.length ≤ n then readMore (got ++ chunk) (n - chunk.length) rest
    else (.ok (got ++ chunk.take n), chunk.drop n :: rest)

/-- `io.ReadFull`. -/
def readFull (n : ℕ) (transport : Transport) : Except GoError Bytes × Transport :=
  readMore [] n transport

variable {data : Bytes} {n : ℕ} {transport : Transport}

theorem readMore_eq_ok {got : Bytes} {later : Transport}
    (read : readMore got n transport = (.ok data, later)) :
    ∃ more, data = got ++ more ∧ more.length = n ∧ transport.flatten = more ++ later.flatten := by
  induction transport generalizing got n with
  | nil =>
    unfold readMore at read
    split at read
    · rename_i none
      cases read
      exact ⟨[], by simp, by simp [none], rfl⟩
    · cases read
  | cons chunk rest ih =>
    unfold readMore at read
    split at read
    · rename_i none
      cases read
      exact ⟨[], by simp, by simp [none], rfl⟩
    · split at read
      · grind
      · cases read
        exact ⟨chunk.take n, rfl, by rw [List.length_take]; omega, by simp [← List.append_assoc]⟩

theorem readMore_of_append {got more after : Bytes} (bytes : transport.flatten = more ++ after) :
    ∃ later, readMore got more.length transport = (.ok (got ++ more), later) ∧
      later.flatten = after := by
  induction transport generalizing got more with
  | nil =>
    obtain ⟨rfl, rfl⟩ := List.append_eq_nil_iff.mp bytes.symm
    exact ⟨[], by simp [readMore], rfl⟩
  | cons chunk rest ih =>
    rw [List.flatten_cons] at bytes
    unfold readMore
    split
    · grind
    · split
      · rename_i fits
        obtain ⟨more, rfl⟩ := (List.prefix_of_prefix_length_le ⟨_, bytes⟩ ⟨_, rfl⟩ fits)
        rw [List.append_assoc, List.append_cancel_left_eq] at bytes
        obtain ⟨later, read, isAfter⟩ := @ih (got ++ chunk) more bytes
        grind
      · rename_i large
        obtain ⟨tail, rfl⟩ := List.prefix_of_prefix_length_le ⟨_, rfl⟩ ⟨_, bytes⟩ (by omega)
        grind [List.append_cancel_left_eq]

theorem readFull_eq_ok {later : Transport} (read : readFull n transport = (.ok data, later)) :
    data.length = n ∧ transport.flatten = data ++ later.flatten := by
  obtain ⟨more, rfl, size, bytes⟩ := readMore_eq_ok read
  exact ⟨size, bytes⟩

theorem readFull_of_append {after : Bytes}
    (size : data.length = n) (bytes : transport.flatten = data ++ after) :
    ∃ later, readFull n transport = (.ok data, later) ∧ later.flatten = after := by
  subst size
  exact readMore_of_append bytes

/-! ## Frames -/

section Frames

variable {α : Type} (type : MessageType α)

/-- `WriteFrame`: the bytes that are written. -/
def writeFrame (message : α) : Except GoError Bytes := do
  let data ← type.marshal message
  failIf (maxFrame < data.length) (errorsNew "frame exceeds 64 KiB")
  return bigEndian 4 data.length ++ data

/-- The announced size is not allowed. -/
def badSize (n : ℕ) : Prop := n = 0 ∨ maxFrame < n

instance : DecidablePred badSize := fun _ => inferInstanceAs (Decidable (_ ∨ _))

/-- `ReadFrame`. -/
def readFrame (transport : Transport) : Except GoError α × Transport :=
  match readFull 4 transport with
  | (.error error, later) => (.error error, later)
  | (.ok size, later) =>
    if badSize (bigEndianValue size) then
      (.error (.new (str "invalid frame size " ++ itoa (bigEndianValue size))), later)
    else
      match readFull (bigEndianValue size) later with
      | (.error error, later) => (.error error, later)
      | (.ok data, later) => (type.unmarshal data, later)

variable {type}

/-- A frame is read again, and nothing behind it. -/
theorem readFrame_writeFrame {message : α} {frame after : Bytes} {transport : Transport}
    (written : writeFrame type message = .ok frame) (bytes : transport.flatten = frame ++ after) :
    ∃ later, readFrame type transport = (.ok message, later) ∧ later.flatten = after := by
  simp only [writeFrame, bind_eq_ok, failIf_eq_ok, Nat.not_lt] at written
  obtain ⟨data, marshalled, -, short, same⟩ := written
  cases same
  have back := type.unmarshal_marshal message data marshalled
  have present : data.length ≠ 0 := by
    grind [MessageType.unmarshal_nil]
  have size : bigEndianValue (bigEndian 4 data.length) = data.length :=
    bigEndianValue_bigEndian (Nat.lt_of_le_of_lt short (by decide))
  rw [List.append_assoc] at bytes
  obtain ⟨middle, readSize, rest⟩ := readFull_of_append (bigEndian_length 4 data.length) bytes
  obtain ⟨later, readData, isAfter⟩ := readFull_of_append rfl rest
  grind [readFrame, badSize]

/-- A size that is not allowed is rejected after its four bytes. -/
theorem readFrame_rejects {size after : Bytes} {transport : Transport} (four : size.length = 4)
    (bytes : transport.flatten = size ++ after) (bad : badSize (bigEndianValue size)) :
    ∃ later, readFrame type transport =
        (.error (.new (str "invalid frame size " ++ itoa (bigEndianValue size))), later) ∧
      later.flatten = after := by
  obtain ⟨later, read, isAfter⟩ := readFull_of_append four bytes
  exact ⟨later, by simp only [readFrame, read, if_pos bad], isAfter⟩

/-- What a successful read has consumed. -/
theorem readFrame_consumes {message : α} {transport later : Transport}
    (read : readFrame type transport = (.ok message, later)) :
    ∃ size data, transport.flatten = size ++ data ++ later.flatten ∧ size.length = 4 ∧
      data.length = bigEndianValue size ∧ data.length ≤ maxFrame := by
  unfold readFrame at read
  split at read
  · cases read
  · rename_i size middle readSize
    obtain ⟨four, first⟩ := readFull_eq_ok readSize
    split at read
    · cases read
    · rename_i allowed
      split at read
      · cases read
      · rename_i data last readData
        obtain ⟨length, second⟩ := readFull_eq_ok readData
        obtain ⟨-, rfl⟩ := Prod.mk.inj read
        refine ⟨size, data, by rw [first, second, List.append_assoc], four, length, ?_⟩
        rw [length]
        exact Nat.not_lt.mp (not_or.mp allowed).2

end Frames

/-! ## Many messages -/

section Messages

variable {ι : Type} {Message : ι → Type} (type : (i : ι) → MessageType (Message i))

/-- Calls of `WriteFrame`, with all that they write. -/
def writeFrames : List (Sigma Message) → Except GoError Bytes
  | [] => .ok []
  | message :: rest => do
    let frame ← writeFrame (type message.1) message.2
    return frame ++ (← writeFrames rest)

/-- Calls of `ReadFrame` for the types of these messages return them, each consumes its own
frame, and `after` remains. -/
def Delivers : List (Sigma Message) → Transport → Bytes → Prop
  | [], transport, after => transport.flatten = after
  | message :: rest, transport, after => ∃ frame later,
    writeFrame (type message.1) message.2 = .ok frame ∧
    readFrame (type message.1) transport = (.ok message.2, later) ∧
    transport.flatten = frame ++ later.flatten ∧ Delivers rest later after

/-- Framing is lossless and self-delimiting.  Messages of any types that `WriteFrame` accepts are
returned by as many calls of `ReadFrame`, however the transport splits the bytes; and of any stream
a call consumes four bytes if it rejects the announced size, and four and the announced size, at
most 64 KiB, if it succeeds. -/
theorem frames_lossless {messages : List (Sigma Message)} {bytes : Bytes}
    (written : writeFrames type messages = .ok bytes) :
    (∀ transport after, transport.flatten = bytes ++ after →
      Delivers type messages transport after) ∧
    ∀ (i : ι) (transport : Transport),
      (∀ size after, size.length = 4 → transport.flatten = size ++ after →
        badSize (bigEndianValue size) → ∃ error later,
          readFrame (type i) transport = (.error error, later) ∧ later.flatten = after) ∧
      ∀ message later, readFrame (type i) transport = (.ok message, later) →
        ∃ size data, transport.flatten = size ++ data ++ later.flatten ∧ size.length = 4 ∧
          data.length = bigEndianValue size ∧ data.length ≤ maxFrame := by
  refine ⟨?_, fun i transport => ⟨?_, fun message later => readFrame_consumes⟩⟩
  · induction messages generalizing bytes with
    | nil =>
      cases written
      exact fun transport after isBytes => isBytes
    | cons message rest ih =>
      simp only [writeFrames, bind_eq_ok] at written
      obtain ⟨frame, isFrame, more, isMore, same⟩ := written
      cases same
      intro transport after isBytes
      rw [List.append_assoc] at isBytes
      obtain ⟨later, read, remains⟩ := readFrame_writeFrame isFrame isBytes
      exact ⟨frame, later, isFrame, read, by rw [isBytes, remains], ih isMore later after remains⟩
  · intro size after four isBytes bad
    obtain ⟨later, rejected, remains⟩ := @readFrame_rejects _ (type i) _ _ _ four isBytes bad
    exact ⟨_, later, rejected, remains⟩

end Messages

namespace Sample

/-- The JSON of a flag. -/
def flagType : MessageType Bool where
  marshal flag := .ok (str (if flag then "true" else "false"))
  unmarshal data :=
    if data = str "true" then .ok true
    else if data = str "false" then .ok false else .error (errorsNew "invalid flag")
  unmarshal_marshal := by
    rintro (_ | _) _ ⟨⟩ <;> decide
  unmarshal_nil := by decide

end Sample

/-- Two flags, in reads of five, two and twelve bytes. -/
theorem frames_lossless_flags : ∃ bytes,
    writeFrames (fun _ : Unit => Sample.flagType) [⟨(), true⟩, ⟨(), false⟩] = .ok bytes ∧
    Delivers (fun _ : Unit => Sample.flagType) [⟨(), true⟩, ⟨(), false⟩]
      [bytes.take 5, (bytes.drop 5).take 2, bytes.drop 7] [] := by
  refine ⟨_, rfl, ?_⟩
  exact (frames_lossless (fun _ : Unit => Sample.flagType) rfl).1 _ _ rfl

end Tubo
