import Tubo.Go.TimeOrder
import Tubo.Go.Unicode

/-!
# Package `encoding/json`: scalars

The text of strings, numbers and Booleans, as `json.Marshal` writes it and as the
decoder reads it.  What stands between the quotes of a string is its content; it is
kept as it stands, because a `json.Unmarshaler` is given the text and not the string.

* `unquote_escape` — the string of an escaped string, if that is valid UTF-8.
* `scanNumber_sound`, `scanNumber_complete` — the grammar of numbers.
* `readScalar_sound`, `readScalar_complete` — a scalar is read from its text, and nothing else.
-/

namespace Tubo.Json

/-! ## Writing strings -/

/-- A digit of `hex`. -/
def hexDigit (value : ℕ) : UInt8 :=
  UInt8.ofNat (if value < 10 then 0x30 + value else 0x57 + value)

/-- The text of a byte below 0x80, with `escapeHTML`. -/
def escapeASCII (byte : UInt8) : Bytes :=
  if byte = 0x5C ∨ byte = 0x22 then [0x5C, byte]
  else if byte = 0x08 then str "\\b"
  else if byte = 0x0C then str "\\f"
  else if byte = 0x0A then str "\\n"
  else if byte = 0x0D then str "\\r"
  else if byte = 0x09 then str "\\t"
  else if byte < 0x20 ∨ byte = 0x3C ∨ byte = 0x3E ∨ byte = 0x26 then
    str "\\u00" ++ [hexDigit (byte.toNat / 16), hexDigit (byte.toNat % 16)]
  else [byte]

/-- One round of `appendString`: the text of the first rune, and its length. -/
def escapeHead : Bytes → Bytes × ℕ
  | [] => ([], 0)
  | byte :: rest =>
    if byte < 0x80 then (escapeASCII byte, 1)
    else
      let (r, size) := decodeRune (byte :: rest)
      if r = runeError ∧ size = 1 then (str "\\ufffd", 1)
      else if r = 0x2028 ∨ r = 0x2029 then
        (str "\\u202" ++ [hexDigit (r % 16)], size)
      else ((byte :: rest).take size, size)

/-- The loop of `appendString`; the first number counts the bytes to skip. -/
def escapeFrom : ℕ → Bytes → Bytes
  | _, [] => []
  | skip + 1, _ :: rest => escapeFrom skip rest
  | 0, byte :: rest =>
    let (text, size) := escapeHead (byte :: rest)
    text ++ escapeFrom (size - 1) rest

/-- The content of a string. -/
def escape (text : GoString) : Bytes := escapeFrom 0 text

/-! ## Reading strings -/

/-- The value of a hexadecimal digit. -/
def hexValue (byte : UInt8) : Option ℕ :=
  if within 0x30 0x39 byte then some (byte.toNat - 0x30)
  else if within 0x61 0x66 byte then some (byte.toNat - 0x57)
  else if within 0x41 0x46 byte then some (byte.toNat - 0x37)
  else none

/-- The characters that may follow a backslash, with what they stand for. -/
def simpleEscapes : List (UInt8 × UInt8) :=
  [(0x62, 0x08), (0x66, 0x0C), (0x6E, 0x0A), (0x72, 0x0D), (0x74, 0x09), (0x5C, 0x5C),
    (0x2F, 0x2F), (0x22, 0x22)]

/-- Read up to the quote that ends a string: its content, and what follows. -/
def scanString : Bytes → Option (Bytes × Bytes)
  | 0x22 :: rest => some ([], rest)
  | 0x5C :: 0x75 :: a :: b :: c :: d :: rest =>
    if (hexValue a).isSome && (hexValue b).isSome && (hexValue c).isSome && (hexValue d).isSome then
      (scanString rest).map fun (content, after) =>
        (0x5C :: 0x75 :: a :: b :: c :: d :: content, after)
    else none
  | 0x5C :: escaped :: rest =>
    if (simpleEscapes.lookup escaped).isSome then
      (scanString rest).map fun (content, after) =>
        (0x5C :: escaped :: content, after)
    else none
  | byte :: rest =>
    if byte < 0x20 ∨ byte = 0x5C then none
    else (scanString rest).map fun (content, after) => (byte :: content, after)
  | [] => none

/-- `getu4`. -/
def getu4 : Bytes → Option ℕ
  | 0x5C :: 0x75 :: a :: b :: c :: d :: _ => do
      return (((← hexValue a) * 16 + (← hexValue b)) * 16 + (← hexValue c)) * 16 + (← hexValue d)
  | _ => none

/-- `utf16.DecodeRune`, for a pair of surrogates. -/
def surrogatePair (first second : ℕ) : Option ℕ :=
  if 0xD800 ≤ first ∧ first < 0xDC00 ∧ 0xDC00 ≤ second ∧ second < 0xE000 then
    some ((first - 0xD800) * 1024 + (second - 0xDC00) + 0x10000)
  else none

/-- The rune of an escape with `\u`, and the length of its text: one that is half of
a pair takes the other half with it. -/
def unicodeEscape (content : Bytes) (r : ℕ) : Bytes × ℕ :=
  if 0xD800 ≤ r ∧ r < 0xE000 then
    match (getu4 (content.drop 6)).bind (surrogatePair r) with
    | some pair => (encodeRune pair, 12)
    | none => (encodeRune runeError, 6)
  else (encodeRune r, 6)

/-- One round of `unquoteBytes`: the bytes of the first rune, and the length of its
text.  The content has been scanned. -/
def unquoteHead : Bytes → Bytes × ℕ
  | [] => ([], 0)
  | byte :: rest =>
    if byte = 0x5C then
      match getu4 (byte :: rest) with
      | some r => unicodeEscape (byte :: rest) r
      | none => ((simpleEscapes.lookup (rest.headD 0)).toList, 2)
    else if byte < 0x80 then ([byte], 1)
    else
      let (r, size) := decodeRune (byte :: rest)
      (encodeRune r, size)

/-- The loop of `unquoteBytes`; the first number counts the bytes to skip. -/
def unquoteFrom : ℕ → Bytes → GoString
  | _, [] => []
  | skip + 1, _ :: rest => unquoteFrom skip rest
  | 0, byte :: rest =>
    let (bytes, size) := unquoteHead (byte :: rest)
    bytes ++ unquoteFrom (size - 1) rest

/-- The string of a content. -/
def unquote (content : Bytes) : GoString := unquoteFrom 0 content

/-! ## Round trip of strings -/

/-- One character of a content, as it may be written. -/
inductive Piece : Bytes → Prop
  | plain {byte : UInt8} (printable : 0x20 ≤ byte) (notQuote : byte ≠ 0x22)
      (notEscape : byte ≠ 0x5C) : Piece [byte]
  | simple {escaped : UInt8} (known : escaped ∈ simpleEscapes.map Prod.fst) :
      Piece [0x5C, escaped]
  | unicode {a b c d : UInt8} (first : (hexValue a).isSome) (second : (hexValue b).isSome)
      (third : (hexValue c).isSome) (fourth : (hexValue d).isSome) :
      Piece [0x5C, 0x75, a, b, c, d]

/-- What may stand between quotes. -/
inductive Content : Bytes → Prop
  | nil : Content []
  | cons {piece rest : Bytes} (first : Piece piece) (more : Content rest) :
      Content (piece ++ rest)

theorem Content.append {first second : Bytes} (isFirst : Content first)
    (isSecond : Content second) : Content (first ++ second) := by
  induction isFirst with
  | nil => exact isSecond
  | cons piece _ ih =>
    rw [List.append_assoc]
    exact .cons piece ih

variable {piece text after integer literal rest : Bytes} {r value : ℕ}

theorem Piece.length_bounds (isPiece : Piece piece) : 0 < piece.length ∧ piece.length ≤ 6 := by
  cases isPiece <;> simp

theorem Piece.content (isPiece : Piece piece) : Content piece := by
  have alone := Content.cons isPiece .nil
  rwa [List.append_nil] at alone

theorem scanString_piece (isPiece : Piece piece) (rest : Bytes) :
    scanString (piece ++ rest) =
      (scanString rest).map fun (content, after) => (piece ++ content, after) := by
  cases isPiece with
  | @plain byte printable notQuote notEscape =>
    show scanString (byte :: rest) = _
    rw [scanString.eq_def]
    split <;> rename_i same
    · exact absurd (List.cons.inj same).1 notQuote
    · exact absurd (List.cons.inj same).1 notEscape
    · exact absurd (List.cons.inj same).1 notEscape
    · grind
    · cases same
  | @simple escaped known =>
    simp only [simpleEscapes, List.map_cons, List.map_nil, List.mem_cons,
      List.not_mem_nil, or_false] at known
    rcases known with rfl | rfl | rfl | rfl | rfl | rfl | rfl | rfl <;> rfl
  | unicode first second third fourth =>
    simp only [List.cons_append, List.nil_append]
    rw [scanString, first, second, third, fourth]
    rfl

theorem scanString_content {content : Bytes} (isContent : Content content)
    (rest : Bytes) : scanString (content ++ 0x22 :: rest) = some (content, rest) := by
  induction isContent with
  | nil => rfl
  | cons isPiece _ ih =>
    rw [List.append_assoc, scanString_piece isPiece, ih]
    rfl

theorem scanString_sound {content : Bytes} (scanned : scanString text = some (content, after)) :
    text = content ++ 0x22 :: after ∧ Content content := by
  fun_induction scanString text generalizing content after with
  | case1 rest =>
    obtain ⟨rfl, rfl⟩ := Prod.mk.inj (Option.some.inj scanned)
    exact ⟨rfl, .nil⟩
  | case2 a b c d rest isHex ih =>
    obtain ⟨⟨more, last⟩, found, same⟩ := Option.map_eq_some_iff.mp scanned
    obtain ⟨rfl, rfl⟩ := Prod.mk.inj same
    obtain ⟨rfl, isContent⟩ := ih found
    simp only [Bool.and_eq_true] at isHex
    obtain ⟨⟨⟨first, second⟩, third⟩, fourth⟩ := isHex
    exact ⟨rfl, .cons (.unicode first second third fourth) isContent⟩
  | case4 escaped rest _ known ih =>
    obtain ⟨⟨more, last⟩, found, same⟩ := Option.map_eq_some_iff.mp scanned
    obtain ⟨rfl, rfl⟩ := Prod.mk.inj same
    obtain ⟨rfl, isContent⟩ := ih found
    have member : escaped ∈ simpleEscapes.map Prod.fst := by
      obtain ⟨pair, member, same⟩ := List.lookup_isSome_iff.mp known
      exact List.mem_map.mpr ⟨pair, member, (beq_iff_eq.mp same).symm⟩
    exact ⟨rfl, .cons (.simple member) isContent⟩
  | case7 byte rest notQuote _ _ ordinary ih =>
    obtain ⟨⟨more, last⟩, found, same⟩ := Option.map_eq_some_iff.mp scanned
    obtain ⟨rfl, rfl⟩ := Prod.mk.inj same
    obtain ⟨rfl, isContent⟩ := ih found
    rw [not_or] at ordinary
    exact ⟨rfl, .cons (.plain (UInt8.not_lt.mp ordinary.1) notQuote ordinary.2) isContent⟩
  | _ => cases scanned

/-- The text of a rune in a content. -/
def escapeRune (r : ℕ) : Bytes :=
  if r < 0x80 then escapeASCII (UInt8.ofNat r)
  else if r = 0x2028 ∨ r = 0x2029 then str "\\u202" ++ [hexDigit (r % 16)]
  else encodeRune r

theorem hexValue_hexDigit : ∀ value < 16, hexValue (hexDigit value) = some value := by
  decide

theorem escapeASCII_piece (byte : UInt8) : Piece (escapeASCII byte) := by
  have small := byte.toNat_lt
  unfold escapeASCII
  split
  · rename_i special
    rcases special with rfl | rfl <;> exact .simple (by decide)
  · rename_i ordinary
    rw [not_or] at ordinary
    split
    · exact (.simple (by decide) : Piece [0x5C, 0x62])
    split
    · exact (.simple (by decide) : Piece [0x5C, 0x66])
    split
    · exact (.simple (by decide) : Piece [0x5C, 0x6E])
    split
    · exact (.simple (by decide) : Piece [0x5C, 0x72])
    split
    · exact (.simple (by decide) : Piece [0x5C, 0x74])
    split
    · have high := hexValue_hexDigit (byte.toNat / 16) (by omega)
      have low := hexValue_hexDigit (byte.toNat % 16) (by omega)
      exact .unicode (a := 0x30) (b := 0x30) rfl rfl (by simp [high]) (by simp [low])
    · rename_i printable
      rw [not_or] at printable
      exact .plain (UInt8.not_lt.mp printable.1) ordinary.2 ordinary.1

theorem encodeRune_high (above : 0x80 ≤ r) : ∀ byte ∈ encodeRune r, 0x80 ≤ byte := by
  have high : ∀ n, 0x80 ≤ n → n < 256 → 0x80 ≤ UInt8.ofNat n := by
    intro n low small
    rw [UInt8.le_iff_toNat_le, toNat_ofNat_byte small]
    exact low
  unfold encodeRune
  rw [if_neg (by omega)]
  split
  · grind
  split
  · grind
  rename_i valid
  grind [validRune]

theorem Content.of_plain {bytes : Bytes}
    (plain : ∀ byte ∈ bytes, 0x20 ≤ byte ∧ byte ≠ 0x22 ∧ byte ≠ 0x5C) : Content bytes := by
  induction bytes with
  | nil => exact .nil
  | cons byte rest ih =>
    rw [List.forall_mem_cons] at plain
    obtain ⟨⟨printable, notQuote, notEscape⟩, more⟩ := plain
    exact .cons (.plain printable notQuote notEscape) (ih more)

theorem escapeRune_content : Content (escapeRune r) := by
  unfold escapeRune
  split
  · exact (escapeASCII_piece _).content
  split
  · rename_i separator
    rcases separator with rfl | rfl <;>
      exact (Piece.unicode (a := 0x32) (b := 0x30) (c := 0x32) rfl rfl rfl (by decide)).content
  · rename_i notASCII _
    refine .of_plain fun byte member => ?_
    have high := encodeRune_high (by omega) byte member
    grind

theorem escapeFrom_skip (bytes rest : Bytes) :
    escapeFrom bytes.length (bytes ++ rest) = escapeFrom 0 rest := by
  induction bytes with
  | nil => rfl
  | cons byte bytes ih => exact ih

theorem unquoteFrom_skip (bytes rest : Bytes) :
    unquoteFrom bytes.length (bytes ++ rest) = unquoteFrom 0 rest := by
  induction bytes with
  | nil => rfl
  | cons byte bytes ih => exact ih

theorem encodeRune_cons (r : ℕ) :
    ∃ byte tail, encodeRune r = byte :: tail ∧ (0x80 ≤ r → tail ≠ []) := by
  unfold encodeRune
  split
  · exact ⟨_, [], rfl, by omega⟩
  split
  · exact ⟨_, _, rfl, by simp⟩
  split
  · exact ⟨_, _, rfl, by simp⟩
  split
  · exact ⟨_, _, rfl, by simp⟩
  · exact ⟨_, _, rfl, by simp⟩

theorem escapeHead_rune (valid : validRune r = true) (rest : Bytes) :
    escapeHead (encodeRune r ++ rest) = (escapeRune r, (encodeRune r).length) := by
  unfold escapeRune
  rcases lt_or_ge r 0x80 with ascii | above
  · grind [encodeRune_ascii, UInt8.lt_iff_toNat_lt, toNat_ofNat_byte, escapeHead]
  · rw [if_neg (by omega)]
    have decoded := decodeRune_encodeRune valid rest
    obtain ⟨byte, tail, encoded, long⟩ := encodeRune_cons r
    have high := encodeRune_high above byte (by simp [encoded])
    have notOne : (encodeRune r).length ≠ 1 := by
      grind
    have whole : (encodeRune r ++ rest).take (encodeRune r).length = encodeRune r := by
      rw [List.take_left']
      rfl
    rw [encoded, List.cons_append] at decoded whole ⊢
    rw [encoded] at notOne
    rw [escapeHead, if_neg (UInt8.not_lt.mpr high), decoded]
    dsimp only
    rw [if_neg (fun error => notOne error.2), whole]
    split <;> rfl

theorem escape_rune (valid : validRune r = true) (rest : Bytes) :
    escape (encodeRune r ++ rest) = escapeRune r ++ escape rest := by
  have head := escapeHead_rune valid rest
  obtain ⟨byte, tail, encoded, -⟩ := encodeRune_cons r
  grind [escapeFrom_skip, escape, escapeFrom]

theorem unquoteHead_ascii {byte : UInt8} (ascii : byte < 0x80) (rest : Bytes) :
    unquoteHead (escapeASCII byte ++ rest) = ([byte], (escapeASCII byte).length) := by
  have small : byte.toNat < 0x80 := ascii
  unfold escapeASCII
  split
  · rename_i special
    rcases special with rfl | rfl <;> rfl
  · rename_i ordinary
    rw [not_or] at ordinary
    split
    · subst byte; rfl
    split
    · subst byte; rfl
    split
    · subst byte; rfl
    split
    · subst byte; rfl
    split
    · subst byte; rfl
    split
    · -- the digits of the byte are read, and it is no surrogate
      have high := hexValue_hexDigit (byte.toNat / 16) (by omega)
      have low := hexValue_hexDigit (byte.toNat % 16) (by omega)
      show unquoteHead (0x5C :: 0x75 :: 0x30 :: 0x30 :: hexDigit (byte.toNat / 16) ::
        hexDigit (byte.toNat % 16) :: rest) = ([byte], 6)
      have read : getu4 (0x5C :: 0x75 :: 0x30 :: 0x30 :: hexDigit (byte.toNat / 16) ::
          hexDigit (byte.toNat % 16) :: rest) = some byte.toNat := by
        simp only [getu4, high, low, show hexValue 0x30 = some 0 from rfl]
        exact congrArg some (by omega)
      grind [encodeRune_ascii, UInt8.ofNat_toNat, unquoteHead, unicodeEscape]
    · grind [unquoteHead]

theorem unquoteHead_rune (valid : validRune r = true) (rest : Bytes) :
    unquoteHead (escapeRune r ++ rest) = (encodeRune r, (escapeRune r).length) := by
  unfold escapeRune
  rcases lt_or_ge r 0x80 with ascii | above
  · grind [UInt8.lt_iff_toNat_lt, toNat_ofNat_byte, encodeRune_ascii, unquoteHead_ascii]
  rw [if_neg (by omega)]
  split
  · rename_i separator
    rcases separator with rfl | rfl <;> rfl
  · have decoded := decodeRune_encodeRune valid rest
    obtain ⟨byte, tail, encoded, -⟩ := encodeRune_cons r
    have high := encodeRune_high above byte (by simp [encoded])
    grind [unquoteHead]

theorem escapeRune_ne_nil (r : ℕ) : escapeRune r ≠ [] := by
  unfold escapeRune
  split
  · exact List.ne_nil_of_length_pos (escapeASCII_piece (UInt8.ofNat r)).length_bounds.1
  split
  · exact List.append_ne_nil_of_right_ne_nil _ (by simp)
  · obtain ⟨byte, tail, encoded, -⟩ := encodeRune_cons r
    rw [encoded]
    simp

theorem unquote_rune (valid : validRune r = true) (rest : Bytes) :
    unquote (escapeRune r ++ rest) = encodeRune r ++ unquote rest := by
  have head := unquoteHead_rune valid rest
  cases written : escapeRune r with
  | nil => exact absurd written (escapeRune_ne_nil r)
  | cons byte tail =>
    grind [unquoteFrom_skip, unquote, unquoteFrom]

/-- **Strings are read back.** -/
theorem unquote_escape {text : GoString} (valid : ValidUTF8 text) :
    unquote (escape text) = text := by
  induction valid with
  | nil => rfl
  | rune valid _ ih =>
    rw [escape_rune valid, unquote_rune valid, ih]

theorem escape_content {text : GoString} (valid : ValidUTF8 text) : Content (escape text) := by
  induction valid with
  | nil => exact .nil
  | rune valid _ ih =>
    rw [escape_rune valid]
    exact escapeRune_content.append ih

/-- A byte that stands for itself in a content. -/
def plainByte (byte : UInt8) : Bool :=
  0x20 ≤ byte && byte < 0x80 && byte != 0x22 && byte != 0x5C && byte != 0x3C &&
    byte != 0x3E && byte != 0x26

theorem escape_plain {text : GoString} (plain : text.all plainByte = true) :
    escape text = text := by
  unfold escape
  induction text with
  | nil => rfl
  | cons byte rest ih =>
    rw [List.all_cons, Bool.and_eq_true] at plain
    obtain ⟨isPlain, more⟩ := plain
    simp only [plainByte, Bool.and_eq_true, decide_eq_true_eq, bne_iff_ne] at isPlain
    obtain ⟨⟨⟨⟨⟨⟨printable, ascii⟩, notQuote⟩, notEscape⟩, notLess⟩, notGreater⟩, notAnd⟩ :=
      isPlain
    have itself : escapeASCII byte = [byte] := by
      have notControl : ∀ control : UInt8, control < 0x20 → byte ≠ control := by
        grind
      rw [escapeASCII, if_neg (not_or.mpr ⟨notEscape, notQuote⟩),
        if_neg (notControl _ (by decide)), if_neg (notControl _ (by decide)),
        if_neg (notControl _ (by decide)), if_neg (notControl _ (by decide)),
        if_neg (notControl _ (by decide)), if_neg]
      grind
    grind [escapeFrom, escapeHead]

theorem escape_length_le {text : GoString} (valid : ValidUTF8 text) :
    (escape text).length ≤ 6 * text.length := by
  induction valid with
  | nil => rfl
  | @rune r rest valid _ ih =>
    rw [escape_rune valid, List.length_append, List.length_append]
    have head : (escapeRune r).length ≤ 6 * (encodeRune r).length := by
      obtain ⟨byte, tail, encoded, -⟩ := encodeRune_cons r
      unfold escapeRune
      split
      · have short := (escapeASCII_piece (UInt8.ofNat r)).length_bounds
        rw [encoded, List.length_cons]
        omega
      split
      · rw [encoded, List.length_cons]
        have short : (str "\\u202" ++ [hexDigit (r % 16)]).length = 6 := rfl
        omega
      · omega
    omega

/-! ## Numbers -/

/-- A decimal digit. -/
def isDigit (byte : UInt8) : Bool := within 0x30 0x39 byte

/-- One or more digits. -/
def scanDigits (text : Bytes) : Option (Bytes × Bytes) :=
  if text.takeWhile isDigit = [] then none
  else some (text.takeWhile isDigit, text.dropWhile isDigit)

/-- An optional sign. -/
def scanSign (signs : List UInt8) : Bytes → Bytes × Bytes
  | byte :: rest => if byte ∈ signs then ([byte], rest) else ([], byte :: rest)
  | [] => ([], [])

/-- An integer without sign: a zero is not followed by digits. -/
def scanInteger : Bytes → Option (Bytes × Bytes)
  | 0x30 :: rest => some ([0x30], rest)
  | text => scanDigits text

/-- An optional fraction. -/
def scanFraction : Bytes → Option (Bytes × Bytes)
  | 0x2E :: rest =>
    (scanDigits rest).map fun (digits, after) => (0x2E :: digits, after)
  | text => some ([], text)

/-- An optional exponent. -/
def scanExponent : Bytes → Option (Bytes × Bytes)
  | byte :: rest =>
    if byte = 0x65 ∨ byte = 0x45 then
      let (sign, more) := scanSign [0x2B, 0x2D] rest
      (scanDigits more).map fun (digits, after) => (byte :: sign ++ digits, after)
    else some ([], byte :: rest)
  | [] => some ([], [])

/-- Read a number: its text, and what follows. -/
def scanNumber (text : Bytes) : Option (Bytes × Bytes) := do
  let (sign, text) := scanSign [0x2D] text
  let (integer, text) ← scanInteger text
  let (fraction, text) ← scanFraction text
  let (exponent, text) ← scanExponent text
  return (sign ++ integer ++ fraction ++ exponent, text)

/-- The value of decimal digits. -/
def decimalValue (digits : Bytes) : ℕ :=
  digits.foldl (fun value byte => value * 10 + (byte.toNat - 0x30)) 0

/-- The value of the digits of an exponent, which `readFloat` stops to accumulate at
10000. -/
def exponentValue (digits : Bytes) : ℕ :=
  digits.foldl (fun value byte =>
    if value < 10000 then value * 10 + (byte.toNat - 0x30) else value) 0

/-- The exponent of a number, from what follows its mantissa. -/
def exponentOf (exponent : Bytes) : ℤ :=
  let (sign, digits) := scanSign [0x2B, 0x2D] (exponent.drop 1)
  if sign = [0x2D] then -(exponentValue digits) else exponentValue digits

/-- The least number that is rounded to an infinite `float64`. -/
def floatLimit : ℕ := 2 ^ 1024 - 2 ^ 970

/-- `strconv.ParseFloat` reports that a number is out of range. -/
def floatOverflows (literal : Bytes) : Bool :=
  let (_, unsigned) := scanSign [0x2D] literal
  let integer := unsigned.takeWhile isDigit
  let rest := unsigned.dropWhile isDigit
  let fraction := if rest.head? = some 0x2E then (rest.drop 1).takeWhile isDigit else []
  let exponent := if rest.head? = some 0x2E then (rest.drop 1).dropWhile isDigit else rest
  let mantissa := decimalValue (integer ++ fraction)
  let scale := exponentOf exponent - fraction.length
  floatLimit * 10 ^ (-scale).toNat ≤ mantissa * 10 ^ scale.toNat

/-- `strconv.ParseUint(literal, 10, 64)`. -/
def parseUint (literal : Bytes) : Option ℕ :=
  if literal ≠ [] ∧ literal.all isDigit ∧ decimalValue literal < uint64Size then
    some (decimalValue literal)
  else none

/-- `strconv.ParseInt(literal, 10, 64)`; JSON has no plus sign. -/
def parseInt (literal : Bytes) : Option ℤ :=
  let (sign, digits) := scanSign [0x2D] literal
  if digits = [] ∨ ¬digits.all isDigit then none
  else if sign = [] then
    if decimalValue digits < int64Size then some (decimalValue digits) else none
  else if decimalValue digits ≤ int64Size then some (-(decimalValue digits : ℤ))
  else none

theorem plainByte_of_isDigit {byte : UInt8} (digit : isDigit byte = true) :
    plainByte byte = true := by
  have digits : ∀ n < 256, isDigit (UInt8.ofNat n) = true →
    plainByte (UInt8.ofNat n) = true := by decide +kernel
  have isPlain := digits byte.toNat byte.toNat_lt
  rw [UInt8.ofNat_toNat] at isPlain
  exact isPlain digit

/-! ## Scalars -/

/-- A value that is neither an object nor an array. -/
inductive Scalar
  | string (content : Bytes)
  | number (literal : Bytes)
  | bool (value : Bool)
  | null
  deriving DecidableEq, Repr

/-- The text of a scalar. -/
def Scalar.write : Scalar → Bytes
  | string content => 0x22 :: (content ++ [0x22])
  | number literal => literal
  | bool true => str "true"
  | bool false => str "false"
  | null => str "null"

/-- Read one word. -/
def readWord (word : Bytes) (scalar : Scalar) (text : Bytes) : Option (Scalar × Bytes) :=
  if word.isPrefixOf text then some (scalar, text.drop word.length) else none

/-- Read a scalar. -/
def readScalar (text : Bytes) : Option (Scalar × Bytes) :=
  match text with
  | [] => none
  | byte :: rest =>
    if byte = 0x22 then
      (scanString rest).map fun (content, after) => (.string content, after)
    else if byte = 0x74 then readWord (str "true") (.bool true) text
    else if byte = 0x66 then readWord (str "false") (.bool false) text
    else if byte = 0x6E then readWord (str "null") .null text
    else
      (scanNumber text).bind fun (literal, after) =>
        if floatOverflows literal then none else some (.number literal, after)

/-! ## The grammar of numbers -/

/-- One or more digits. -/
def Digits (digits : Bytes) : Prop := digits ≠ [] ∧ ∀ byte ∈ digits, isDigit byte = true

/-- An integer without leading zeros. -/
def IntegerText (integer : Bytes) : Prop :=
  integer = [0x30] ∨ Digits integer ∧ integer.head? ≠ some 0x30

def FractionText (fraction : Bytes) : Prop :=
  fraction = [] ∨ ∃ digits, fraction = 0x2E :: digits ∧ Digits digits

def ExponentText (exponent : Bytes) : Prop :=
  exponent = [] ∨ ∃ mark sign digits, exponent = mark :: (sign ++ digits) ∧
    (mark = 0x65 ∨ mark = 0x45) ∧ (sign = [] ∨ sign = [0x2B] ∨ sign = [0x2D]) ∧ Digits digits

/-- The literal of a number. -/
def NumberText (literal : Bytes) : Prop :=
  ∃ sign integer fraction exponent, literal = sign ++ (integer ++ (fraction ++ exponent)) ∧
    (sign = [] ∨ sign = [0x2D]) ∧ IntegerText integer ∧ FractionText fraction ∧
    ExponentText exponent

variable {scalar : Scalar}

theorem IntegerText.digits (isInteger : IntegerText integer) : Digits integer := by
  rcases isInteger with rfl | ⟨isDigits, -⟩
  · exact ⟨by simp, List.forall_mem_singleton.mpr rfl⟩
  · exact isDigits

theorem scanDigits_sound {digits : Bytes}
    (scanned : scanDigits text = some (digits, after)) : text = digits ++ after ∧ Digits digits := by
  unfold scanDigits at scanned
  split at scanned
  · cases scanned
  · rename_i present
    obtain ⟨rfl, rfl⟩ := Prod.mk.inj (Option.some.inj scanned)
    exact ⟨(List.takeWhile_append_dropWhile).symm, present, fun _ => List.mem_takeWhile_imp⟩

theorem scanSign_sound (signs : List UInt8) (text : Bytes) :
    text = (scanSign signs text).1 ++ (scanSign signs text).2 ∧
      ((scanSign signs text).1 = [] ∨ ∃ sign ∈ signs, (scanSign signs text).1 = [sign]) := by
  cases text with
  | nil => exact ⟨rfl, .inl rfl⟩
  | cons byte rest =>
    rw [scanSign]
    split
    · exact ⟨rfl, .inr ⟨byte, ‹_›, rfl⟩⟩
    · exact ⟨rfl, .inl rfl⟩

theorem scanInteger_sound (scanned : scanInteger text = some (integer, after)) :
    text = integer ++ after ∧ IntegerText integer := by
  unfold scanInteger at scanned
  split at scanned
  · obtain ⟨rfl, rfl⟩ := Prod.mk.inj (Option.some.inj scanned)
    exact ⟨rfl, .inl rfl⟩
  · rename_i notZero
    obtain ⟨rfl, isDigits⟩ := scanDigits_sound scanned
    refine ⟨rfl, .inr ⟨isDigits, ?_⟩⟩
    intro zero
    obtain ⟨first, more, rfl⟩ := List.exists_cons_of_ne_nil isDigits.1
    obtain rfl := Option.some.inj zero
    exact notZero _ rfl

theorem scanFraction_sound {fraction : Bytes}
    (scanned : scanFraction text = some (fraction, after)) :
    text = fraction ++ after ∧ FractionText fraction := by
  unfold scanFraction at scanned
  split at scanned
  · obtain ⟨⟨digits, last⟩, found, same⟩ := Option.map_eq_some_iff.mp scanned
    obtain ⟨rfl, isDigits⟩ := scanDigits_sound found
    obtain ⟨rfl, rfl⟩ := Prod.mk.inj same
    exact ⟨rfl, .inr ⟨digits, rfl, isDigits⟩⟩
  · obtain ⟨rfl, rfl⟩ := Prod.mk.inj (Option.some.inj scanned)
    exact ⟨rfl, .inl rfl⟩

theorem scanExponent_sound {exponent : Bytes}
    (scanned : scanExponent text = some (exponent, after)) :
    text = exponent ++ after ∧ ExponentText exponent := by
  unfold scanExponent at scanned
  split at scanned
  · rename_i byte rest
    split at scanned
    · rename_i isMark
      obtain ⟨whole, isSign⟩ := scanSign_sound [0x2B, 0x2D] rest
      obtain ⟨⟨digits, last⟩, found, same⟩ := Option.map_eq_some_iff.mp scanned
      obtain ⟨isRest, isDigits⟩ := scanDigits_sound found
      change (scanSign [0x2B, 0x2D] rest).2 = _ at isRest
      obtain ⟨rfl, rfl⟩ := Prod.mk.inj same
      refine ⟨?_, .inr ⟨byte, (scanSign [0x2B, 0x2D] rest).1, digits, rfl, isMark, ?_, isDigits⟩⟩
      · rw [isRest] at whole
        show byte :: rest = byte :: (scanSign [0x2B, 0x2D] rest).1 ++ digits ++ last
        simpa using whole
      · simpa using isSign
    · obtain ⟨rfl, rfl⟩ := Prod.mk.inj (Option.some.inj scanned)
      exact ⟨rfl, .inl rfl⟩
  · obtain ⟨rfl, rfl⟩ := Prod.mk.inj (Option.some.inj scanned)
    exact ⟨rfl, .inl rfl⟩

theorem scanNumber_sound (scanned : scanNumber text = some (literal, after)) :
    text = literal ++ after ∧ NumberText literal := by
  simp only [scanNumber, Option.bind_eq_bind, Option.bind_eq_some_iff, Prod.exists,
    Option.pure_def, Option.some.injEq, Prod.mk.injEq, List.append_assoc] at scanned
  obtain ⟨integer, _, isInteger, fraction, _, isFraction, exponent, _, isExponent, rfl, rfl⟩ :=
    scanned
  obtain ⟨whole, isSign⟩ := scanSign_sound [0x2D] text
  obtain ⟨splitInteger, integerText⟩ := scanInteger_sound isInteger
  obtain ⟨rfl, fractionText⟩ := scanFraction_sound isFraction
  obtain ⟨rfl, exponentText⟩ := scanExponent_sound isExponent
  refine ⟨?_, _, integer, fraction, exponent, rfl, ?_, integerText, fractionText, exponentText⟩
  · rw [splitInteger] at whole
    simpa using whole
  · simpa using isSign

/-- What follows does not belong to a number. -/
def Stops (rest : Bytes) : Prop :=
  ∀ byte ∈ rest.head?, isDigit byte = false ∧ byte ≠ 0x2E ∧ byte ≠ 0x65 ∧ byte ≠ 0x45

theorem takeWhile_digits {digits : Bytes} (isDigits : ∀ byte ∈ digits, isDigit byte = true)
    (stops : ∀ byte ∈ rest.head?, isDigit byte = false) :
    (digits ++ rest).takeWhile isDigit = digits ∧ (digits ++ rest).dropWhile isDigit = rest := by
  have stop : rest.takeWhile isDigit = [] ∧ rest.dropWhile isDigit = rest := by
    cases rest with
    | nil => exact ⟨rfl, rfl⟩
    | cons byte rest =>
      have noDigit := stops byte rfl
      simp [noDigit]
  rw [List.takeWhile_append_of_pos isDigits, List.dropWhile_append_of_pos isDigits, stop.1,
    stop.2, List.append_nil]
  exact ⟨rfl, rfl⟩

theorem scanDigits_complete {digits : Bytes} (isDigits : Digits digits)
    (stops : ∀ byte ∈ rest.head?, isDigit byte = false) :
    scanDigits (digits ++ rest) = some (digits, rest) := by
  obtain ⟨taken, dropped⟩ := takeWhile_digits isDigits.2 stops
  rw [scanDigits, taken, dropped, if_neg isDigits.1]

/-- No sign is read where a digit stands. -/
theorem scanSign_digits {signs : List UInt8} (noDigit : ∀ sign ∈ signs, isDigit sign = false)
    {digits : Bytes} (isDigits : Digits digits) (rest : Bytes) :
    scanSign signs (digits ++ rest) = ([], digits ++ rest) := by
  obtain ⟨first, more, rfl⟩ := List.exists_cons_of_ne_nil isDigits.1
  have isDigit := isDigits.2 first List.mem_cons_self
  rw [List.cons_append, scanSign, if_neg]
  intro isSign
  rw [noDigit first isSign] at isDigit
  cases isDigit

theorem scanInteger_complete (isInteger : IntegerText integer)
    (stops : ∀ byte ∈ rest.head?, isDigit byte = false) :
    scanInteger (integer ++ rest) = some (integer, rest) := by
  rcases isInteger with rfl | ⟨isDigits, notZero⟩
  · rfl
  · rw [scanInteger.eq_def]
    split
    · rename_i zero
      obtain ⟨first, more, rfl⟩ := List.exists_cons_of_ne_nil isDigits.1
      exact absurd (congrArg some (List.cons.inj zero).1) notZero
    · exact scanDigits_complete isDigits stops

theorem scanFraction_complete {fraction : Bytes} (isFraction : FractionText fraction)
    (stops : ∀ byte ∈ rest.head?, isDigit byte = false ∧ byte ≠ 0x2E) :
    scanFraction (fraction ++ rest) = some (fraction, rest) := by
  rcases isFraction with rfl | ⟨digits, rfl, isDigits⟩
  · unfold scanFraction
    split
    · exact absurd rfl (stops 0x2E (by simp_all)).2
    · rfl
  · rw [List.cons_append, scanFraction,
      scanDigits_complete isDigits fun byte isFirst => (stops byte isFirst).1]
    rfl

theorem scanExponent_complete {exponent : Bytes} (isExponent : ExponentText exponent)
    (stops : Stops rest) : scanExponent (exponent ++ rest) = some (exponent, rest) := by
  rcases isExponent with rfl | ⟨mark, sign, digits, rfl, isMark, isSign, isDigits⟩
  · rw [List.nil_append]
    unfold scanExponent
    split
    · rename_i byte rest
      obtain ⟨-, -, notSmall, notCapital⟩ := stops byte rfl
      rw [if_neg (not_or.mpr ⟨notSmall, notCapital⟩)]
    · rfl
  · have signed : scanSign [0x2B, 0x2D] (sign ++ (digits ++ rest)) = (sign, digits ++ rest) := by
      rcases isSign with rfl | rfl | rfl
      · exact scanSign_digits (by simp [isDigit, within]) isDigits rest
      · rfl
      · rfl
    rw [List.cons_append, List.append_assoc, scanExponent, if_pos isMark, signed]
    dsimp only
    rw [scanDigits_complete isDigits fun byte isFirst => (stops byte isFirst).1]
    rfl

theorem scanNumber_complete (isNumber : NumberText literal)
    (stops : Stops rest) : scanNumber (literal ++ rest) = some (literal, rest) := by
  obtain ⟨sign, integer, fraction, exponent, rfl, isSign, isInteger, isFraction, isExponent⟩ :=
    isNumber
  -- an exponent begins with neither a digit nor a point, and a fraction with a point
  have afterFraction : ∀ byte ∈ (exponent ++ rest).head?, isDigit byte = false ∧ byte ≠ 0x2E := by
    intro byte isFirst
    rcases isExponent with rfl | ⟨mark, _, _, rfl, isMark, -, -⟩
    · exact ⟨(stops byte isFirst).1, (stops byte isFirst).2.1⟩
    · obtain rfl := Option.some.inj isFirst
      rcases isMark with rfl | rfl <;> decide
  have afterInteger : ∀ byte ∈ (fraction ++ (exponent ++ rest)).head?, isDigit byte = false := by
    intro byte isFirst
    rcases isFraction with rfl | ⟨digits, rfl, -⟩
    · exact (afterFraction byte isFirst).1
    · obtain rfl := Option.some.inj isFirst
      rfl
  have signed : scanSign [0x2D] (sign ++ (integer ++ (fraction ++ (exponent ++ rest)))) =
      (sign, integer ++ (fraction ++ (exponent ++ rest))) := by
    rcases isSign with rfl | rfl
    · exact scanSign_digits (by simp [isDigit, within]) isInteger.digits _
    · rfl
  simp only [List.append_assoc, scanNumber, signed, scanInteger_complete isInteger afterInteger,
    scanFraction_complete isFraction afterFraction, scanExponent_complete isExponent stops,
    Option.bind_eq_bind, Option.bind_some, Option.pure_def]

/-! ## Round trip of numbers -/

/-- The digits of a number, the first of which is a zero only in zero itself. -/
structure Decimal (digits : Bytes) (value : ℕ) : Prop where
  present : digits ≠ []
  isDigits : ∀ byte ∈ digits, isDigit byte = true
  noZero : ∀ rest, digits = 0x30 :: rest → rest = []
  isValue : decimalValue digits = value

theorem padded_one_small (small : value < 10) : Time.padded 1 value = [Time.digit value] := by
  rw [Time.padded, Nat.toDigits_of_lt_base small]
  rfl

theorem padded_one_large (large : 10 ≤ value) :
    Time.padded 1 value = Time.padded 1 (value / 10) ++ [Time.digit (value % 10)] := by
  have present : ∀ n, Nat.toDigits 10 n ≠ [] := by
    intro n
    rcases Nat.lt_or_ge n 10 with small | more
    · rw [Nat.toDigits_of_lt_base small]
      simp
    · rw [Nat.toDigits_of_base_le (by decide) more]
      simp
  have noPadding : ∀ n, 1 - ((Nat.toDigits 10 n).map fun character =>
      UInt8.ofNat character.toNat).length = 0 := by
    grind [List.length_pos_of_ne_nil]
  unfold Time.padded
  dsimp only
  rw [noPadding, noPadding, Nat.toDigits_of_base_le (by decide) large]
  simp [Time.digit]

theorem digit_isDigit : ∀ value < 10, isDigit (Time.digit value) = true ∧
    (Time.digit value).toNat - 0x30 = value := by
  decide

/-- The digits of a number. -/
theorem decimal_padded (value : ℕ) : Decimal (Time.padded 1 value) value := by
  induction value using Nat.strong_induction_on with
  | _ value ih =>
    rcases Nat.lt_or_ge value 10 with small | large
    · rw [padded_one_small small]
      obtain ⟨isDigit, isValue⟩ := digit_isDigit value small
      refine ⟨by simp, by simpa using isDigit, ?_, ?_⟩
      · intro rest same
        exact (List.cons.inj same).2.symm
      · simpa [decimalValue] using isValue
    · rw [padded_one_large large]
      have before := ih (value / 10) (by omega)
      obtain ⟨isDigit, isValue⟩ := digit_isDigit (value % 10) (by omega)
      refine ⟨by simp, ?_, ?_, ?_⟩
      · grind [Decimal.isDigits]
      · -- the first digit is that of the number without the last one
        intro rest same
        obtain ⟨first, more, isFirst⟩ := List.exists_cons_of_ne_nil before.present
        rw [isFirst, List.cons_append] at same
        obtain ⟨rfl, -⟩ := List.cons.inj same
        have zero := before.isValue
        grind [Decimal.noZero, decimalValue]
      · rw [decimalValue, List.foldl_append]
        have := before.isValue
        grind [decimalValue]

theorem Decimal.digits {digits : Bytes} (decimal : Decimal digits value) :
    Digits digits := ⟨decimal.present, decimal.isDigits⟩

theorem scanSign_itoa (value : ℤ) : scanSign [0x2D] (itoa value) =
      (if value < 0 then [0x2D] else [], Time.padded 1 value.natAbs) := by
  have unsigned := @scanSign_digits [0x2D] (by simp [isDigit, within]) _
    (decimal_padded value.natAbs).digits []
  rw [List.append_nil] at unsigned
  unfold itoa
  split
  · rfl
  · exact unsigned

theorem itoa_eq (value : ℤ) :
    itoa value = (if value < 0 then [0x2D] else []) ++ Time.padded 1 value.natAbs := rfl

theorem numberText_itoa (value : ℤ) : NumberText (itoa value) := by
  have decimal := decimal_padded value.natAbs
  refine ⟨if value < 0 then [0x2D] else [], Time.padded 1 value.natAbs, [], [], ?_, ?_, ?_,
    .inl rfl, .inl rfl⟩
  · rw [itoa_eq, List.append_nil, List.append_nil]
  · split
    · exact .inr rfl
    · exact .inl rfl
  · obtain ⟨first, more, isFirst⟩ := List.exists_cons_of_ne_nil decimal.present
    by_cases zero : first = 0x30
    · subst zero
      rw [isFirst, decimal.noZero more isFirst]
      exact .inl rfl
    · refine .inr ⟨decimal.digits, ?_⟩
      rw [isFirst]
      exact fun same => zero (Option.some.inj same)

theorem itoa_natCast (value : ℕ) : itoa value = Time.padded 1 value := by
  simp [itoa]

theorem parseUint_itoa (bound : value < uint64Size) : parseUint (itoa value) = some value := by
  have decimal := decimal_padded value
  rw [itoa_natCast, parseUint, decimal.isValue, if_pos]
  exact ⟨decimal.present, List.all_eq_true.mpr decimal.isDigits, bound⟩

theorem parseInt_itoa {value : ℤ} (low : -int64Size ≤ value) (high : value < int64Size) :
    parseInt (itoa value) = some value := by
  have decimal := decimal_padded value.natAbs
  have digits : ¬(Time.padded 1 value.natAbs = [] ∨
      ¬(Time.padded 1 value.natAbs).all isDigit = true) := by
    grind [Decimal.present, Decimal.isDigits]
  have sign := scanSign_itoa value
  grind [Decimal.isValue, parseInt]

theorem floatOverflows_itoa {value : ℤ} (bound : value.natAbs < floatLimit) :
    floatOverflows (itoa value) = false := by
  have decimal := decimal_padded value.natAbs
  obtain ⟨taken, dropped⟩ := @takeWhile_digits [] _ decimal.isDigits (by simp)
  have sign := scanSign_itoa value
  grind [Decimal.isValue, floatOverflows, exponentOf, scanSign, exponentValue]

/-! ## Scalars -/

/-- The scalars that have a text: the numbers are in the range of `float64`. -/
def Scalar.Sound : Scalar → Prop
  | string content => Content content
  | number literal => NumberText literal ∧ floatOverflows literal = false
  | bool _ | null => True

/-- A number begins with its sign or with a digit. -/
theorem NumberText.first (isNumber : NumberText literal) :
    ∃ first more, literal = first :: more ∧ (first = 0x2D ∨ isDigit first = true) := by
  obtain ⟨sign, integer, fraction, exponent, rfl, isSign, isInteger, -, -⟩ := isNumber
  obtain ⟨first, more, rfl⟩ := List.exists_cons_of_ne_nil isInteger.digits.1
  rcases isSign with rfl | rfl
  · exact ⟨first, _, rfl, .inr (isInteger.digits.2 first List.mem_cons_self)⟩
  · exact ⟨_, _, rfl, .inl rfl⟩

/-- **A scalar is read from its text.** -/
theorem readScalar_complete (sound : scalar.Sound)
    (stops : Stops rest) : readScalar (scalar.write ++ rest) = some (scalar, rest) := by
  cases scalar with
  | string content =>
    rw [Scalar.write, List.cons_append, List.append_assoc, List.singleton_append,
      readScalar, if_pos rfl, scanString_content sound]
    rfl
  | number literal =>
    obtain ⟨isNumber, inRange⟩ := sound
    have scanned := scanNumber_complete isNumber stops
    obtain ⟨first, more, rfl, isFirst⟩ := isNumber.first
    have notWord : ∀ word : UInt8, word ∈ ([0x22, 0x74, 0x66, 0x6E] : Bytes) → first ≠ word := by
      rintro word member rfl
      rcases isFirst with rfl | digit
      · exact absurd member (by decide)
      · revert digit
        simp only [List.mem_cons, List.not_mem_nil, or_false] at member
        rcases member with rfl | rfl | rfl | rfl <;> decide
    rw [Scalar.write, List.cons_append] at *
    rw [readScalar, if_neg (notWord _ (by decide)), if_neg (notWord _ (by decide)),
      if_neg (notWord _ (by decide)), if_neg (notWord _ (by decide)), scanned, Option.bind_some]
    dsimp only
    rw [inRange]
    rfl
  | bool value => cases value <;> rfl
  | null => rfl

theorem readWord_sound (word : Scalar) (sound : word.Sound)
    (found : readWord word.write word text = some (scalar, after)) :
    text = scalar.write ++ after ∧ scalar.Sound := by
  unfold readWord at found
  split at found
  · rename_i isPrefix
    obtain ⟨rest, rfl⟩ := List.isPrefixOf_iff_prefix.mp isPrefix
    obtain ⟨rfl, rfl⟩ := Prod.mk.inj (Option.some.inj found)
    rw [List.drop_left]
    exact ⟨rfl, sound⟩
  · cases found

/-- What is read as a scalar is its text. -/
theorem readScalar_sound (found : readScalar text = some (scalar, after)) :
    text = scalar.write ++ after ∧ scalar.Sound := by
  cases text with
  | nil => cases found
  | cons byte rest =>
    rw [readScalar] at found
    split at found
    · obtain ⟨⟨content, last⟩, scanned, same⟩ := Option.map_eq_some_iff.mp found
      obtain ⟨rfl, rfl⟩ := Prod.mk.inj same
      obtain ⟨whole, isContent⟩ := scanString_sound scanned
      exact ⟨by simp_all [Scalar.write], isContent⟩
    split at found
    · exact readWord_sound (.bool true) trivial found
    split at found
    · exact readWord_sound (.bool false) trivial found
    split at found
    · exact readWord_sound .null trivial found
    · obtain ⟨⟨literal, last⟩, scanned, same⟩ := Option.bind_eq_some_iff.mp found
      dsimp only at same
      split at same
      · cases same
      · rename_i inRange
        obtain ⟨rfl, rfl⟩ := Prod.mk.inj (Option.some.inj same)
        obtain ⟨whole, isNumber⟩ := scanNumber_sound scanned
        exact ⟨whole, isNumber, Bool.eq_false_iff.mpr inRange⟩

theorem Scalar.Sound.present (sound : scalar.Sound) : scalar.write ≠ [] := by
  cases scalar with
  | number literal =>
    obtain ⟨first, more, rfl, -⟩ := sound.1.first
    exact List.cons_ne_nil first more
  | bool value => cases value <;> decide
  | null => decide
  | string content => simp [Scalar.write]

/-- A scalar takes part of the text. -/
theorem readScalar_shorter
    (found : readScalar text = some (scalar, after)) : after.length < text.length := by
  obtain ⟨rfl, sound⟩ := readScalar_sound found
  rw [List.length_append]
  have := List.length_pos_of_ne_nil sound.present
  omega

/-- The scalars that `json.Marshal` writes for strings, integers and Booleans. -/
def Scalar.Written : Scalar → Prop
  | string content => Content content
  | number literal => ∃ value : ℤ, literal = itoa value ∧ value.natAbs < floatLimit
  | bool _ | null => True

theorem Scalar.Written.sound (written : scalar.Written) : scalar.Sound := by
  cases scalar with
  | number literal =>
    obtain ⟨value, rfl, bound⟩ := written
    exact ⟨numberText_itoa value, floatOverflows_itoa bound⟩
  | _ => exact written

end Tubo.Json
