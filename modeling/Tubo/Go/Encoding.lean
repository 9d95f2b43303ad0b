import Mathlib.Tactic.IntervalCases
import Tubo.Go.Basics

/-!
# Packages `encoding/base64` and `encoding/base32`

The two textual encodings of credentials: unpadded URL-safe base64 for keys,
signatures and whole credentials, and unpadded standard base32 for
identifiers.  The base64 decoder is the lenient one of Go: it skips carriage
returns and newlines and ignores the unused low bits of the last character.
The strict reading of the credentials is built from it and the encoder.
-/

namespace Tubo

/-! ## `base64.RawURLEncoding` -/

/-- The character of a six-bit value. -/
def base64Char (value : ℕ) : UInt8 :=
  if value < 26 then UInt8.ofNat (65 + value)
  else if value < 52 then UInt8.ofNat (71 + value)
  else if value < 62 then UInt8.ofNat (value - 4)
  else if value = 62 then 0x2D
  else 0x5F

/-- The six-bit value of a character. -/
def base64Value (character : UInt8) : Option ℕ :=
  let code := character.toNat
  if 65 ≤ code ∧ code ≤ 90 then some (code - 65)
  else if 97 ≤ code ∧ code ≤ 122 then some (code - 71)
  else if 48 ≤ code ∧ code ≤ 57 then some (code + 4)
  else if code = 0x2D then some 62
  else if code = 0x5F then some 63
  else none

/-- `base64.RawURLEncoding.EncodeToString`. -/
def rawURLEncode : Bytes → GoString
  | [] => []
  | [a] => [base64Char (a.toNat / 4), base64Char (a.toNat % 4 * 16)]
  | [a, b] =>
    [base64Char (a.toNat / 4), base64Char (a.toNat % 4 * 16 + b.toNat / 16),
      base64Char (b.toNat % 16 * 4)]
  | a :: b :: c :: rest =>
    base64Char (a.toNat / 4) :: base64Char (a.toNat % 4 * 16 + b.toNat / 16) ::
      base64Char (b.toNat % 16 * 4 + c.toNat / 64) ::
      base64Char (c.toNat % 64) :: rawURLEncode rest

theorem rawURLEncode_length_le (data : Bytes) : (rawURLEncode data).length ≤ 2 * data.length := by
  fun_induction rawURLEncode data with
  | case4 a b c rest ih =>
    simp only [List.length_cons]
    omega
  | _ => simp

theorem rawURLEncode_ne_nil {data : Bytes} (present : data ≠ []) : rawURLEncode data ≠ [] := by
  unfold rawURLEncode
  split <;> simp_all

/-- The bytes of a sequence of six-bit values; a single left-over value is an
error. -/
def base64Bytes : List ℕ → Option Bytes
  | [] => some []
  | [_] => none
  | [a, b] => some [UInt8.ofNat (a * 4 + b / 16)]
  | [a, b, c] =>
    some [UInt8.ofNat (a * 4 + b / 16), UInt8.ofNat (b % 16 * 16 + c / 4)]
  | a :: b :: c :: d :: rest =>
    (base64Bytes rest).map fun tail =>
      UInt8.ofNat (a * 4 + b / 16) :: UInt8.ofNat (b % 16 * 16 + c / 4) ::
        UInt8.ofNat (c % 4 * 64 + d) :: tail

/-- `base64.RawURLEncoding.DecodeString`. -/
def rawURLDecode (value : GoString) : Option Bytes :=
  ((value.filter fun byte => byte ≠ 0x0D ∧ byte ≠ 0x0A).mapM base64Value).bind base64Bytes

/-- The six-bit values of the text of some bytes. -/
def base64Sextets : Bytes → List ℕ
  | [] => []
  | [a] => [a.toNat / 4, a.toNat % 4 * 16]
  | [a, b] => [a.toNat / 4, a.toNat % 4 * 16 + b.toNat / 16, b.toNat % 16 * 4]
  | a :: b :: c :: rest =>
    a.toNat / 4 :: (a.toNat % 4 * 16 + b.toNat / 16) ::
      (b.toNat % 16 * 4 + c.toNat / 64) :: c.toNat % 64 :: base64Sextets rest

theorem rawURLEncode_eq_map (data : Bytes) :
    rawURLEncode data = (base64Sextets data).map base64Char := by
  fun_induction rawURLEncode data with
  | case4 a b c rest ih =>
    rw [base64Sextets, ih]
    rfl
  | _ => rfl

theorem base64Sextets_lt (data : Bytes) : ∀ value ∈ base64Sextets data, value < 64 := by
  fun_induction base64Sextets data with
  | case1 => simp
  | case2 a =>
    grind [UInt8.toNat_lt]
  | case3 a b =>
    grind [UInt8.toNat_lt]
  | case4 a b c rest ih =>
    grind [UInt8.toNat_lt]

theorem ofNat_eq_byte {n : ℕ} (a : UInt8) (same : n = a.toNat) : UInt8.ofNat n = a := by
  rw [same, UInt8.ofNat_toNat]

theorem base64Bytes_sextets (data : Bytes) : base64Bytes (base64Sextets data) = some data := by
  fun_induction base64Sextets data with
  | case1 => rfl
  | case2 a =>
    rw [base64Bytes, ofNat_eq_byte a (by omega)]
  | case3 a b =>
    have := b.toNat_lt
    rw [base64Bytes, ofNat_eq_byte a (by omega), ofNat_eq_byte b (by omega)]
  | case4 a b c rest ih =>
    have := a.toNat_lt
    have := b.toNat_lt
    have := c.toNat_lt
    rw [base64Bytes, ih, Option.map_some, ofNat_eq_byte a (by omega),
      ofNat_eq_byte b (by omega), ofNat_eq_byte c (by omega)]

theorem base64Char_reads : ∀ value < 64, base64Value (base64Char value) = some value ∧
      base64Char value ∉ ([0x0D, 0x0A, 0x09, 0x20, 0x3D] : Bytes) := by
  decide

/-- The text of some bytes has no blank, line break or padding. -/
theorem rawURLEncode_plain {data : Bytes} {byte : UInt8} (member : byte ∈ rawURLEncode data) :
    byte ∉ ([0x0D, 0x0A, 0x09, 0x20, 0x3D] : Bytes) := by
  grind [rawURLEncode_eq_map, base64Char_reads, base64Sextets_lt]

/-- **Round trip.** -/
theorem rawURLDecode_encode (data : Bytes) : rawURLDecode (rawURLEncode data) = some data := by
  have plain : (rawURLEncode data).filter
      (fun byte => byte ≠ 0x0D ∧ byte ≠ 0x0A) = rawURLEncode data := by
    refine List.filter_eq_self.mpr fun byte member => ?_
    have plain := rawURLEncode_plain member
    grind
  have values : (rawURLEncode data).mapM base64Value = some (base64Sextets data) := by
    rw [rawURLEncode_eq_map]
    have small := base64Sextets_lt data
    revert small
    induction base64Sextets data with
    | nil => exact fun _ => rfl
    | cons value rest ih =>
      grind [base64Char_reads]
  rw [rawURLDecode, plain, values]
  exact base64Bytes_sextets data

theorem rawURLEncode_injective {data other : Bytes}
    (same : rawURLEncode data = rawURLEncode other) : data = other := by
  grind [rawURLDecode_encode]

/-! ## `base32.StdEncoding.WithPadding(base32.NoPadding)` -/

/-- The character of a five-bit value. -/
def base32Char (value : ℕ) : UInt8 :=
  if value < 26 then UInt8.ofNat (65 + value) else UInt8.ofNat (24 + value)

/-- The bits of a byte, most significant first. -/
def byteBits (byte : UInt8) : List ℕ :=
  [byte.toNat / 128 % 2, byte.toNat / 64 % 2, byte.toNat / 32 % 2,
    byte.toNat / 16 % 2, byte.toNat / 8 % 2, byte.toNat / 4 % 2,
    byte.toNat / 2 % 2, byte.toNat % 2]

/-- Read bits five at a time, filling the last group with zeros. -/
def fiveBits : List ℕ → List ℕ
  | [] => []
  | [a] => [16 * a]
  | [a, b] => [16 * a + 8 * b]
  | [a, b, c] => [16 * a + 8 * b + 4 * c]
  | [a, b, c, d] => [16 * a + 8 * b + 4 * c + 2 * d]
  | a :: b :: c :: d :: e :: rest =>
    (16 * a + 8 * b + 4 * c + 2 * d + e) :: fiveBits rest

/-- `EncodeToString` of unpadded standard base32. -/
def base32Encode (data : Bytes) : GoString :=
  (fiveBits (data.flatMap byteBits)).map base32Char

theorem fiveBits_length (bits : List ℕ) : 5 * (fiveBits bits).length ≤ bits.length + 4 := by
  fun_induction fiveBits bits with
  | case6 a b c d e rest ih => simp; omega
  | _ => simp

theorem fiveBits_lt {bits : List ℕ} (binary : ∀ bit ∈ bits, bit < 2) :
    ∀ value ∈ fiveBits bits, value < 32 := by
  fun_induction fiveBits bits with
  | case6 a b c d e rest ih =>
    simp only [List.mem_cons, forall_eq_or_imp] at binary
    grind
  | _ => simp at binary ⊢ <;> omega

theorem byteBits_lt (byte : UInt8) : ∀ bit ∈ byteBits byte, bit < 2 := by
  simp only [byteBits, List.mem_cons, List.not_mem_nil, or_false]
  grind

/-- Base32 text of `n` bytes has at most `⌈8 n / 5⌉` characters. -/
theorem base32Encode_length (data : Bytes) :
    5 * (base32Encode data).length ≤ 8 * data.length + 4 := by
  have bits : (data.flatMap byteBits).length = 8 * data.length := by
    simp [byteBits, List.length_flatMap, Nat.mul_comm]
  have bound := fiveBits_length (data.flatMap byteBits)
  rw [bits] at bound
  simpa [base32Encode] using bound

/-- Lower-cased base32 text consists of letters and of digits. -/
theorem toLowerASCII_base32Encode (data : Bytes) : ∀ byte ∈ toLowerASCII (base32Encode data),
      (0x61 ≤ byte ∧ byte ≤ 0x7A) ∨ (0x30 ≤ byte ∧ byte ≤ 0x39) := by
  intro byte member
  simp only [toLowerASCII, base32Encode, List.map_map, List.mem_map] at member
  obtain ⟨value, present, rfl⟩ := member
  have binary : ∀ bit ∈ data.flatMap byteBits, bit < 2 := by
    intro bit bitMember
    obtain ⟨source, -, bitMember⟩ := List.mem_flatMap.mp bitMember
    exact byteBits_lt source bit bitMember
  have small := fiveBits_lt binary value present
  interval_cases value <;> decide

end Tubo
