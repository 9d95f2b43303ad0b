import Mathlib.Data.Nat.Basic
import Tubo.Go.Basics

/-!
# Package `unicode/utf8`

A rune is a number.  The encoder replaces a rune that is not a Unicode scalar value,
and the decoder accepts exactly the shortest encodings of scalar values; of anything
else it takes one byte.
-/

namespace Tubo

/-- `utf8.RuneError`. -/
def runeError : ℕ := 0xFFFD

/-- `utf8.ValidRune`. -/
def validRune (r : ℕ) : Bool :=
  r < 0xD800 || (0xE000 ≤ r && r ≤ 0x10FFFF)

/-- `utf8.AppendRune` to no bytes. -/
def encodeRune (r : ℕ) : Bytes :=
  if r < 0x80 then [UInt8.ofNat r]
  else if r < 0x800 then [UInt8.ofNat (0xC0 + r / 64), UInt8.ofNat (0x80 + r % 64)]
  else if validRune r = false then [0xEF, 0xBF, 0xBD]
  else if r < 0x10000 then
    [UInt8.ofNat (0xE0 + r / 4096), UInt8.ofNat (0x80 + r / 64 % 64), UInt8.ofNat (0x80 + r % 64)]
  else
    [UInt8.ofNat (0xF0 + r / 262144), UInt8.ofNat (0x80 + r / 4096 % 64),
      UInt8.ofNat (0x80 + r / 64 % 64), UInt8.ofNat (0x80 + r % 64)]

/-- The byte is in a range. -/
def within (low high : ℕ) (byte : UInt8) : Bool :=
  low ≤ byte.toNat && byte.toNat ≤ high

/-- The value of a continuation byte. -/
def tailBits (byte : UInt8) : ℕ := byte.toNat % 64

/-- `utf8.DecodeRune`: the first rune and the number of its bytes. -/
def decodeRune : Bytes → ℕ × ℕ
  | [] => (runeError, 0)
  | a :: rest =>
    let x := a.toNat
    if x < 0x80 then (x, 1)
    else if x < 0xC2 ∨ 0xF4 < x then (runeError, 1)
    else if x < 0xE0 then
      match rest with
      | b :: _ =>
        if within 0x80 0xBF b then (x % 32 * 64 + tailBits b, 2) else (runeError, 1)
      | _ => (runeError, 1)
    else if x < 0xF0 then
      match rest with
      | b :: c :: _ =>
        if within (if x = 0xE0 then 0xA0 else 0x80) (if x = 0xED then 0x9F else 0xBF) b
            && within 0x80 0xBF c then
          (x % 16 * 4096 + tailBits b * 64 + tailBits c, 3)
        else (runeError, 1)
      | _ => (runeError, 1)
    else
      match rest with
      | b :: c :: d :: _ =>
        if within (if x = 0xF0 then 0x90 else 0x80) (if x = 0xF4 then 0x8F else 0xBF) b
            && within 0x80 0xBF c && within 0x80 0xBF d then
          (x % 8 * 262144 + tailBits b * 4096 + tailBits c * 64 + tailBits d, 4)
        else (runeError, 1)
      | _ => (runeError, 1)

/-- The bytes are those of scalar values. -/
inductive ValidUTF8 : Bytes → Prop
  | nil : ValidUTF8 []
  | rune {r : ℕ} {rest : Bytes} (valid : validRune r = true) (more : ValidUTF8 rest) :
      ValidUTF8 (encodeRune r ++ rest)

/-! ## Round trip -/

theorem encodeRune_ascii {r : ℕ} (ascii : r < 0x80) : encodeRune r = [UInt8.ofNat r] :=
  if_pos ascii

theorem encodeRune_two {r : ℕ} (above : 0x80 ≤ r) (below : r < 0x800) :
    encodeRune r = [UInt8.ofNat (0xC0 + r / 64), UInt8.ofNat (0x80 + r % 64)] := by
  rw [encodeRune, if_neg (by omega), if_pos below]

theorem encodeRune_three {r : ℕ} (valid : validRune r = true) (above : 0x800 ≤ r)
    (below : r < 0x10000) :
    encodeRune r = [UInt8.ofNat (0xE0 + r / 4096), UInt8.ofNat (0x80 + r / 64 % 64),
      UInt8.ofNat (0x80 + r % 64)] := by
  rw [encodeRune, if_neg (by omega), if_neg (by omega), if_neg (by simp [valid]), if_pos below]

theorem encodeRune_four {r : ℕ} (valid : validRune r = true) (above : 0x10000 ≤ r) :
    encodeRune r = [UInt8.ofNat (0xF0 + r / 262144), UInt8.ofNat (0x80 + r / 4096 % 64),
      UInt8.ofNat (0x80 + r / 64 % 64), UInt8.ofNat (0x80 + r % 64)] := by
  rw [encodeRune, if_neg (by omega), if_neg (by omega), if_neg (by simp [valid]), if_neg (by omega)]

theorem toNat_ofNat_byte {n : ℕ} (small : n < 256) : (UInt8.ofNat n).toNat = n := by
  rw [UInt8.toNat_ofNat', Nat.mod_eq_of_lt small]

section Decode

variable {x y z w : ℕ} {rest : Bytes}

theorem decodeRune_two (low : 0xC2 ≤ x) (high : x < 0xE0) (isTail : 0x80 ≤ y ∧ y ≤ 0xBF) :
    decodeRune (UInt8.ofNat x :: UInt8.ofNat y :: rest) = (x % 32 * 64 + y % 64, 2) := by
  simp only [decodeRune, within, tailBits, toNat_ofNat_byte (show x < 256 by omega),
    toNat_ofNat_byte (show y < 256 by omega)]
  rw [if_neg (by omega), if_neg (by omega), if_pos high, if_pos (by simpa using isTail)]

theorem decodeRune_three (low : 0xE0 ≤ x) (high : x < 0xF0)
    (isSecond : (if x = 0xE0 then 0xA0 else 0x80) ≤ y ∧ y ≤ if x = 0xED then 0x9F else 0xBF)
    (isTail : 0x80 ≤ z ∧ z ≤ 0xBF) :
    decodeRune (UInt8.ofNat x :: UInt8.ofNat y :: UInt8.ofNat z :: rest) =
      (x % 16 * 4096 + y % 64 * 64 + z % 64, 3) := by
  have small : y < 256 := by
    have bound := isSecond.2
    split at bound <;> omega
  simp only [decodeRune, within, tailBits, toNat_ofNat_byte (show x < 256 by omega),
    toNat_ofNat_byte small, toNat_ofNat_byte (show z < 256 by omega)]
  grind

theorem decodeRune_four (low : 0xF0 ≤ x) (high : x ≤ 0xF4)
    (isSecond : (if x = 0xF0 then 0x90 else 0x80) ≤ y ∧ y ≤ if x = 0xF4 then 0x8F else 0xBF)
    (isThird : 0x80 ≤ z ∧ z ≤ 0xBF) (isTail : 0x80 ≤ w ∧ w ≤ 0xBF) :
    decodeRune (UInt8.ofNat x :: UInt8.ofNat y :: UInt8.ofNat z :: UInt8.ofNat w :: rest) =
      (x % 8 * 262144 + y % 64 * 4096 + z % 64 * 64 + w % 64, 4) := by
  have small : y < 256 := by
    have bound := isSecond.2
    split at bound <;> omega
  simp only [decodeRune, within, tailBits, toNat_ofNat_byte (show x < 256 by omega),
    toNat_ofNat_byte small, toNat_ofNat_byte (show z < 256 by omega),
    toNat_ofNat_byte (show w < 256 by omega)]
  grind

end Decode

/-- **Round trip.**  The first rune of an encoding is read back, whatever follows. -/
theorem decodeRune_encodeRune {r : ℕ} (valid : validRune r = true) (rest : Bytes) :
    decodeRune (encodeRune r ++ rest) = (r, (encodeRune r).length) := by
  have bounds := valid
  simp only [validRune, Bool.or_eq_true, Bool.and_eq_true, decide_eq_true_eq] at bounds
  rcases lt_or_ge r 0x80 with one | above
  · rw [encodeRune_ascii one]
    simp [decodeRune, toNat_ofNat_byte (show r < 256 by omega), one]
  rcases lt_or_ge r 0x800 with two | above'
  · rw [encodeRune_two above two]
    refine (decodeRune_two (by omega) (by omega) (by omega)).trans ?_
    rw [Prod.mk.injEq]
    exact ⟨by omega, rfl⟩
  rcases lt_or_ge r 0x10000 with three | above''
  · rw [encodeRune_three valid above' three]
    refine (decodeRune_three (by omega) (by omega) ?_ (by omega)).trans ?_
    · constructor <;> split <;> omega
    · rw [Prod.mk.injEq]
      exact ⟨by omega, rfl⟩
  · rw [encodeRune_four valid above'']
    refine (decodeRune_four (by omega) (by omega) ?_ (by omega) (by omega)).trans ?_
    · constructor <;> split <;> omega
    · rw [Prod.mk.injEq]
      exact ⟨by omega, rfl⟩

/-- Bytes below 0x80 are runes. -/
theorem ValidUTF8.of_ascii {text : Bytes} (ascii : ∀ byte ∈ text, byte < 0x80) :
    ValidUTF8 text := by
  induction text with
  | nil => exact .nil
  | cons byte rest ih =>
    rw [List.forall_mem_cons] at ascii
    have small : byte.toNat < 0x80 := ascii.1
    have isRune : validRune byte.toNat = true := by
      simp [validRune, show byte.toNat < 0xD800 by omega]
    have encoded : encodeRune byte.toNat = [byte] := by
      rw [encodeRune_ascii small, UInt8.ofNat_toNat]
    have more := ValidUTF8.rune isRune (ih ascii.2)
    rwa [encoded] at more

end Tubo
