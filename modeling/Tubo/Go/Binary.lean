import Mathlib.Data.List.Induction
import Tubo.Go.Basics

/-!
# Binary data

Package `encoding/binary` in big-endian order, and slices of byte strings.  A slice outside
of its string panics.
-/

namespace Tubo

/-- `io.EOF`. -/
def ioEOF : GoError := .sentinel (str "EOF")

/-- `io.ErrUnexpectedEOF`. -/
def ioUnexpectedEOF : GoError := .sentinel (str "unexpected EOF")

/-! ## Slices -/

/-- The panic of a slice that is out of range. -/
def slicePanic : GoError := .sentinel (str "slice bounds out of range")

/-- `data[:n]` and `data[n:]`. -/
def cut (n : ℕ) (data : Bytes) : Except GoError (Bytes × Bytes) :=
  if n ≤ data.length then .ok (data.take n, data.drop n) else .error slicePanic

theorem cut_eq_ok {n : ℕ} {data first rest : Bytes} :
    cut n data = .ok (first, rest) ↔ first.length = n ∧ data = first ++ rest := by
  unfold cut
  constructor
  · intro isCut
    split at isCut
    · rename_i fits
      cases isCut
      exact ⟨List.length_take_of_le fits, (List.take_append_drop n data).symm⟩
    · cases isCut
  · rintro ⟨rfl, rfl⟩
    rw [if_pos (by simp), List.take_left, List.drop_left]

/-- The computation does not panic. -/
def Calm {α : Type} (outcome : Except GoError α) : Prop := outcome ≠ .error slicePanic

theorem Calm.bind {α β : Type} {first : Except GoError α} {next : α → Except GoError β}
    (calm : Calm first) (rest : ∀ value, Calm (next value)) : Calm (first >>= next) := by
  intro panics
  rcases bind_eq_error.mp panics with early | ⟨value, -, late⟩
  · exact calm early
  · exact rest value late

theorem calm_failIf {bad : Prop} [Decidable bad] {error : GoError} (other : error ≠ slicePanic) :
    Calm (failIf bad error) := by
  intro panics
  exact other (failIf_eq_error.mp panics).2

theorem calm_ok {α : Type} (value : α) : Calm (.ok value) := nofun

/-! ## Numbers -/

/-- A number in some bytes, the highest first; higher digits are cut off. -/
def bigEndian : ℕ → ℕ → Bytes
  | 0, _ => []
  | width + 1, value => bigEndian width (value / 256) ++ [UInt8.ofNat value]

/-- The number in some bytes. -/
def bigEndianValue (data : Bytes) : ℕ :=
  data.foldl (fun value byte => value * 256 + byte.toNat) 0

@[simp]
theorem bigEndian_length (width value : ℕ) : (bigEndian width value).length = width := by
  induction width generalizing value with
  | zero => rfl
  | succ width ih => rw [bigEndian, List.length_append, ih, List.length_singleton]

theorem bigEndianValue_concat (data : Bytes) (byte : UInt8) :
    bigEndianValue (data ++ [byte]) = bigEndianValue data * 256 + byte.toNat := by
  simp [bigEndianValue]

theorem bigEndianValue_bigEndian {width value : ℕ} (bound : value < 256 ^ width) :
    bigEndianValue (bigEndian width value) = value := by
  induction width generalizing value with
  | zero =>
    obtain rfl : value = 0 := by simpa using bound
    rfl
  | succ width ih =>
    have smaller : value / 256 < 256 ^ width := by
      rw [Nat.div_lt_iff_lt_mul (by decide), ← pow_succ]
      exact bound
    rw [bigEndian, bigEndianValue_concat, ih smaller, UInt8.toNat_ofNat']
    omega

theorem bigEndian_bigEndianValue (data : Bytes) :
    bigEndian data.length (bigEndianValue data) = data := by
  induction data using List.reverseRecOn with
  | nil => rfl
  | append_singleton data byte ih =>
    have below := byte.toNat_lt
    have last : UInt8.ofNat (bigEndianValue data * 256 + byte.toNat) = byte := by
      apply UInt8.toNat_inj.mp
      rw [UInt8.toNat_ofNat']
      omega
    have others : (bigEndianValue data * 256 + byte.toNat) / 256 = bigEndianValue data := by omega
    rw [List.length_append, List.length_singleton, bigEndian, bigEndianValue_concat, last, others,
      ih]

theorem bigEndianValue_lt (data : Bytes) : bigEndianValue data < 256 ^ data.length := by
  induction data using List.reverseRecOn with
  | nil => decide
  | append_singleton data byte ih =>
    have below := byte.toNat_lt
    rw [bigEndianValue_concat, List.length_append, List.length_singleton, pow_succ]
    omega

end Tubo
