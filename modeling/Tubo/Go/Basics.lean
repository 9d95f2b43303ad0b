import Mathlib.Algebra.Group.Int.Defs
import Mathlib.Algebra.Group.Nat.Defs
import Mathlib.Data.List.Basic

/-!
# Go strings and errors

The parts of the Go language and of its packages `strings` and `errors` that
the modelled code uses.  A Go string is an arbitrary byte sequence, so it is a
list of bytes here, and `len` is the number of bytes.
-/

namespace Tubo

/-- A byte slice. -/
abbrev Bytes := List UInt8

/-- A Go string: an arbitrary sequence of bytes. -/
abbrev GoString := List UInt8

instance goStringLawfulBEq : LawfulBEq GoString := inferInstance

/-- The Go string of a literal: its UTF-8 encoding. -/
def str (literal : String) : GoString :=
  literal.toByteArray.data.toList

/-! ## Package `strings` -/

/-- The UTF-8 encodings of the runes for which `unicode.IsSpace` holds. -/
def spaceRunes : List GoString :=
  [[0x09], [0x0A], [0x0B], [0x0C], [0x0D], [0x20], [0xC2, 0x85], [0xC2, 0xA0],
    [0xE1, 0x9A, 0x80]] ++
  (List.range 11).map (fun i => [0xE2, 0x80, 0x80 + UInt8.ofNat i]) ++
  [[0xE2, 0x80, 0xA8], [0xE2, 0x80, 0xA9], [0xE2, 0x80, 0xAF],
    [0xE2, 0x81, 0x9F], [0xE3, 0x80, 0x80]]

/-- Remove leading occurrences of the given patterns; `fuel` bounds their
number. -/
def trimStart (patterns : List GoString) : ℕ → GoString → GoString
  | 0, value => value
  | fuel + 1, value =>
    match patterns.find? (·.isPrefixOf value) with
    | some pattern => trimStart patterns fuel (value.drop pattern.length)
    | none => value

/-- `strings.TrimSpace`. -/
def trimSpace (value : GoString) : GoString :=
  let front := trimStart spaceRunes value.length value
  (trimStart (spaceRunes.map List.reverse) front.length front.reverse).reverse

/-- `strings.TrimSpace(value) == ""`. -/
def blank (value : GoString) : Bool :=
  trimSpace value == []

@[simp]
theorem trimSpace_nil : trimSpace [] = [] := rfl

@[simp]
theorem blank_nil : blank [] = true := rfl

variable {value : GoString} {bad : Prop} {α β : Type}

/-- A string that is not blank is not empty. -/
theorem ne_nil_of_not_blank (solid : blank value = false) : value ≠ [] := by
  rintro rfl
  simp at solid

/-- Trimming at the front leaves an end of the string. -/
theorem trimStart_suffix (patterns : List GoString) (fuel : ℕ)
    (value : GoString) : trimStart patterns fuel value <:+ value := by
  induction fuel generalizing value with
  | zero => exact List.suffix_rfl
  | succ fuel ih =>
    unfold trimStart
    split
    · exact (ih _).trans (List.drop_suffix _ _)
    · exact List.suffix_rfl

theorem trimSpace_length_le (value : GoString) : (trimSpace value).length ≤ value.length := by
  have front := (trimStart_suffix spaceRunes value.length value).length_le
  refine Nat.le_trans ?_ front
  rw [trimSpace, List.length_reverse]
  exact Nat.le_trans (trimStart_suffix _ _ _).length_le (Nat.le_of_eq List.length_reverse)

/-- No space rune begins with this byte. -/
def solidByte (byte : UInt8) : Bool :=
  spaceRunes.all fun rune => rune.head?.any (· != byte)

/-- A string that does not begin with a space is trimmed only at its end. -/
theorem trimSpace_initial {first : UInt8} (rest : GoString) (solid : solidByte first = true) :
    trimSpace (first :: rest) <+: first :: rest := by
  have untouched : trimStart spaceRunes (first :: rest).length (first :: rest) = first :: rest := by
    have noRune : spaceRunes.find? (·.isPrefixOf (first :: rest)) = none := by
      rw [List.find?_eq_none]
      intro rune member
      have different := List.all_eq_true.mp solid rune member
      cases rune with
      | nil => simp at different
      | cons head tail =>
        have notFirst : head ≠ first := by simpa using different
        simp [notFirst]
    rw [List.length_cons, trimStart, noRune]
  have trimmed := trimStart_suffix (spaceRunes.map List.reverse)
    (first :: rest).length (first :: rest).reverse
  rw [trimSpace, untouched]
  rw [← List.reverse_prefix, List.reverse_reverse] at trimmed
  exact trimmed

/-- No space rune contains this byte. -/
def inkByte (byte : UInt8) : Bool :=
  spaceRunes.all fun rune => !rune.contains byte

/-- Trimming never removes a byte that is in none of the patterns. -/
theorem mem_trimStart {patterns : List GoString} {byte : UInt8}
    (foreign : ∀ pattern ∈ patterns, byte ∉ pattern) (fuel : ℕ)
    (member : byte ∈ value) : byte ∈ trimStart patterns fuel value := by
  induction fuel generalizing value with
  | zero => exact member
  | succ fuel ih =>
    unfold trimStart
    split
    · rename_i pattern found
      have isInitial := List.find?_some found
      obtain ⟨rest, rfl⟩ := List.isPrefixOf_iff_prefix.mp isInitial
      apply ih
      rw [List.drop_left]
      refine (List.mem_append.mp member).resolve_left ?_
      exact foreign pattern (List.mem_of_find?_eq_some found)
    · exact member

/-- A string with a byte of ink is not blank. -/
theorem blank_of_ink {byte : UInt8} (ink : inkByte byte = true)
    (member : byte ∈ value) : blank value = false := by
  have foreign : ∀ rune ∈ spaceRunes, byte ∉ rune := by
    intro rune isRune
    simpa using List.all_eq_true.mp ink rune isRune
  have backwards : ∀ rune ∈ spaceRunes.map List.reverse, byte ∉ rune := by
    intro rune isRune
    obtain ⟨source, isSource, rfl⟩ := List.mem_map.mp isRune
    rw [List.mem_reverse]
    exact foreign source isSource
  have front := mem_trimStart foreign value.length member
  have trimmed : byte ∈ trimSpace value := by
    rw [trimSpace, List.mem_reverse]
    exact mem_trimStart backwards _ (List.mem_reverse.mpr front)
  rw [blank, beq_eq_false_iff_ne]
  exact List.ne_nil_of_mem trimmed

/-- `strings.HasPrefix`. -/
def hasPrefix (value initial : GoString) : Bool :=
  initial.isPrefixOf value

/-- `strings.ContainsAny`. -/
def containsAny (value characters : GoString) : Bool :=
  value.any (characters.contains ·)

/-- `strings.Split(value, separator)` for a one-byte separator. -/
def split (separator : UInt8) : GoString → List GoString
  | [] => [[]]
  | byte :: rest =>
    if byte = separator then [] :: split separator rest
    else match split separator rest with
      | [] => [[byte]]
      | head :: tail => (byte :: head) :: tail

/-- `strings.Join(parts, separator)` for a one-byte separator. -/
def join (separator : UInt8) (parts : List GoString) : GoString :=
  List.intercalate [separator] parts

/-- `strings.ToLower` on ASCII text. -/
def toLowerASCII (value : GoString) : GoString :=
  value.map fun byte => if 0x41 ≤ byte ∧ byte ≤ 0x5A then byte + 0x20 else byte

/-! ## Package `errors` -/

/-- A Go error value.  `errors.Is` distinguishes a package-level sentinel from
another error with the same text; `wrap` is `fmt.Errorf` with one `%w` verb and
the texts before and after it, and `join` is `errors.Join` of two errors. -/
inductive GoError
  | new (text : GoString)
  | sentinel (text : GoString)
  | wrap (before : GoString) (cause : GoError) (after : GoString)
  | join (first second : GoError)
  deriving DecidableEq, Repr

/-- `errors.New` of a literal. -/
def errorsNew (text : String) : GoError :=
  .new (str text)

/-- `errors.Is`. -/
def GoError.is : GoError → GoError → Bool
  | .wrap before cause after, target =>
    .wrap before cause after == target || cause.is target
  | .join first second, target =>
    .join first second == target || first.is target || second.is target
  | error, target => error == target

/-- The text of an error. -/
def GoError.error : GoError → GoString
  | .new text => text
  | .sentinel text => text
  | .wrap before cause after => before ++ cause.error ++ after
  | .join first second => first.error ++ str "\n" ++ second.error

/-- `if bad { return err }`. -/
def failIf (bad : Prop) [Decidable bad] (error : GoError) : Except GoError Unit :=
  if bad then .error error else .ok ()

variable {error : GoError}

@[simp]
theorem failIf_eq_ok [Decidable bad] {value : Unit} : failIf bad error = .ok value ↔ ¬bad := by
  unfold failIf
  split <;> simp_all

theorem failIf_of_not [Decidable bad] (fine : ¬bad) : failIf bad error = .ok () :=
  if_neg fine

theorem failIf_eq_error [Decidable bad] {error' : GoError} :
    failIf bad error = .error error' ↔ bad ∧ error = error' := by
  unfold failIf
  split <;> simp_all

theorem ok_bind (value : α) (next : α → Except GoError β) :
    (Except.ok value >>= next) = next value := rfl

/-- A sequence of fallible steps succeeds exactly if each step does. -/
@[simp]
theorem bind_eq_ok {first : Except GoError α} {next : α → Except GoError β} {result : β} :
    (first >>= next) = .ok result ↔ ∃ value, first = .ok value ∧ next value = .ok result := by
  cases first with
  | error error => simp [bind, Except.bind]
  | ok value => simp [bind, Except.bind]

/-- A sequence of fallible steps fails where its first step that fails does. -/
theorem bind_eq_error {first : Except GoError α} {next : α → Except GoError β} :
    (first >>= next) = .error error ↔ first = .error error ∨
      ∃ value, first = .ok value ∧ next value = .error error := by
  cases first with
  | error error => simp [bind, Except.bind]
  | ok value => simp [bind, Except.bind]

/-- The function returned an error. -/
def Refused {α : Type} (outcome : Except GoError α) : Prop :=
  ∃ error, outcome = .error error

theorem not_refused_iff {outcome : Except GoError α} :
    ¬Refused outcome ↔ ∃ value, outcome = .ok value := by
  cases outcome with
  | error error => simp [Refused]
  | ok value => simp [Refused]

/-! ## Fixed-width integers -/

/-- The number of values of `uint64`. -/
def uint64Size : ℕ := 2 ^ 64

/-- `database/sql` passes a `uint64` argument on only if its high bit is
clear. -/
def int64Size : ℕ := 2 ^ 63

/-! ## Package `fmt` -/

/-- `fmt.Errorf` with `%w` at the end, for a call that failed. -/
def errorf {α : Type} (before : String) : Except GoError α → Except GoError α
  | .ok value => .ok value
  | .error error => .error (.wrap (str before) error [])

@[simp]
theorem errorf_eq_ok {before : String} {result : Except GoError α}
    {value : α} : errorf before result = .ok value ↔ result = .ok value := by
  cases result <;> simp [errorf]

theorem errorf_eq_error {before : String} {result : Except GoError α} :
    errorf before result = .error error ↔
      ∃ cause, result = .error cause ∧ .wrap (str before) cause [] = error := by
  cases result <;> simp [errorf]

end Tubo
