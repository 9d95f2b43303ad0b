import Tubo.Discovery.Record

/-!
# Possession proofs do not collide

`SignProof` of the packages `accesslease` and `authority` signs a purpose and its parts, joined
with NUL bytes and without lengths.  Several of the parts are chosen by the other side, so a
part may hold NUL bytes itself; what keeps the messages apart is that each purpose has a fixed
number of parts.

* `join_inj` — separators are counted: a text joined from clean parts is joined from no other
  parts of the same number.
* `possession_proofs_distinct` — the messages of the four purposes.
-/

namespace Tubo

/-! ## Joined texts -/

section Join

variable {separator : UInt8} {parts others : List GoString}

/-- The separators of a joined text are those between the parts and those within them. -/
theorem count_join (present : parts ≠ []) : (join separator parts).count separator + 1 =
    (parts.map (List.count separator)).sum + parts.length := by
  induction parts with
  | nil => exact absurd rfl present
  | cons first rest ih =>
    cases rest with
    | nil => simp [join, List.intercalate]
    | cons second rest =>
      have more := ih (List.cons_ne_nil second rest)
      have split : join separator (first :: second :: rest) =
          first ++ separator :: join separator (second :: rest) := by
        simp [join, List.intercalate_cons_cons]
      rw [split, List.count_append, List.count_cons_self, List.map_cons, List.sum_cons,
        List.length_cons]
      omega

/-- What stands before the first separator. -/
theorem append_cons_inj {first second rest more : Bytes} (clean : separator ∉ first)
    (cleanToo : separator ∉ second) (same : first ++ separator :: rest = second ++ separator :: more) :
    first = second ∧ rest = more := by
  have before : ∀ {text : Bytes} (after : Bytes), separator ∉ text →
      (text ++ separator :: after).takeWhile (· != separator) = text := by
    intro text after noSeparator
    rw [List.takeWhile_append_of_pos]
    · simp
    · intro byte member
      exact bne_iff_ne.mpr fun isSeparator => noSeparator (isSeparator ▸ member)
  obtain rfl : first = second := by
    rw [← before rest clean, same, before more cleanToo]
  exact ⟨rfl, (List.cons.inj (List.append_cancel_left same)).2⟩

/-- A text that is joined from clean parts is joined from no other parts of the same number. -/
theorem join_inj (clean : ∀ part ∈ parts, separator ∉ part) (number : parts.length = others.length)
    (same : join separator parts = join separator others) : parts = others := by
  by_cases present : parts = []
  · subst present
    exact (List.length_eq_zero_iff.mp number.symm).symm
  have presentToo : others ≠ [] := by
    rintro rfl
    exact present (List.length_eq_zero_iff.mp number)
  have none : (parts.map (List.count separator)).sum = 0 := by
    refine List.sum_eq_zero_iff_forall_eq_nat.mpr ?_
    simpa [List.count_eq_zero] using clean
  -- both texts have the same separators, so the other parts have none
  have noneToo : (others.map (List.count separator)).sum = 0 := by
    have counted := @count_join separator _ present
    have countedToo := @count_join separator _ presentToo
    rw [same] at counted
    omega
  have cleanToo : ∀ part ∈ others, separator ∉ part := by
    have each := List.sum_eq_zero_iff_forall_eq_nat.mp noneToo
    simpa [List.count_eq_zero] using each
  rw [← List.splitOn_intercalate separator clean present,
    ← List.splitOn_intercalate separator cleanToo presentToo]
  exact congrArg _ same

end Join

/-! ## The messages -/

/-- What a possession proof is made for. -/
inductive ProofPurpose
  | openPipe
  | exactRedeem
  | exactRenew
  | scopeAuthority
  deriving DecidableEq, Repr

namespace ProofPurpose

def text : ProofPurpose → GoString
  | openPipe => openProofPurpose
  | exactRedeem => redeemProofPurpose
  | exactRenew => renewProofPurpose
  | scopeAuthority => str "tubo-authority-v2"

/-- The number of parts: challenge and Pipe; invite, Pipe and challenge; Pipe and challenge;
operation, Pipe, nonce and invite. -/
def arity : ProofPurpose → ℕ
  | openPipe => 2
  | exactRedeem => 3
  | exactRenew => 2
  | scopeAuthority => 4

theorem text_clean (purpose : ProofPurpose) : 0 ∉ purpose.text := by
  cases purpose <;> decide

theorem text_injective : Function.Injective text := by
  intro purpose other
  cases purpose <;> cases other <;> decide

end ProofPurpose

/-- What a possession proof says: a purpose, with as many parts as it takes. -/
structure Possession where
  purpose : ProofPurpose
  parts : List GoString
  fixed : parts.length = purpose.arity

namespace Possession

/-- The signed message. -/
def message (p : Possession) : Bytes := proofMessage p.purpose.text p.parts

/-- No part holds a NUL byte. -/
def NulFree (p : Possession) : Prop := ∀ part ∈ p.parts, 0 ∉ part

/-- The purpose is what stands before the first NUL byte. -/
theorem message_purpose {p other : Possession} (same : p.message = other.message) :
    p.purpose = other.purpose ∧ join 0 p.parts = join 0 other.parts := by
  simp only [message, proofMessage, List.append_assoc, List.singleton_append] at same
  obtain ⟨samePurpose, sameParts⟩ :=
    append_cons_inj p.purpose.text_clean other.purpose.text_clean same
  exact ⟨ProofPurpose.text_injective samePurpose, sameParts⟩

theorem eq_of_message {p other : Possession} (clean : p.NulFree)
    (same : p.message = other.message) : p = other := by
  obtain ⟨samePurpose, joined⟩ := message_purpose same
  have sameParts : p.parts = other.parts := by
    apply join_inj clean _ joined
    rw [p.fixed, other.fixed, samePurpose]
  cases p
  cases other
  cases samePurpose
  cases sameParts
  rfl

end Possession

/-! ## Verification -/

section Verification

variable {prim : Primitives} {key signature : Bytes} {p : Possession}

/-- A canonical text stands for one signature only. -/
theorem verifyProof_rawURLEncode
    (verified : verifyProof prim key (rawURLEncode signature) p.purpose.text p.parts = true) :
    prim.verify key p.message signature = true := by
  obtain ⟨value, decoded, accepted⟩ := verifyProof_eq_true prim verified
  rw [← rawURLEncode_injective (decodeSignature_canonical decoded).1]
  exact accepted

theorem authorityVerifyProof_rawURLEncode
    (verified : authorityVerifyProof prim key (rawURLEncode signature) p.purpose.text p.parts =
      true) : prim.verify key p.message signature = true := by
  rw [authorityVerifyProof, rawURLDecode_encode] at verified
  exact verified

end Verification

/-- **Possession proofs never collide.**  Messages of different purposes differ; within a purpose
a message of clean parts belongs to no other parts; so if a signature verifies only for the
message it was made for, a proof verifies for no clean parts but its own. -/
theorem possession_proofs_distinct :
    (∀ p other : Possession, p.purpose ≠ other.purpose → p.message ≠ other.message) ∧
    (∀ p other : Possession, p.purpose = other.purpose → p.message = other.message →
      p.NulFree ∨ other.NulFree → p = other) ∧
    ∀ (prim : Primitives) (key secret : Bytes),
      (∀ message other, prim.verify key other (prim.sign secret message) = true →
        other = message) →
      ∀ made checked : Possession, checked.NulFree →
        (verifyProof prim key (signProof prim secret made.purpose.text made.parts)
            checked.purpose.text checked.parts = true ∨
          authorityVerifyProof prim key (signProof prim secret made.purpose.text made.parts)
            checked.purpose.text checked.parts = true) → checked = made := by
  refine ⟨?_, ?_, ?_⟩
  · intro p other different same
    exact different (Possession.message_purpose same).1
  · rintro p other - same (clean | clean)
    · exact Possession.eq_of_message clean same
    · exact (Possession.eq_of_message clean same.symm).symm
  · intro prim key secret binding made checked clean verified
    apply Possession.eq_of_message clean
    apply binding
    rcases verified with verified | verified
    · exact verifyProof_rawURLEncode verified
    · exact authorityVerifyProof_rawURLEncode verified

end Tubo
