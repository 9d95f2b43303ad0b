import Tubo.Go.Basics

/-!
# The pump of a session

The directions of `pumpCarrier` are one loop.  A `Read` is answered by a chunk and perhaps
an error, a `Write` by the number of bytes it accepted and whether it failed.
-/

namespace Tubo

inductive ReadError
  | eof | other

abbrev Reads := List (Bytes × Option ReadError)
abbrev Writes := List (ℕ × Bool)

/-- `writeAllToTarget` and `writeAllToCarrier`: the bytes accepted, the answers left, and
whether it returned without an error. -/
def writeAll : Writes → Bytes → Bytes × Writes × Option Bool
  | writes, [] => ([], writes, some true)
  | [], _ => ([], [], none)
  | (count, failed) :: writes, rest =>
    -- an error that comes with the last byte is dropped
    if failed then (rest.take count, writes, some (rest.length ≤ count))
    else
      let (more, left, done) := writeAll writes (rest.drop count)
      (rest.take count ++ more, left, done)

/-- The bytes accepted and counted, and what the direction returned: clean after
`CloseWrite`, not clean after `requestStop`. -/
structure Copied where
  accepted : Bytes
  counter : ℕ
  clean : Option Bool

def copyLoop : Reads → Writes → Copied
  | [], _ => ⟨[], 0, none⟩
  | (chunk, err) :: reads, writes =>
    match writeAll writes chunk, err with
    | (sent, _, none), _ => ⟨sent, 0, none⟩
    | (sent, _, some false), _ => ⟨sent, 0, some false⟩
    | (sent, _, some true), some .eof => ⟨sent, chunk.length, some true⟩
    | (sent, _, some true), some .other => ⟨sent, chunk.length, some false⟩
    | (sent, left, some true), none =>
      let later := copyLoop reads left
      ⟨sent ++ later.accepted, chunk.length + later.counter, later.clean⟩

def carrierToTarget : Reads → Writes → Copied := copyLoop
def targetToCarrier : Reads → Writes → Copied := copyLoop

/-- The bytes of a source up to its first error. -/
def readBytes : Reads → Bytes
  | [] => []
  | (chunk, err) :: reads => chunk ++ if err.isNone then readBytes reads else []

structure Copied.Faithful (copied : Copied) (reads : Reads) : Prop where
  accepted : copied.accepted <+: readBytes reads
  counter : copied.counter ≤ copied.accepted.length
  clean : copied.clean = some true → copied.accepted = readBytes reads ∧
    copied.counter = copied.accepted.length ∧ ∃ chunk, (chunk, some .eof) ∈ reads

theorem writeAll_accepted (writes : Writes) (rest : Bytes) :
    (writeAll writes rest).1 <+: rest ∧
      ((writeAll writes rest).2.2 = some true → (writeAll writes rest).1 = rest) := by
  fun_induction writeAll writes rest with
  | case1 | case2 => simp
  | case3 => simpa [List.take_prefix] using List.take_of_length_le
  | case4 count _ writes rest _ _ more _ _ equal ih =>
    obtain ⟨part, all⟩ := equal ▸ ih
    have split := List.take_append_drop count rest
    constructor
    · simpa only [split] using (List.prefix_append_right_inj (rest.take count)).mpr part
    · intro done
      rw [show more = rest.drop count from all done, split]

theorem copyLoop_faithful (reads : Reads) (writes : Writes) :
    (copyLoop reads writes).Faithful reads := by
  induction reads generalizing writes with
  | nil => exact ⟨List.prefix_rfl, Nat.le_refl _, nofun⟩
  | cons answer reads ih =>
    obtain ⟨chunk, err⟩ := answer
    obtain ⟨part, all⟩ := writeAll_accepted writes chunk
    rcases equal : writeAll writes chunk with ⟨sent, left, _ | _ | _⟩ <;> rw [equal] at part all
    iterate 2
      exact ⟨by simpa [copyLoop, equal, readBytes] using part.trans (List.prefix_append ..),
        by simp [copyLoop, equal], by simp [copyLoop, equal]⟩
    obtain rfl := all rfl
    have later := ih left
    rcases err with _ | _ | _ <;> constructor <;> simp [copyLoop, equal, readBytes] <;>
      grind [later.accepted, later.counter, later.clean]

/-- **The pump is faithful.**  The bytes accepted are always a prefix of the bytes read, and the
counter does not exceed them; a direction is clean only when everything up to the end of its
source was accepted. -/
theorem pump_faithful (carrier target : Reads) (toTarget toCarrier : Writes) :
    (carrierToTarget carrier toTarget).Faithful carrier ∧
      (targetToCarrier target toCarrier).Faithful target :=
  ⟨copyLoop_faithful carrier toTarget, copyLoop_faithful target toCarrier⟩

end Tubo
