import Mathlib.Data.List.AList
import Tubo.Domain.Model

/-!
# The state database

Package `internal/store`: the tables of `state.db` that the modelled code
reads or writes, at the current schema.

A table is an association list without duplicate keys, so the primary key
constraint is part of its type.  A new row goes to the front: the entries are
in decreasing order of `rowid`.  JSON columns hold the decoded value.
-/

namespace Tubo

/-- A table with primary key `κ`. -/
abbrev Table (κ ν : Type) := AList fun _ : κ => ν

/-- The current schema version. -/
def schemaVersion : ℕ := 14

/-! ## Keys and rows -/

/-- Primary key of `revocations`. -/
structure RevocationKey where
  scope : GoString
  subjectType : GoString
  subjectJTI : GoString
  deriving DecidableEq, Repr

/-- Row of `revocations`. -/
structure Revocation where
  revokedAt : GoString
  epoch : ℕ
  deriving DecidableEq, Repr

/-- Primary key of `invite_redemptions`. -/
structure RedemptionKey where
  jti : GoString
  pipeID : GoString
  deriving DecidableEq, Repr

/-- The discriminator of `invite_redemptions`: redeemed through the exact path
or as a Scope-based share. -/
inductive RedemptionKind
  | exact
  | scoped
  deriving DecidableEq, Repr

/-- Row of `invite_redemptions`. -/
structure Redemption where
  redeemedAt : GoString
  sessionID : GoString
  clientPublic : GoString
  kind : RedemptionKind
  deriving DecidableEq, Repr

/-- Primary key of `accepted_exact_relationships`. -/
structure RelationshipKey where
  pipeID : GoString
  recipientPublic : GoString
  deriving DecidableEq, Repr

/-- Row of `accepted_exact_relationships`. -/
structure Relationship where
  inviteJTI : GoString
  accessEpoch : ℕ
  acceptedAt : GoString
  updatedAt : GoString
  deriving DecidableEq, Repr

/-- Row of `pipes`; the key is the text of the reference. -/
structure PipeRow where
  pipeID : GoString
  spec : PipeSpec
  ownerKeyFile : GoString
  publishGrant : GoString
  deriving DecidableEq, Repr

/-- Row of `scopes`; the key is the name. -/
structure ScopeRow where
  authorityPublic : GoString
  authorityKeyFile : GoString
  namespaceKeyFile : GoString
  deriving DecidableEq, Repr

/-- Row of `memberships`; the key is the Scope. -/
structure Membership where
  role : GoString
  token : GoString
  authorityPublic : GoString
  authorityAddress : GoString
  clientKeyFile : GoString
  deriving DecidableEq, Repr

/-! ## The database -/

/-- The modelled tables, and the current Scope of the configuration file. -/
structure Store where
  revocations : Table RevocationKey Revocation := ∅
  inviteRedemptions : Table RedemptionKey Redemption := ∅
  acceptedExactRelationships : Table RelationshipKey Relationship := ∅
  pipes : Table GoString PipeRow := ∅
  scopes : Table GoString ScopeRow := ∅
  memberships : Table GoString Membership := ∅
  remotePipeBindings : Table GoString RemotePipeBinding := ∅
  exactLeaseCache : Table GoString AccessLeaseCache := ∅
  currentScope : GoString := []
  deriving DecidableEq

/-- A freshly created database. -/
def Store.empty : Store := {}

/-- `INSERT … ON CONFLICT DO NOTHING`, with the number of affected rows. -/
def Table.insertOrIgnore {κ ν : Type} [DecidableEq κ] (table : Table κ ν)
    (key : κ) (row : ν) : ℕ × Table κ ν :=
  match table.lookup key with
  | some _ => (0, table)
  | none => (1, table.insert key row)

section Table

variable {κ ν : Type} [DecidableEq κ] {table : Table κ ν} {key : κ}

theorem Table.insertOrIgnore_some {existing : ν} (row : ν)
    (present : table.lookup key = some existing) :
    Table.insertOrIgnore table key row = (0, table) := by
  simp [Table.insertOrIgnore, present]

theorem Table.insertOrIgnore_none (row : ν) (absent : table.lookup key = none) :
    Table.insertOrIgnore table key row = (1, table.insert key row) := by
  simp [Table.insertOrIgnore, absent]

/-- A row that is present stays, whatever is inserted. -/
theorem Table.insertOrIgnore_lookup_of_some {other : κ} {existing : ν}
    (row : ν) (present : table.lookup other = some existing) :
    (Table.insertOrIgnore table key row).2.lookup other = some existing := by
  unfold Table.insertOrIgnore
  split
  · exact present
  · rename_i absent
    have different : other ≠ key := by
      rintro rfl
      rw [present] at absent
      cases absent
    rw [AList.lookup_insert_ne different]
    exact present

/-- A row after `replace` is the new one or an old one. -/
theorem Table.lookup_replace {other : κ} {row found : ν}
    (present : (table.replace key row).lookup other = some found) :
    table.lookup other = some found ∨ found = row := by
  have split : ∀ entries : List (Sigma fun _ : κ => ν),
      ⟨other, found⟩ ∈ List.kreplace key row entries →
      ⟨other, found⟩ ∈ entries ∨ found = row := by
    intro entries
    induction entries with
    | nil => exact Or.inl
    | cons entry rest ih =>
      intro member
      by_cases same : key = entry.1
      · rw [List.kreplace, List.lookmap_cons_some _ _ (dif_pos same)] at member
        rcases List.mem_cons.mp member with isNew | old
        · cases isNew
          exact Or.inr rfl
        · exact Or.inl (List.mem_cons_of_mem _ old)
      · rw [List.kreplace, List.lookmap_cons_none _ _ (dif_neg same)] at member
        rcases List.mem_cons.mp member with isEntry | later
        · exact Or.inl (isEntry ▸ List.mem_cons_self)
        · exact (ih later).imp_left (List.mem_cons_of_mem _)
  exact (split _ (AList.mem_lookup_iff.mp present)).imp_left AList.mem_lookup_iff.mpr
end Table

end Tubo
