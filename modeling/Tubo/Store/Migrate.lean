import Tubo.Store.Growth

/-!
# Opening an older database

Package `internal/store`, `Store.migrate`: what opening a database of an older
schema makes of the redemptions and of the accepted relationships.

Before schema 13 there were no accepted relationships; they are reconstructed
from the latest redemption of each recipient.  Before schema 14 a redemption did
not say through which path it happened; the new column gets its default, so
every older redemption counts as Scope-based from then on.  `Store.Backed`
follows both facts through everything that is redeemed later.
-/

namespace Tubo

/-! ## Databases of any schema -/

/-- A row of `invite_redemptions` before schema 14. -/
structure UnmarkedRedemption where
  redeemedAt : GoString
  sessionID : GoString
  clientPublic : GoString
  deriving DecidableEq, Repr

/-- `ALTER TABLE invite_redemptions ADD COLUMN kind … DEFAULT 'scoped'`, on one
row. -/
def UnmarkedRedemption.withDefaultKind (row : UnmarkedRedemption) : Redemption :=
  ⟨row.redeemedAt, row.sessionID, row.clientPublic, .scoped⟩

/-- Change every row of a table, and no key. -/
def Table.mapRows {κ ν μ : Type} (f : ν → μ) (table : Table κ ν) : Table κ μ where
  entries := table.entries.map (.map id fun _ => f)
  nodupKeys := by
    have sameKeys : (table.entries.map
        (.map id fun _ => f) : List (Σ _ : κ, μ)).keys = table.keys := by
      simp [List.keys, AList.keys, Function.comp_def, Sigma.map]
    rw [List.NodupKeys, sameKeys]
    exact table.nodupKeys

theorem Table.mapRows_lookup {κ ν μ : Type} [DecidableEq κ] (f : ν → μ)
    (table : Table κ ν) (key : κ) : (Table.mapRows f table).lookup key = (table.lookup key).map f :=
  List.dlookup_map₂ key

/-- The redemptions of a database, with or without the column `kind`. -/
inductive RedemptionRows
  | unmarked (rows : Table RedemptionKey UnmarkedRedemption)
  | marked (rows : Table RedemptionKey Redemption)

/-- The redemptions after the column is there. -/
def RedemptionRows.withKind : RedemptionRows → Table RedemptionKey Redemption
  | .unmarked rows => Table.mapRows UnmarkedRedemption.withDefaultKind rows
  | .marked rows => rows

/-- A database of any schema; `version` is the largest recorded one.  A
relationship was always written together with the redemption behind it. -/
structure Database where
  version : Option ℕ
  redemptions : RedemptionRows
  relationships : Table RelationshipKey Relationship
  revocations : Table RevocationKey Revocation
  pipes : Table GoString PipeRow
  scopes : Table GoString ScopeRow
  memberships : Table GoString Membership
  remotePipeBindings : Table GoString RemotePipeBinding
  exactLeaseCache : Table GoString AccessLeaseCache
  currentScope : GoString
  backed : ∀ key row, relationships.lookup key = some row →
    ∃ redemption, redemptions.withKind.lookup ⟨row.inviteJTI, key.pipeID⟩ = some redemption

/-! ## `migrate` -/

/-- The latest redemption of a recipient at a Pipe: `ORDER BY redeemed_at DESC,
rowid DESC LIMIT 1`.  The rows are in decreasing order of `rowid`, so an equal
text does not displace an earlier find. -/
def latestRedemption (rows : Table RedemptionKey Redemption) (pipeID clientPublic : GoString) :
    Option (Σ _ : RedemptionKey, Redemption) :=
  rows.entries.foldl (fun best entry =>
    if entry.1.pipeID = pipeID ∧ entry.2.clientPublic = clientPublic then
      match best with
      | none => some entry
      | some latest =>
        if latest.2.redeemedAt < entry.2.redeemedAt then some entry else best
    else best) none

/-- One row of the backfill: the relationship of the latest redemption, at the
legacy epoch. -/
def backfillRow (rows : Table RedemptionKey Redemption) (entry : Σ _ : RedemptionKey, Redemption)
    (relationships : Table RelationshipKey Relationship) : Table RelationshipKey Relationship :=
  if (latestRedemption rows entry.1.pipeID entry.2.clientPublic).map (·.1) = some entry.1 then
    (Table.insertOrIgnore relationships ⟨entry.1.pipeID, entry.2.clientPublic⟩
      ⟨entry.1.jti, 0, entry.2.redeemedAt, entry.2.redeemedAt⟩).2
  else relationships

/-- The backfill of schema 13, from the oldest row to the newest. -/
def backfill (rows : Table RedemptionKey Redemption)
    (relationships : Table RelationshipKey Relationship) : Table RelationshipKey Relationship :=
  rows.entries.foldr (backfillRow rows) relationships

/-- `migrate`. -/
def migrate (db : Database) : Except GoError Store := do
  let currentSchema := db.version.getD 0
  failIf (schemaVersion < currentSchema)
    (.new (str "state schema " ++ str (toString currentSchema) ++
      str " is newer than supported schema " ++
      str (toString schemaVersion)))
  let redemptions := db.redemptions.withKind
  return {
    revocations := db.revocations
    inviteRedemptions := redemptions
    acceptedExactRelationships :=
      if 0 < currentSchema ∧ currentSchema < 13 then
        backfill redemptions db.relationships
      else db.relationships
    pipes := db.pipes
    scopes := db.scopes
    memberships := db.memberships
    remotePipeBindings := db.remotePipeBindings
    exactLeaseCache := db.exactLeaseCache
    currentScope := db.currentScope }

/-- A relationship after the backfill was there before, or comes from a
redemption. -/
theorem backfill_lookup {rows : Table RedemptionKey Redemption}
    {relationships : Table RelationshipKey Relationship} {key : RelationshipKey}
    {row : Relationship} (found : (backfill rows relationships).lookup key = some row) :
    relationships.lookup key = some row ∨ ∃ entry ∈ rows.entries, entry.1.pipeID = key.pipeID ∧
        entry.1.jti = row.inviteJTI := by
  unfold backfill at found
  -- The induction is on the rows still to be read; the rows that decide which
  -- redemption is the latest stay the whole table.
  generalize rows.entries = entries at found ⊢
  induction entries with
  | nil => exact Or.inl found
  | cons entry rest ih =>
    rw [List.foldr_cons] at found
    unfold backfillRow at found
    have later : (List.foldr (backfillRow rows) relationships rest).lookup key = some row →
        relationships.lookup key = some row ∨ ∃ other ∈ entry :: rest, other.1.pipeID = key.pipeID ∧
            other.1.jti = row.inviteJTI := by
      grind
    split at found
    · unfold Table.insertOrIgnore at found
      split at found
      · exact later found
      · by_cases same : key = ⟨entry.1.pipeID, entry.2.clientPublic⟩
        · grind [AList.lookup_insert]
        · rw [AList.lookup_insert_ne same] at found
          exact later found
    · exact later found

/-! ## What is redeemed later -/

/-- A redemption through either path that succeeds. -/
inductive Store.Redeems : Store → Store → Prop
  | accept {s after : Store} {jti pipeID sessionID clientPublic : GoString}
      {accessEpoch : ℕ} {now : Time} {won : Bool}
      (accepted : s.redeemInviteAndAccept jti pipeID sessionID clientPublic
        accessEpoch now = .ok (won, after)) : Store.Redeems s after
  | share (s : Store) (jti pipeID sessionID clientPublic : GoString)
      (now : Time) :
      Store.Redeems s (s.insertRedemption jti pipeID sessionID clientPublic now).2

/-- Any number of redemptions. -/
abbrev Store.RedeemsTo := Relation.ReflTransGen Store.Redeems

/-- The redemptions of the opened database stay as they are, and a relationship
rests on one of them or on a redemption that is marked as exact. -/
structure Store.Backed (rows : Table RedemptionKey Redemption) (s : Store) :
    Prop where
  kept : ∀ key row, rows.lookup key = some row → s.inviteRedemptions.lookup key = some row
  backed : ∀ key row, s.acceptedExactRelationships.lookup key = some row → ∃ redemption,
      s.inviteRedemptions.lookup ⟨row.inviteJTI, key.pipeID⟩ = some redemption ∧
      (redemption.kind = .exact ∨ rows.lookup ⟨row.inviteJTI, key.pipeID⟩ = some redemption)

theorem migrate_backed {db : Database} {s : Store}
    (opened : migrate db = .ok s) : s.Backed db.redemptions.withKind := by
  unfold migrate at opened
  simp only [bind_eq_ok, failIf_eq_ok] at opened
  obtain ⟨-, -, opened⟩ := opened
  cases opened
  refine ⟨fun _ _ present => present, ?_⟩
  have inherited : ∀ key row, db.relationships.lookup key = some row → ∃ redemption,
        db.redemptions.withKind.lookup ⟨row.inviteJTI, key.pipeID⟩ = some redemption ∧
        (redemption.kind = .exact ∨ db.redemptions.withKind.lookup ⟨row.inviteJTI, key.pipeID⟩ =
            some redemption) := by
    grind [Database.backed]
  intro key row found
  split at found
  · rcases backfill_lookup found with old | ⟨entry, member, samePipe, sameJTI⟩
    · exact inherited key row old
    · have present : db.redemptions.withKind.lookup ⟨row.inviteJTI, key.pipeID⟩ = some entry.2 := by
        rw [← samePipe, ← sameJTI]
        exact AList.mem_lookup_iff.mpr member
      exact ⟨entry.2, present, Or.inr present⟩
  · exact inherited key row found

namespace Store.Redeems

variable {s after : Store}

theorem grows (redeems : s.Redeems after) : s.Grows after := by
  cases redeems with
  | accept accepted => exact redeemInviteAndAccept_grows accepted
  | share => exact insertRedemption_grows s _ _ _ _ _

theorem revocations (redeems : s.Redeems after) : after.revocations = s.revocations := by
  cases redeems with
  | accept accepted =>
    obtain ⟨-, ⟨_, -, -, rfl⟩ | ⟨-, rfl⟩⟩ :=
      redeemInviteAndAccept_eq_ok accepted
    · rfl
    · rfl
  | share => rfl

/-- A new relationship comes with a redemption that was not there before. -/
theorem relationship {key : RelationshipKey} {row : Relationship} (redeems : s.Redeems after)
    (found : after.acceptedExactRelationships.lookup key = some row) :
    s.acceptedExactRelationships.lookup key = some row ∨
      (s.inviteRedemptions.lookup ⟨row.inviteJTI, key.pipeID⟩ = none ∧
        ∃ redemption, redemption.kind = .exact ∧
          after.inviteRedemptions.lookup ⟨row.inviteJTI, key.pipeID⟩ = some redemption) := by
  cases redeems with
  | @accept _ jti pipeID sessionID clientPublic accessEpoch now won accepted =>
    obtain ⟨-, ⟨_, -, -, rfl⟩ | ⟨absent, rfl⟩⟩ :=
      redeemInviteAndAccept_eq_ok accepted
    · exact Or.inl found
    · by_cases same : key = ⟨pipeID, clientPublic⟩
      · subst same
        obtain ⟨acceptedAt, written⟩ := acceptFirst_relationship_self s jti
          pipeID sessionID clientPublic accessEpoch
          now.utc.formatRFC3339Nano
        rw [written] at found
        obtain rfl := Option.some.inj found
        refine Or.inr ⟨absent, _, ?_, AList.lookup_insert _⟩
        rfl
      · rw [acceptFirst_relationship_other _ _ _ _ _ _ _ same] at found
        exact Or.inl found
  | share => exact Or.inl found

theorem backed {rows : Table RedemptionKey Redemption}
    (redeems : s.Redeems after) (start : s.Backed rows) : after.Backed rows := by
  refine ⟨?_, ?_⟩
  · intro key row present
    exact redeems.grows.redemptions key row (start.kept key row present)
  · intro key row found
    rcases redeems.relationship found with old | ⟨-, redemption, marked, written⟩
    · obtain ⟨redemption, present, origin⟩ := start.backed key row old
      exact ⟨redemption, redeems.grows.redemptions _ _ present, origin⟩
    · exact ⟨redemption, written, Or.inl marked⟩

end Store.Redeems

namespace Store.RedeemsTo

variable {s after : Store}

theorem grows (redeems : s.RedeemsTo after) : s.Grows after := by
  induction redeems with
  | refl => exact Grows.refl s
  | tail _ last ih =>
    exact ih.trans last.grows

theorem revocations (redeems : s.RedeemsTo after) : after.revocations = s.revocations := by
  induction redeems with
  | refl => rfl
  | tail _ last ih =>
    rw [last.revocations, ih]

/-- A relationship whose redemption was there at the start has not changed. -/
theorem relationship {key : RelationshipKey} {row : Relationship}
    {redemption : Redemption} (redeems : s.RedeemsTo after)
    (present : s.inviteRedemptions.lookup ⟨row.inviteJTI, key.pipeID⟩ = some redemption)
    (found : after.acceptedExactRelationships.lookup key = some row) :
    s.acceptedExactRelationships.lookup key = some row := by
  induction redeems with
  | refl => exact found
  | tail earlier last ih =>
    rcases last.relationship found with old | ⟨absent, -⟩
    · exact ih old
    · rw [grows earlier |>.redemptions _ _ present] at absent
      cases absent

theorem backed {rows : Table RedemptionKey Redemption}
    (redeems : s.RedeemsTo after) (start : s.Backed rows) : after.Backed rows := by
  induction redeems with
  | refl => exact start
  | tail _ last ih => exact last.backed ih

end Store.RedeemsTo

/-- The database records this redemption as Scope-based, or has no column that
could say otherwise. -/
def Database.RecordsScoped (db : Database) (jti pipeID : GoString) : Prop :=
  ∃ redemption, db.redemptions.withKind.lookup ⟨jti, pipeID⟩ =
    some redemption ∧ redemption.kind = .scoped

/-- **Migrated redemptions stay unmarked.**  After opening a database and any
redemptions, the redemption behind a relationship is marked as exact exactly if
the database did not record it as Scope-based. -/
theorem Store.Backed.exact_iff {db : Database} {s : Store}
    {key : RelationshipKey} {row : Relationship} (backed : s.Backed db.redemptions.withKind)
    (found : s.acceptedExactRelationships.lookup key = some row) :
    (∃ redemption, s.inviteRedemptions.lookup ⟨row.inviteJTI, key.pipeID⟩ =
        some redemption ∧ redemption.kind = .exact) ↔
      ¬db.RecordsScoped row.inviteJTI key.pipeID := by
  obtain ⟨redemption, present, origin⟩ := backed.backed key row found
  constructor
  · rintro ⟨other, otherPresent, marked⟩ ⟨recorded, stored, unmarked⟩
    grind [Store.Backed.kept]
  · intro notScoped
    refine ⟨redemption, present, ?_⟩
    rcases origin with marked | stored
    · exact marked
    · cases kind : redemption.kind with
      | exact => rfl
      | «scoped» => exact absurd ⟨redemption, stored, kind⟩ notScoped

end Tubo
