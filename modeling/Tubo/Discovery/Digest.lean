import Tubo.Discovery.Snapshot

/-!
# The digest of a snapshot

Package `internal/runtime`, `reconcileAuthorityResponseWithLease` of `client.go`: the byte
string that is hashed for the records of a snapshot.  Every key, `PipeID NUL payload`, is
followed by NUL, after the keys were sorted.

* `digestInput_eq_iff` — it stands for the set of identifiers and payloads.
-/

namespace Tubo

/-- The key of a record in the digest. -/
def digestKey (record : Record) : Bytes := record.pipeID ++ [0] ++ record.payload

/-- The order of `sort.Strings`. -/
def stringOrder (a b : GoString) : Bool := decide (a ≤ b)

/-- The byte string that is hashed. -/
def digestInput (records : List Record) : Bytes :=
  ((records.map digestKey).mergeSort stringOrder).flatMap (· ++ [0])

theorem snapshotDigest_eq (prim : Primitives) (records : List Record) :
    snapshotDigest prim records = hexEncode (prim.sha256 (digestInput records)) := rfl

/-! ## Sorting -/

theorem mergeSort_stringOrder_of_perm {keys keys' : List GoString} (perm : keys.Perm keys') :
    keys.mergeSort stringOrder = keys'.mergeSort stringOrder := by
  have sorted (keys : List GoString) :
      (keys.mergeSort stringOrder).Pairwise fun a b => stringOrder a b = true := by
    grind [List.pairwise_mergeSort, stringOrder]
  refine List.Perm.eq_of_pairwise ?_ (sorted keys) (sorted keys') ?_
  · intro a b _ _ first second
    exact List.le_antisymm (of_decide_eq_true first) (of_decide_eq_true second)
  · exact (List.mergeSort_perm _ _).trans (perm.trans (List.mergeSort_perm _ _).symm)

/-! ## Framing -/

/-- What stands before the first NUL, and what stands after it. -/
theorem append_nul_inj {a a' rest rest' : Bytes} (plain : 0 ∉ a) (plain' : 0 ∉ a')
    (same : a ++ 0 :: rest = a' ++ 0 :: rest') : a = a' ∧ rest = rest' := by
  induction a generalizing a' with
  | nil =>
    cases a' with
    | nil => exact ⟨rfl, (List.cons.inj same).2⟩
    | cons byte a' => exact absurd (List.cons.inj same).1 fun isNul => plain' (by simp [← isNul])
  | cons byte a ih =>
    cases a' with
    | nil => exact absurd (List.cons.inj same).1 fun isNul => plain (by simp [isNul])
    | cons byte' a' =>
      grind

/-- A key whose parts have no NUL. -/
def FramedKey (key : Bytes) : Prop := ∃ id payload, key = id ++ 0 :: payload ∧ 0 ∉ id ∧ 0 ∉ payload

/-- The keys can be told apart in the byte string. -/
theorem flatMap_nul_inj {keys keys' : List Bytes} (framed : ∀ key ∈ keys, FramedKey key)
    (framed' : ∀ key ∈ keys', FramedKey key)
    (same : keys.flatMap (· ++ [0]) = keys'.flatMap (· ++ [0])) : keys = keys' := by
  induction keys generalizing keys' with
  | nil =>
    cases keys' with
    | nil => rfl
    | cons key keys' => simp at same
  | cons key keys ih =>
    cases keys' with
    | nil => simp at same
    | cons key' keys' =>
      obtain ⟨⟨id, payload, rfl, plainID, plainPayload⟩, more⟩ := List.forall_mem_cons.mp framed
      obtain ⟨⟨id', payload', rfl, plainID', plainPayload'⟩, more'⟩ :=
        List.forall_mem_cons.mp framed'
      simp only [List.flatMap_cons, List.append_assoc, List.cons_append, List.nil_append] at same
      obtain ⟨rfl, samePayload⟩ := append_nul_inj plainID plainID' same
      obtain ⟨rfl, sameRest⟩ := append_nul_inj plainPayload plainPayload' samePayload
      rw [ih more more' sameRest]

/-- Neither part of the key of the record has a NUL. -/
def Record.Plain (record : Record) : Prop := 0 ∉ record.pipeID ∧ 0 ∉ record.payload

instance : DecidablePred Record.Plain := fun _ => inferInstanceAs (Decidable (_ ∧ _))

theorem Record.Plain.framed {record : Record} (plain : record.Plain) :
    FramedKey (digestKey record) :=
  ⟨record.pipeID, record.payload, by simp [digestKey], plain⟩

/-! ## The records of a snapshot -/

/-- What the digest is about. -/
def Record.content (record : Record) : GoString × Bytes := (record.pipeID, record.payload)

/-- The loop rejects duplicates, so that the digest is made of distinct identifiers. -/
theorem receivedRecords_nodup {prim : Primitives} {json : RecordJSON} {scope : GoString}
    {key : Bytes} {expected : Scope} {now : Time} {seen : List GoString} {raws : List Bytes}
    {records : List Record}
    (received : receivedRecords prim json scope key expected now seen raws = .ok records) :
    (records.map (·.pipeID)).Nodup ∧ ∀ record ∈ records, record.pipeID ∉ seen := by
  induction raws generalizing seen records with
  | nil =>
    cases received
    simp
  | cons raw rest ih =>
    simp only [receivedRecords, bind_eq_ok, failIf_eq_ok] at received
    obtain ⟨record, -, -, -, -, new, data, -, more, isMore, same⟩ := received
    cases same
    grind

/-- The digest identifies the record set: for two lists of records with distinct identifiers, the
byte strings that are hashed are equal exactly if the lists have the same identifiers with the same
payloads, in whatever order. -/
theorem digestInput_eq_iff {records records' : List Record}
    (distinct : (records.map (·.pipeID)).Nodup) (distinct' : (records'.map (·.pipeID)).Nodup)
    (plain : ∀ record ∈ records, record.Plain) (plain' : ∀ record ∈ records', record.Plain) :
    digestInput records = digestInput records' ↔
      ∀ content, content ∈ records.map Record.content ↔ content ∈ records'.map Record.content := by
  have keys (records : List Record) : records.map digestKey =
      (records.map Record.content).map fun content => content.1 ++ [0] ++ content.2 := by
    rw [List.map_map]
    rfl
  have contents {records : List Record} (distinct : (records.map (·.pipeID)).Nodup) :
      (records.map Record.content).Nodup := by
    refine List.Nodup.of_map Prod.fst ?_
    rwa [List.map_map]
  rw [← List.perm_ext_iff_of_nodup (contents distinct) (contents distinct')]
  constructor
  · intro same
    have framed {records : List Record} (plain : ∀ record ∈ records, record.Plain) :
        ∀ key ∈ (records.map digestKey).mergeSort stringOrder, FramedKey key := by
      intro key member
      obtain ⟨record, isRecord, rfl⟩ := List.mem_map.mp (List.mem_mergeSort.mp member)
      exact (plain record isRecord).framed
    have sorted := flatMap_nul_inj (framed plain) (framed plain') same
    have perm : (records.map digestKey).Perm (records'.map digestKey) := by
      grind [List.mergeSort_perm]
    -- A key without further NULs stands for its two parts.
    have member {records records' : List Record} (plain : ∀ record ∈ records, record.Plain)
        (plain' : ∀ record ∈ records', record.Plain)
        (perm : (records.map digestKey).Perm (records'.map digestKey)) (content : GoString × Bytes)
        (isContent : content ∈ records.map Record.content) :
        content ∈ records'.map Record.content := by
      obtain ⟨record, isRecord, rfl⟩ := List.mem_map.mp isContent
      obtain ⟨other, isOther, same⟩ := List.mem_map.mp
        (perm.mem_iff.mp (List.mem_map_of_mem isRecord))
      have parts : other.pipeID ++ 0 :: other.payload = record.pipeID ++ 0 :: record.payload := by
        simpa [digestKey] using same
      obtain ⟨isID, isPayload⟩ := append_nul_inj (plain' other isOther).1
        (plain record isRecord).1 parts
      exact List.mem_map.mpr ⟨other, isOther, by rw [Record.content, isID, isPayload]; rfl⟩
    rw [List.perm_ext_iff_of_nodup (contents distinct) (contents distinct')]
    exact fun content => ⟨member plain plain' perm content, member plain' plain perm.symm content⟩
  · grind [mergeSort_stringOrder_of_perm, digestInput]

namespace Sample

def digestRecord (id payload : String) : Record :=
  ⟨[], str id, [], str payload, ⟨0, 0⟩, 0, true⟩

end Sample

/-- Two records in both orders. -/
theorem digestInput_eq_iff_swapped :
    digestInput [Sample.digestRecord "a" "1", Sample.digestRecord "b" "2"] =
      digestInput [Sample.digestRecord "b" "2", Sample.digestRecord "a" "1"] :=
  (digestInput_eq_iff (by decide) (by decide) (by decide) (by decide)).mpr (by simp [or_comm])

end Tubo
