/-
# Store.Nonces -- the durable nonce store

`NonceStore::consume` of the SQLite store: one transaction that deletes the
expired nonces and inserts the new one, and that is rolled back, deletions
included, when the nonce is still there.

`consume_refines` relates it to `Theory.ReplayWindow`: a call is one attempt of
the abstract memory, with the nonce's expiry in whole seconds.
-/
import MediaBooster.Store.Statements
import MediaBooster.Theory.ReplayWindow

namespace MediaBooster.Store

set_option autoImplicit false

open MediaBooster.Domain MediaBooster.Theory MediaBooster.Theory.Table
open MediaBooster.Theory.Transaction

/-- Durable replay-protection failure. -/
inductive NonceStoreError
  | replay
  | backend (fault : Fault)
deriving DecidableEq

/-- `NonceStoreError::Backend(error.to_string())`. -/
def nonceBackend (error : SqlError) : NonceStoreError := .backend (.driver error)

/-- `NonceStore::consume`. -/
def consume (keyId nonce : String) (now expiresAt : OffsetDateTime) :
    Call SqliteStore NonceStoreError Unit := do
  Call.ensure
    (!keyId.isEmpty && decide (keyId.utf8ByteSize ≤ 128) &&
      decide (16 ≤ nonce.utf8ByteSize) && decide (nonce.utf8ByteSize ≤ 128) &&
      !decide (expiresAt ≤ now))
    (.backend (.text "nonce reservation input is invalid"))
  commit do
    let _ ← Tx.execute nonceBackend (SqliteStore.deleteExpiredNonces now.unixTimestamp)
    let inserted ← Tx.execute nonceBackend
      (SqliteStore.insertNonceOrIgnore ⟨keyId, nonce, expiresAt.unixTimestamp⟩)
    Tx.ensure (inserted == 1) .replay

/-! ## The nonces as a memory of keys -/

/-- The `PRIMARY KEY` of `request_nonces`. -/
def RequestNonceRow.identity (row : RequestNonceRow) : String × String := (row.keyId, row.nonce)

/-- Every `(key_id, nonce)` is stored once. -/
def SqliteStore.NoncesKeyed (store : SqliteStore) : Prop :=
  KeyedBy RequestNonceRow.identity store.requestNonces

/-- The keys the store remembers, with their expiry in seconds. -/
def SqliteStore.nonceMemory (store : SqliteStore) : ReplayWindow.Memory (String × String) Int :=
  fun key => (store.requestNonces.find? fun row => decide (row.identity = key)).map
    RequestNonceRow.expiresAt

theorem deleteExpiredNonces_memory {store : SqliteStore} (keyed : store.NoncesKeyed) (now : Int) :
    SqliteStore.nonceMemory { store with
        requestNonces := deleteWhere (fun row => decide (row.expiresAt ≤ now))
          store.requestNonces } =
      ReplayWindow.forget now store.nonceMemory := by
  funext key
  simp only [SqliteStore.nonceMemory, ReplayWindow.forget]
  rw [keyed.find?_deleteWhere]
  cases store.requestNonces.find? fun row => decide (row.identity = key) with
  | none => rfl
  | some row =>
      by_cases late : row.expiresAt ≤ now
      · simp [Option.filter, late]
      · simp [Option.filter, not_le.1 late]

theorem insertNonce_memory (store : SqliteStore) (row : RequestNonceRow)
    (fresh : ∀ other ∈ store.requestNonces, other.identity ≠ row.identity) :
    SqliteStore.nonceMemory { store with requestNonces := store.requestNonces ++ [row] } =
      Function.update store.nonceMemory row.identity (some row.expiresAt) := by
  funext key
  simp only [SqliteStore.nonceMemory, List.find?_append]
  by_cases same : key = row.identity
  · subst same
    have absent : (store.requestNonces.find? fun other =>
        decide (other.identity = row.identity)) = none := by
      simpa using fresh
    rw [absent, Function.update_self]
    simp
  · have apart : row.identity ≠ key := fun eq => same eq.symm
    rw [Function.update_of_ne same]
    simp [SqliteStore.nonceMemory, apart]

/-- What a successful `consume` has checked. -/
theorem consume_ok_checked {keyId nonce : String} {now expiresAt : OffsetDateTime}
    {store store' : SqliteStore}
    (ran : consume keyId nonce now expiresAt store = (.ok (), store')) :
    (keyId.isEmpty = false ∧ keyId.utf8ByteSize ≤ 128) ∧
      (16 ≤ nonce.utf8ByteSize ∧ nonce.utf8ByteSize ≤ 128) ∧ ¬expiresAt ≤ now := by
  simp only [consume, call_bind_eq_ok, call_ensure_eq_ok] at ran
  obtain ⟨_, _, ⟨checked, -⟩, -⟩ := ran
  simp only [Bool.and_eq_true, Bool.not_eq_true', decide_eq_true_eq, decide_eq_false_iff_not]
    at checked
  obtain ⟨⟨⟨⟨nonempty, short⟩, lower⟩, upper⟩, later⟩ := checked
  exact ⟨⟨nonempty, short⟩, ⟨lower, upper⟩, later⟩

/-- What a successful `consume` has done. -/
theorem consume_ok {keyId nonce : String} {now expiresAt : OffsetDateTime}
    {store store' : SqliteStore} (keyed : store.NoncesKeyed)
    (ran : consume keyId nonce now expiresAt store = (.ok (), store')) :
    store'.NoncesKeyed ∧
      ReplayWindow.Step store.nonceMemory
        (⟨(keyId, nonce), now.unixTimestamp, expiresAt.unixTimestamp⟩, true)
        store'.nonceMemory := by
  simp only [consume, call_bind_eq_ok, call_ensure_eq_ok, commit_eq_ok, bind_eq_ok,
    execute_eq_ok, ensure_eq_ok] at ran
  obtain ⟨_, _, ⟨-, rfl⟩, _, swept, deleted, inserted, _, ran, one, rfl⟩ := ran
  cases deleted
  simp only [SqliteStore.insertNonceOrIgnore] at ran
  split at ran
  · -- an ignored insert reaches no row
    cases ran
    simp at one
  · rename_i absent
    cases ran
    have fresh : ∀ other ∈ deleteWhere (fun row : RequestNonceRow =>
        decide (row.expiresAt ≤ now.unixTimestamp)) store.requestNonces,
        other.identity ≠
          RequestNonceRow.identity ⟨keyId, nonce, expiresAt.unixTimestamp⟩ := by
      intro other member same
      apply absent
      rw [List.any_eq_true]
      refine ⟨other, member, ?_⟩
      simp only [RequestNonceRow.identity, Prod.mk.injEq] at same
      simp [same]
    refine ⟨KeyedBy.concat (keyed.deleteWhere _) fresh, ?_⟩
    have memory := insertNonce_memory
      { store with
        requestNonces := deleteWhere (fun row => decide (row.expiresAt ≤ now.unixTimestamp))
          store.requestNonces }
      ⟨keyId, nonce, expiresAt.unixTimestamp⟩ fresh
    rw [memory, deleteExpiredNonces_memory keyed]
    apply ReplayWindow.Step.admitted
    rw [← deleteExpiredNonces_memory keyed]
    simpa [SqliteStore.nonceMemory, RequestNonceRow.identity] using fresh

/-- A `consume` that fails has changed nothing, its deletions included. -/
theorem consume_atomic (keyId nonce : String) (now expiresAt : OffsetDateTime) :
    Atomic (consume keyId nonce now expiresAt) :=
  atomic_bind (moves_ensure _ _) fun _ => atomic_commit _

/-- **`consume` refines the abstract memory.**  A call is one attempt of it. -/
theorem consume_refines {keyId nonce : String} {now expiresAt : OffsetDateTime}
    {store store' : SqliteStore} {result : Except NonceStoreError Unit}
    (keyed : store.NoncesKeyed)
    (ran : consume keyId nonce now expiresAt store = (result, store')) :
    store'.NoncesKeyed ∧
      ReplayWindow.Step store.nonceMemory
        (⟨(keyId, nonce), now.unixTimestamp, expiresAt.unixTimestamp⟩, result.toBool)
        store'.nonceMemory := by
  cases result with
  | ok u => exact consume_ok keyed ran
  | error e =>
      rw [consume_atomic keyId nonce now expiresAt store e store' ran]
      exact ⟨keyed, .refused _ _⟩

/-- A nonce whose expiry has come is consumed again. -/
theorem consume_again {keyId nonce : String} {now expiresAt : OffsetDateTime}
    {store : SqliteStore} {expiry : Int} (keyed : store.NoncesKeyed)
    (key : keyId.isEmpty = false ∧ keyId.utf8ByteSize ≤ 128)
    (sized : 16 ≤ nonce.utf8ByteSize ∧ nonce.utf8ByteSize ≤ 128) (later : now < expiresAt)
    (known : store.nonceMemory (keyId, nonce) = some expiry)
    (late : expiry ≤ now.unixTimestamp) :
    ∃ store', consume keyId nonce now expiresAt store = (.ok (), store') := by
  have forgotten := ReplayWindow.forget_of_le known late
  rw [← deleteExpiredNonces_memory keyed] at forgotten
  have absent : ∀ row ∈ deleteWhere (fun row : RequestNonceRow =>
      decide (row.expiresAt ≤ now.unixTimestamp)) store.requestNonces,
      row.identity ≠ (keyId, nonce) := by
    simpa [SqliteStore.nonceMemory] using forgotten
  refine ⟨{ store with requestNonces := deleteWhere (fun row : RequestNonceRow =>
    decide (row.expiresAt ≤ now.unixTimestamp)) store.requestNonces ++
      [⟨keyId, nonce, expiresAt.unixTimestamp⟩] }, ?_⟩
  simp only [consume, call_bind_eq_ok, call_ensure_eq_ok, commit_eq_ok, bind_eq_ok,
    execute_eq_ok, ensure_eq_ok]
  refine ⟨(), store, ⟨?_, rfl⟩, _, _, rfl, 1, _, ?_, rfl, rfl⟩
  · have open_ : ¬expiresAt ≤ now := by
      rw [OffsetDateTime.le_def]
      rw [OffsetDateTime.lt_def] at later
      omega
    simp [key, sized, open_]
  · have missing : ((deleteWhere (fun row : RequestNonceRow =>
        decide (row.expiresAt ≤ now.unixTimestamp)) store.requestNonces).any fun other =>
          other.keyId == keyId && other.nonce == nonce) = false := by
      rw [List.any_eq_false]
      intro row member
      have apart := absent row member
      simp only [RequestNonceRow.identity, ne_eq, Prod.mk.injEq, not_and] at apart
      simpa using apart
    simp only [SqliteStore.insertNonceOrIgnore, missing]
    rfl

end MediaBooster.Store
