/-
# Service.Inventory -- the inventory service

One pass scans both namespaces, page after page from the cursor the last pass saved.  A page
is listed, checked against the cursor, reconciled with what the store owns, and only then is
the cursor moved behind it.  In prune mode the eligible orphans of a page are deleted before
that: ownership is checked once more, then the object goes, then the store records it.

The counters of the pass have no bound here.
-/
import MediaBooster.Service.ObjectStore

namespace MediaBooster.Service

set_option autoImplicit false

open MediaBooster.Domain MediaBooster.Storage MediaBooster.Store MediaBooster.Theory.Threads

/-! ## Policy -/

theorem inventoryHour_fits : 60 * 60 < 2 ^ 64 := by decide

theorem inventoryMonth_fits : 30 * 24 * 60 * 60 < 2 ^ 64 := by decide

/-- Hard operator-owned limits for periodic provider scans. -/
structure InventoryPolicy where
  orphanGracePeriod : Duration
  pageSize : Nat
  maxPagesPerNamespace : Nat
deriving DecidableEq

/-- `InventoryPolicy::is_valid`. -/
def InventoryPolicy.isValid (policy : InventoryPolicy) : Bool :=
  !decide (policy.orphanGracePeriod < Duration.fromSecs (60 * 60) inventoryHour_fits) &&
    !decide (Duration.fromSecs (30 * 24 * 60 * 60) inventoryMonth_fits < policy.orphanGracePeriod) &&
    decide (1 ≤ policy.pageSize ∧ policy.pageSize ≤ 1000) &&
    decide (1 ≤ policy.maxPagesPerNamespace ∧ policy.maxPagesPerNamespace ≤ 100)

/-- Safe default audit mode or explicit grace-gated prune mode. -/
inductive InventoryMode
  | audit
  | prune
deriving DecidableEq

/-- Bounded inventory outcome. -/
structure InventoryRunSummary where
  pages : Nat := 0
  listed : Nat := 0
  invalidKeys : Nat := 0
  known : Nat := 0
  suspected : Nat := 0
  eligible : Nat := 0
  deleted : Nat := 0
  deleteFailed : Nat := 0
  completedNamespaces : Nat := 0
deriving DecidableEq

inductive InventoryRunError
  | invalidPolicy
  | invalidDuration
  | invalidPage
  | objectStore (error : ObjectStoreError)
  | repository (error : InventoryRepositoryError)
deriving DecidableEq

/-! ## Checks -/

/-- `validate_cursor`. -/
def validateCursor (storageNamespace : StorageNamespace) (cursor : Option String) :
    Except InventoryRunError Unit :=
  if cursor.any fun value => decide (1024 < value.utf8ByteSize) ||
      !startsWith value storageNamespace.keyPrefix then
    .error .invalidPage
  else .ok ()

/-- Neighbours with `pair[0].key >= pair[1].key` are out of order. -/
def ascendingKeys : List ListedObject → Bool
  | first :: second :: objects =>
      decide (first.key < second.key) && ascendingKeys (second :: objects)
  | _ => true

/-- What `validate_page` asks of each object. -/
def isListable (storageNamespace : StorageNamespace) (previous : Option String)
    (object : ListedObject) : Bool :=
  decide (object.key.utf8ByteSize ≤ 1024) &&
    startsWith object.key storageNamespace.keyPrefix &&
    previous.all fun cursor => decide (cursor < object.key)

/-- `validate_page`. -/
def validatePage (storageNamespace : StorageNamespace) (previous : Option String)
    (page : ListedObjectsPage) : Except InventoryRunError Unit :=
  if 1000 < page.objects.length ∨ !ascendingKeys page.objects ∨
      !page.objects.all (isListable storageNamespace previous) ∨
      (page.nextStartAfter.any fun cursor =>
        decide (page.objects.getLast?.map ListedObject.key ≠ some cursor)) then
    .error .invalidPage
  else .ok ()

/-- The object as the repository takes it, where its key is well formed. -/
def inventoryObject (storageNamespace : StorageNamespace) (object : ListedObject) :
    Option InventoryObject :=
  match ObjectKey.new object.key with
  | .error _ => none
  | .ok key =>
      if startsWith object.key storageNamespace.keyPrefix then some ⟨key, object.contentLength⟩
      else none

/-- The objects of a page that are reconciled. -/
def validObjects (storageNamespace : StorageNamespace) (page : ListedObjectsPage) :
    List InventoryObject :=
  page.objects.filterMap (inventoryObject storageNamespace)

/-! ## The service -/

/-- `InventoryService`; it is built of a valid policy only. -/
structure InventoryService where
  rawStore : S3CompatibleStore
  derivativeStore : S3CompatibleStore
  policy : InventoryPolicy
  valid : policy.isValid = true

namespace InventoryService

variable (service : InventoryService)

/-- The store of a namespace. -/
def storeOf : StorageNamespace → S3CompatibleStore
  | .raw => service.rawStore
  | .derivative => service.derivativeStore

/-- Delete one eligible orphan, after a last check of its ownership. -/
def pruneCandidate (storageNamespace : StorageNamespace) (candidate : OrphanCandidate)
    (summary : InventoryRunSummary) : Action InventoryRunError InventoryRunSummary := do
  let known ← Attempt.mapError .repository
    (call (.isInventoryKeyKnown storageNamespace candidate.key))
  if known then do
    Attempt.mapError .repository (call (.forgetOrphan storageNamespace candidate.key))
    return { summary with known := summary.known + 1, eligible := summary.eligible - 1 }
  else do
    let deleted ← Attempt.lift ((service.storeOf storageNamespace).delete candidate.key).attempt
    match deleted with
    | .ok () => do
        let deletedAt ← now
        Attempt.mapError .repository
          (call (.completeOrphanDeletion storageNamespace candidate.key deletedAt))
        return { summary with deleted := summary.deleted + 1 }
    | .error _ => do
        let failedAt ← now
        Attempt.mapError .repository (call (.failOrphanDeletion storageNamespace candidate.key
          "PROVIDER_DELETE_FAILED" failedAt))
        return { summary with deleteFailed := summary.deleteFailed + 1 }

/-- The loop over the eligible orphans of a page. -/
def pruneCandidates (storageNamespace : StorageNamespace) :
    List OrphanCandidate → InventoryRunSummary → Action InventoryRunError InventoryRunSummary
  | [], summary => pure summary
  | candidate :: candidates, summary => do
      let summary ← service.pruneCandidate storageNamespace candidate summary
      pruneCandidates storageNamespace candidates summary

/-- The counters after one more page. -/
def counted (storageNamespace : StorageNamespace) (page : ListedObjectsPage)
    (reconciled : InventoryReconcileResult) (summary : InventoryRunSummary) :
    InventoryRunSummary :=
  { summary with
    pages := summary.pages + 1
    listed := summary.listed + page.objects.length
    invalidKeys := summary.invalidKeys +
      (page.objects.length - (validObjects storageNamespace page).length)
    known := summary.known + reconciled.known
    suspected := summary.suspected + reconciled.suspected
    eligible := summary.eligible + reconciled.eligible.length }

/-- List, check, reconcile and prune one page, and save the cursor behind it. -/
def scanPage (mode : InventoryMode) (startedAt eligibleBefore : OffsetDateTime)
    (storageNamespace : StorageNamespace) (cursor : Option String)
    (summary : InventoryRunSummary) :
    Action InventoryRunError (Option String × InventoryRunSummary) := do
  let page ← Attempt.mapError .objectStore ((service.storeOf storageNamespace).listObjects
    storageNamespace.keyPrefix cursor service.policy.pageSize)
  Attempt.ofExcept (validatePage storageNamespace cursor page)
  let reconciled ← Attempt.mapError .repository (call (.reconcileInventoryPage storageNamespace
    (validObjects storageNamespace page) startedAt eligibleBefore))
  let summary := counted storageNamespace page reconciled summary
  let summary ← match mode with
    | .audit => pure summary
    | .prune => service.pruneCandidates storageNamespace reconciled.eligible summary
  let savedAt ← now
  Attempt.mapError .repository
    (call (.saveInventoryCursor storageNamespace page.nextStartAfter savedAt))
  return (page.nextStartAfter, summary)

/-- The loop over the pages of a namespace, with the pages left. -/
def scanPages (mode : InventoryMode) (startedAt eligibleBefore : OffsetDateTime)
    (storageNamespace : StorageNamespace) :
    Nat → Option String → InventoryRunSummary → Action InventoryRunError InventoryRunSummary
  | 0, _, summary => pure summary
  | pages + 1, cursor, summary => do
      let scanned ← service.scanPage mode startedAt eligibleBefore storageNamespace cursor summary
      match scanned with
      | (none, summary) =>
          pure { summary with completedNamespaces := summary.completedNamespaces + 1 }
      | (some cursor, summary) =>
          scanPages mode startedAt eligibleBefore storageNamespace pages (some cursor) summary

/-- One namespace from its saved cursor on. -/
def scanNamespace (mode : InventoryMode) (startedAt eligibleBefore : OffsetDateTime)
    (storageNamespace : StorageNamespace) (summary : InventoryRunSummary) :
    Action InventoryRunError InventoryRunSummary := do
  let cursor ← Attempt.mapError .repository (call (.inventoryCursor storageNamespace))
  Attempt.ofExcept (validateCursor storageNamespace cursor)
  service.scanPages mode startedAt eligibleBefore storageNamespace
    service.policy.maxPagesPerNamespace cursor summary

/-- `run_once`. -/
def runOnce (mode : InventoryMode) : Action InventoryRunError InventoryRunSummary := do
  let startedAt ← now
  let eligibleBefore ← Attempt.okOr (startedAt.minus service.policy.orphanGracePeriod)
    .invalidDuration
  let summary ← service.scanNamespace mode startedAt eligibleBefore .raw {}
  service.scanNamespace mode startedAt eligibleBefore .derivative summary

end InventoryService

end MediaBooster.Service
