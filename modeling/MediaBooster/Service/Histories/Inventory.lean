/-
# Service.Histories.Inventory -- what an inventory pass has done before it asks

A pass knows a cursor for the namespace it scans: the one it read, or the one it saved last.
It lists the page behind it, reconciles what it listed, prunes, and saves the cursor of that
page.  An orphan is deleted right after it was found unknown once more.

"Since" always means since the last save: `Unsaved` exchanges save no cursor.
-/
import MediaBooster.Service.Asks
import MediaBooster.Service.Histories

namespace MediaBooster.Service

set_option autoImplicit false

open MediaBooster.Domain MediaBooster.Storage MediaBooster.Store MediaBooster.Theory.Threads

/-- A request that saves no cursor. -/
def SavesNone : Ask → Prop
  | .store (.saveInventoryCursor ..) => False
  | _ => True

/-- No cursor was saved. -/
def Unsaved (past : History) : Prop := ∀ exchange ∈ past, SavesNone exchange.1

theorem Unsaved.append {past more : History} (unsaved : Unsaved past) (quiet : Unsaved more) :
    Unsaved (past ++ more) := fun exchange member =>
  (List.mem_append.1 member).elim (unsaved exchange) (quiet exchange)

theorem unsaved_single {request : Ask} {answer : Answer request} (quiet : SavesNone request) :
    Unsaved [⟨request, answer⟩] := by
  intro exchange member
  rw [List.mem_singleton.1 member]
  exact quiet

/-- The exchange happened, and no cursor was saved since. -/
def Since (past : History) (exchange : Exchange Answer) : Prop :=
  ∃ before after, past = before ++ exchange :: after ∧ Unsaved after

theorem Since.append {past more : History} {exchange : Exchange Answer}
    (since : Since past exchange) (quiet : Unsaved more) : Since (past ++ more) exchange := by
  obtain ⟨before, after, rfl, unsaved⟩ := since
  exact ⟨before, after ++ more, List.append_assoc .., unsaved.append quiet⟩

theorem since_last (past : History) (exchange : Exchange Answer) :
    Since (past ++ [exchange]) exchange := ⟨past, [], rfl, fun _ member => by cases member⟩

theorem Since.mem {past : History} {exchange : Exchange Answer} (since : Since past exchange) :
    exchange ∈ past := by
  obtain ⟨before, after, rfl, -⟩ := since
  exact List.mem_append_right _ List.mem_cons_self

/-- What holds since a longer past held since before, or is its last exchange. -/
theorem since_snoc {past : History} {last exchange : Exchange Answer}
    (since : Since (past ++ [last]) exchange) :
    exchange = last ∨ (SavesNone last.1 ∧ Since past exchange) := by
  obtain ⟨before, after, split, unsaved⟩ := since
  obtain rfl | ⟨front, rear, rfl⟩ := after.eq_nil_or_concat
  · left
    obtain ⟨-, same⟩ := List.append_inj' split rfl
    exact (List.singleton_inj.1 same).symm
  · right
    rw [List.concat_eq_append] at split unsaved
    rw [← List.cons_append, ← List.append_assoc] at split
    obtain ⟨rfl, same⟩ := List.append_inj' split rfl
    obtain rfl := List.singleton_inj.1 same
    exact ⟨unsaved _ (List.mem_append_right _ (List.mem_singleton_self _)), before, front, rfl,
      fun exchange member => unsaved exchange (List.mem_append_left _ member)⟩

namespace InventoryService

variable (service : InventoryService)

/-- The cursor the pass goes on from: the one it read or saved last. -/
def CursorAt (past : History) (storageNamespace : StorageNamespace) (cursor : Option String) :
    Prop :=
  (Since past ⟨.store (.inventoryCursor storageNamespace), .ok cursor⟩ ∧
      validateCursor storageNamespace cursor = .ok ()) ∨
    ∃ savedAt, Since past ⟨.store (.saveInventoryCursor storageNamespace cursor savedAt), .ok ()⟩

/-- The page behind the cursor was listed. -/
def Listed (past : History) (storageNamespace : StorageNamespace) (cursor : Option String)
    (page : ListedObjectsPage) : Prop :=
  ∃ output, Since past ⟨.provider (.listObjectsV2 (service.storeOf storageNamespace).bucket
      storageNamespace.keyPrefix cursor service.policy.pageSize), .ok output⟩ ∧
    listedPage output = .ok page ∧ validatePage storageNamespace cursor page = .ok ()

/-- The objects of the page were reconciled. -/
def Reconciled (past : History) (storageNamespace : StorageNamespace)
    (objects : List InventoryObject) : Prop :=
  ∃ observedAt eligibleBefore result, Since past ⟨.store (.reconcileInventoryPage storageNamespace
    objects observedAt eligibleBefore), .ok result⟩

/-- What an inventory pass has done before it asks. -/
def Rule (past : History) : Ask → Prop
  | .provider (.listObjectsV2 bucket keyPrefix startAfter maxKeys) => ∃ storageNamespace,
      bucket = (service.storeOf storageNamespace).bucket ∧
      keyPrefix = storageNamespace.keyPrefix ∧ maxKeys = service.policy.pageSize ∧
      CursorAt past storageNamespace startAfter
  | .store (.reconcileInventoryPage storageNamespace objects observedAt eligibleBefore) =>
      observedAt.minus service.policy.orphanGracePeriod = some eligibleBefore ∧
      ∃ cursor page, CursorAt past storageNamespace cursor ∧
        service.Listed past storageNamespace cursor page ∧
        objects = validObjects storageNamespace page
  | .store (.saveInventoryCursor storageNamespace startAfter _) => ∃ cursor page,
      CursorAt past storageNamespace cursor ∧ service.Listed past storageNamespace cursor page ∧
      Reconciled past storageNamespace (validObjects storageNamespace page) ∧
      startAfter = page.nextStartAfter
  | .provider (.deleteObject bucket key) => ∃ storageNamespace objectKey before,
      bucket = (service.storeOf storageNamespace).bucket ∧ key = objectKey.asStr ∧
      past = before ++ [⟨.store (.isInventoryKeyKnown storageNamespace objectKey), .ok false⟩]
  | _ => True

section Facts

variable {service} {past more : History} {storageNamespace : StorageNamespace}
variable {cursor : Option String} {page : ListedObjectsPage} {objects : List InventoryObject}

theorem CursorAt.append (at_ : CursorAt past storageNamespace cursor) (quiet : Unsaved more) :
    CursorAt (past ++ more) storageNamespace cursor := by
  obtain ⟨read, valid⟩ | ⟨savedAt, saved⟩ := at_
  · exact .inl ⟨read.append quiet, valid⟩
  · exact .inr ⟨savedAt, saved.append quiet⟩

theorem Listed.append (listed : service.Listed past storageNamespace cursor page)
    (quiet : Unsaved more) : service.Listed (past ++ more) storageNamespace cursor page := by
  obtain ⟨output, since, rest⟩ := listed
  exact ⟨output, since.append quiet, rest⟩

theorem Reconciled.append (reconciled : Reconciled past storageNamespace objects)
    (quiet : Unsaved more) : Reconciled (past ++ more) storageNamespace objects := by
  obtain ⟨observedAt, eligibleBefore, result, since⟩ := reconciled
  exact ⟨observedAt, eligibleBefore, result, since.append quiet⟩

theorem Prunes.saves {request : Ask} (prunes : service.Prunes request) : SavesNone request := by
  cases request with
  | store op => cases op <;> trivial
  | _ => trivial

theorem follows_pruneCandidate {candidate : OrphanCandidate} {summary : InventoryRunSummary} :
    (service.pruneCandidate storageNamespace candidate summary).Follows service.Rule
      (fun _ _ => True) past := by
  unfold pruneCandidate
  refine follows_call trivial (fun known => ?_) fun _ => trivial
  cases known with
  | true => exact follows_call trivial (fun _ => trivial) fun _ => trivial
  | false =>
      refine Attempt.follows_lifted (Q := fun _ _ => True)
        (Attempt.follows_mapError ⟨?_, fun _ => trivial⟩) ?_
      · exact ⟨storageNamespace, candidate.key, past, rfl, rfl, rfl⟩
      · intro past deleted _
        cases deleted with
        | ok =>
            refine follows_now trivial fun deletedAt => ?_
            exact follows_call trivial (fun _ => trivial) fun _ => trivial
        | error =>
            refine follows_now trivial fun failedAt => ?_
            exact follows_call trivial (fun _ => trivial) fun _ => trivial

theorem follows_pruneCandidates {candidates : List OrphanCandidate} {summary : InventoryRunSummary} :
    (service.pruneCandidates storageNamespace candidates summary).Follows service.Rule
      (fun _ _ => True) past := by
  induction candidates generalizing past summary with
  | nil => trivial
  | cons candidate candidates ih =>
      exact Attempt.follows_bind follows_pruneCandidate (fun _ _ _ => ih) fun _ _ _ => trivial

theorem follows_listObjects {keyPrefix : String} {s3 : S3CompatibleStore} {maxKeys : Nat}
    (asks : service.Rule past (.provider (.listObjectsV2 s3.bucket keyPrefix cursor maxKeys))) :
    (s3.listObjects keyPrefix cursor maxKeys).Follows service.Rule
      (fun past' result => ∀ page, result = .ok page → ∃ output, past' = past ++
        [⟨.provider (.listObjectsV2 s3.bucket keyPrefix cursor maxKeys), .ok output⟩] ∧
        listedPage output = .ok page) past := by
  unfold S3CompatibleStore.listObjects
  refine Attempt.follows_ensure (fun _ => ?_) fun _ _ failed => by cases failed
  refine follows_sent asks (fun output => ?_) fun _ _ failed => by cases failed
  cases decoded : listedPage output with
  | error error =>
      intro page failed
      cases failed
  | ok page' =>
      rintro page ⟨⟩
      exact ⟨output, rfl, decoded⟩

/-- One page: what was listed is reconciled before the cursor behind it is saved. -/
theorem follows_scanPage {mode : InventoryMode} {startedAt eligibleBefore : OffsetDateTime}
    {summary : InventoryRunSummary}
    (grace : startedAt.minus service.policy.orphanGracePeriod = some eligibleBefore)
    (at_ : CursorAt past storageNamespace cursor) :
    (service.scanPage mode startedAt eligibleBefore storageNamespace cursor summary).Follows
      service.Rule (fun past' result => ∀ next, result.map Prod.fst = .ok next →
        CursorAt past' storageNamespace next) past := by
  unfold scanPage
  refine Attempt.follows_bind (Q := fun past' result => ∀ page, result = .ok page → ∃ output,
      past' = past ++ [⟨.provider (.listObjectsV2 (service.storeOf storageNamespace).bucket
        storageNamespace.keyPrefix cursor service.policy.pageSize), .ok output⟩] ∧
      listedPage output = .ok page)
    (Attempt.follows_mapError ((follows_listObjects ?_).weaken ?_)) ?_ ?_
  · exact ⟨storageNamespace, rfl, rfl, rfl, at_⟩
  · intro past' result listed page same
    cases result with
    | error => cases same
    | ok page' =>
        cases same
        exact listed _ rfl
  · intro past' page listed
    obtain ⟨output, rfl, decoded⟩ := listed page rfl
    refine Attempt.follows_ofExcept (fun _ valid => ?_) fun _ _ _ failed => by cases failed
    have quiet : Unsaved [⟨.provider (.listObjectsV2 (service.storeOf storageNamespace).bucket
        storageNamespace.keyPrefix cursor service.policy.pageSize), .ok output⟩] :=
      unsaved_single trivial
    have at_ := at_.append quiet
    have listed : service.Listed (past ++ [⟨.provider (.listObjectsV2
        (service.storeOf storageNamespace).bucket storageNamespace.keyPrefix cursor
        service.policy.pageSize), .ok output⟩]) storageNamespace cursor page :=
      ⟨output, since_last _ _, decoded, valid⟩
    generalize past ++ [_] = past at at_ listed ⊢
    refine follows_call ⟨grace, cursor, page, at_, listed, rfl⟩ (fun result => ?_)
      fun _ _ failed => by cases failed
    have reconciled : Reconciled (past ++ [⟨.store (.reconcileInventoryPage storageNamespace
        (validObjects storageNamespace page) startedAt eligibleBefore), .ok result⟩])
        storageNamespace (validObjects storageNamespace page) :=
      ⟨startedAt, eligibleBefore, result, since_last _ _⟩
    have quiet : Unsaved [⟨.store (.reconcileInventoryPage storageNamespace
        (validObjects storageNamespace page) startedAt eligibleBefore), .ok result⟩] :=
      unsaved_single trivial
    have at_ := at_.append quiet
    have listed := listed.append quiet
    generalize past ++ [_] = past at at_ listed reconciled ⊢
    have saves : ∀ (more : History) (summary : InventoryRunSummary), Unsaved more →
        Attempt.Follows service.Rule (fun past' result => ∀ next, result.map Prod.fst = .ok next →
          CursorAt past' storageNamespace next) (past ++ more) (do
            let savedAt ← now
            Attempt.mapError .repository
              (call (.saveInventoryCursor storageNamespace page.nextStartAfter savedAt))
            return (page.nextStartAfter, summary) : Action InventoryRunError _) := by
      intro more summary quiet
      refine follows_now trivial fun savedAt => ?_
      have clock : Unsaved [⟨.now, savedAt⟩] := unsaved_single trivial
      refine follows_call ?_ (fun _ => ?_) fun _ _ failed => by cases failed
      · exact ⟨cursor, page, (at_.append quiet).append clock, (listed.append quiet).append clock,
          (reconciled.append quiet).append clock, rfl⟩
      · rintro next ⟨⟩
        exact .inr ⟨savedAt, since_last _ _⟩
    cases mode with
    | audit =>
        have direct := saves [] (counted storageNamespace page result summary)
          fun _ member => by cases member
        rw [List.append_nil] at direct
        exact direct
    | prune =>
        refine Attempt.follows_bind
          (follows_pruneCandidates.adds_only (service.only_pruneCandidates _ _ _)) ?_
          fun _ _ _ _ failed => by cases failed
        rintro _ summary ⟨-, more, rfl, prunes⟩
        exact saves more summary fun exchange member => (prunes exchange member).saves
  · intro past' error _ next failed
    cases failed

theorem follows_scanPages {mode : InventoryMode} {startedAt eligibleBefore : OffsetDateTime}
    {pages : Nat} {summary : InventoryRunSummary}
    (grace : startedAt.minus service.policy.orphanGracePeriod = some eligibleBefore)
    (at_ : CursorAt past storageNamespace cursor) :
    (service.scanPages mode startedAt eligibleBefore storageNamespace pages cursor summary).Follows
      service.Rule (fun _ _ => True) past := by
  induction pages generalizing past cursor summary with
  | zero => trivial
  | succ pages ih =>
      refine Attempt.follows_bind (follows_scanPage grace at_) ?_ fun _ _ _ => trivial
      rintro past ⟨next, summary⟩ scanned
      cases next with
      | none => trivial
      | some cursor => exact ih (scanned (some cursor) rfl)

theorem follows_scanNamespace {mode : InventoryMode} {startedAt eligibleBefore : OffsetDateTime}
    {summary : InventoryRunSummary}
    (grace : startedAt.minus service.policy.orphanGracePeriod = some eligibleBefore) :
    (service.scanNamespace mode startedAt eligibleBefore storageNamespace summary).Follows
      service.Rule (fun _ _ => True) past := by
  unfold scanNamespace
  refine follows_call trivial (fun cursor => ?_) fun _ => trivial
  refine Attempt.follows_ofExcept (fun _ valid => ?_) fun _ _ => trivial
  exact follows_scanPages grace (.inl ⟨since_last _ _, valid⟩)

/-- **A pass saves the cursor of the page it has reconciled.** -/
theorem follows_runOnce (mode : InventoryMode) :
    (service.runOnce mode).Follows service.Rule (fun _ _ => True) [] := by
  unfold runOnce
  refine follows_now trivial fun startedAt => ?_
  refine Attempt.follows_okOr (fun eligibleBefore grace => ?_) fun _ => trivial
  exact Attempt.follows_bind (follows_scanNamespace grace) (fun _ _ _ => follows_scanNamespace grace)
    fun _ _ _ => trivial

end Facts

end InventoryService

end MediaBooster.Service
