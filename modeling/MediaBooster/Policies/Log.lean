/-
# Policies.Log -- the log of a tenant's policy revisions

`publish_site_policy` is two statements, not one transaction: the conditional `INSERT` that
allocates the revision, and, when it reached no row, a `SELECT` that tells a replay from a
conflict.  Other publishers, and every other operation of the store, run between the two.
`publishStatements` is the call as a program of its statements, `publishers` the machine that
runs any number of them at once.

* `publishStatements_ran`: undisturbed, the two statements are the call.
* `site_policy_log`: in every run each tenant's revisions are 1, …, n; they only grow at the end;
  the active policy is the last of them; and each call is answered by what its last statement
  found, with no write but the append of revision n + 1.
* `publication_backend`: a call can also fail in the store's own terms.
-/
import MediaBooster.Store.Calls
import MediaBooster.Theory.Schedules

namespace MediaBooster.Policies

set_option autoImplicit false

open MediaBooster.Domain MediaBooster.Store MediaBooster.Theory.Run MediaBooster.Theory.Table
open MediaBooster.Theory.Threads MediaBooster.Theory.Transaction

/-! ## The statements of a publication -/

/-- A statement of `publish_site_policy`. -/
inductive PolicyStatement
  | insert (row : SitePolicyRow)
  | selectSettings (tenantId : String) (revision : Int)

/-- What a statement returns: the rows it reached, or the digest it found. -/
@[reducible] def PolicyStatement.Value : PolicyStatement → Type
  | .insert _ => Nat
  | .selectSettings .. => Option String

/-- The answer to a statement. -/
abbrev Reply (statement : PolicyStatement) : Type := Except SqlError statement.Value

/-- The digest stored under a revision. -/
def settingsAt (tenantId : String) (revision : Int) (store : SqliteStore) : Option String :=
  (store.policyRevision tenantId revision).map SitePolicyRow.settingsSha256

/-- A statement in a store: it runs, or the store refuses it. -/
inductive Executes : SqliteStore → (statement : PolicyStatement) → Reply statement →
    SqliteStore → Prop
  | inserted {s t : SqliteStore} {row : SitePolicyRow} {n : Nat}
      (ran : SqliteStore.insertSitePolicy row s = .ok (n, t)) : Executes s (.insert row) (.ok n) t
  | selected {s : SqliteStore} {tenantId : String} {revision : Int} :
      Executes s (.selectSettings tenantId revision) (.ok (settingsAt tenantId revision s)) s
  | failed {s : SqliteStore} {statement : PolicyStatement} (error : SqlError) :
      Executes s statement (.error error) s

/-- Run one statement. -/
def execute (statement : PolicyStatement) :
    Attempt Reply SitePolicyRepositoryError statement.Value :=
  Attempt.mapError policyBackend (Attempt.ofProgram (Program.request statement))

/-- `publish_site_policy`, statement by statement; the clock is a parameter. -/
def publishStatements (snapshot : SitePolicySnapshot) (createdAt : OffsetDateTime) :
    Attempt Reply SitePolicyRepositoryError PublishPolicyOutcome := do
  let revision ← Attempt.okOr (i64TryFrom snapshot.revision) .revisionConflict
  let watermark ← Attempt.ofExcept (boundWatermark snapshot.watermark)
  let inserted ← execute (.insert
    (snapshotRow snapshot revision createdAt.unixTimestamp watermark))
  if inserted = 1 then pure .published
  else do
    let existing ← execute (.selectSettings snapshot.tenantId revision)
    if existing = some snapshot.settingsSha256 then pure .unchanged
    else Attempt.fail .revisionConflict

/-- What the answer to the `SELECT` is turned into. -/
def replayOutcome (snapshot : SitePolicySnapshot) :
    Except SqlError (Option String) → Except SitePolicyRepositoryError PublishPolicyOutcome
  | .error error => .error (policyBackend error)
  | .ok existing =>
      if existing = some snapshot.settingsSha256 then .ok .unchanged else .error .revisionConflict

/-- What follows the answer to the `INSERT`. -/
def afterInsert (snapshot : SitePolicySnapshot) (revision : Int) : Except SqlError Nat →
    Program Reply (Except SitePolicyRepositoryError PublishPolicyOutcome)
  | .error error => .done (.error (policyBackend error))
  | .ok inserted =>
      if inserted = 1 then .done (.ok .published)
      else .ask (.selectSettings snapshot.tenantId revision) fun existing =>
        .done (replayOutcome snapshot existing)

section Statements

variable {snapshot : SitePolicySnapshot} {createdAt : OffsetDateTime}

/-- A call whose values can be bound asks for the `INSERT` first. -/
theorem publishStatements_asks {revision : Int} {watermark : Option WatermarkColumns}
    (converted : i64TryFrom snapshot.revision = some revision)
    (bound : boundWatermark snapshot.watermark = .ok watermark) :
    (publishStatements snapshot createdAt).attempt =
      .ask (.insert (snapshotRow snapshot revision createdAt.unixTimestamp watermark))
        (afterInsert snapshot revision) := by
  unfold publishStatements
  rw [converted, bound]
  show Program.ask _ _ = _
  congr 1
  funext inserted
  cases inserted with
  | error error => rfl
  | ok inserted =>
      show (ite (inserted = 1) _ _ : Attempt _ _ _).attempt = ite (inserted = 1) _ _
      by_cases one : inserted = 1
      · rw [if_pos one, if_pos one]
        rfl
      · rw [if_neg one, if_neg one]
        show Program.ask _ _ = Program.ask _ _
        congr 1
        funext existing
        cases existing with
        | error error => rfl
        | ok existing =>
            show (ite (existing = _) _ _ : Attempt _ _ _).attempt = .done (ite (existing = _) _ _)
            by_cases same : existing = some snapshot.settingsSha256
            · rw [if_pos same, if_pos same]
              rfl
            · rw [if_neg same, if_neg same]
              rfl

/-- A call whose values cannot be bound ends without a statement. -/
theorem publishStatements_unbound
    (unbound : i64TryFrom snapshot.revision = none ∨
      ∃ error, boundWatermark snapshot.watermark = .error error) :
    ∃ error, (publishStatements snapshot createdAt).attempt = .done (.error error) ∧
      ((error = .revisionConflict ∧ i64TryFrom snapshot.revision = none) ∨
        ∃ fault, error = .backend fault) := by
  unfold publishStatements
  cases converted : i64TryFrom snapshot.revision with
  | none => exact ⟨.revisionConflict, rfl, .inl ⟨rfl, rfl⟩⟩
  | some revision =>
      obtain none | ⟨error, failed⟩ := unbound
      · rw [converted] at none
        cases none
      · rw [failed]
        refine ⟨error, rfl, .inr ?_⟩
        unfold boundWatermark at failed
        split at failed
        · cases failed
        · split at failed
          · cases failed
            exact ⟨_, rfl⟩
          · cases failed

/-- The two ways a call starts. -/
theorem publishStatements_cases (snapshot : SitePolicySnapshot) (createdAt : OffsetDateTime) :
    (∃ revision watermark, i64TryFrom snapshot.revision = some revision ∧
      (publishStatements snapshot createdAt).attempt =
        .ask (.insert (snapshotRow snapshot revision createdAt.unixTimestamp watermark))
          (afterInsert snapshot revision)) ∨
      ∃ error, (publishStatements snapshot createdAt).attempt = .done (.error error) ∧
        ((error = .revisionConflict ∧ i64TryFrom snapshot.revision = none) ∨
          ∃ fault, error = .backend fault) := by
  by_cases unbound : i64TryFrom snapshot.revision = none ∨
      ∃ error, boundWatermark snapshot.watermark = .error error
  · exact .inr (publishStatements_unbound unbound)
  · push Not at unbound
    obtain ⟨revision, converted⟩ := Option.ne_none_iff_exists'.1 unbound.1
    cases bound : boundWatermark snapshot.watermark with
    | error error => exact absurd bound (unbound.2 error)
    | ok watermark =>
        exact .inl ⟨revision, watermark, converted, publishStatements_asks converted bound⟩

/-- The first statement of a call whose values can be bound. -/
theorem insertSnapshot_bound {revision : Int} {watermark : Option WatermarkColumns}
    (converted : i64TryFrom snapshot.revision = some revision)
    (bound : boundWatermark snapshot.watermark = .ok watermark) :
    insertSnapshot snapshot createdAt = autocommit policyBackend (SqliteStore.insertSitePolicy
      (snapshotRow snapshot revision createdAt.unixTimestamp watermark)) := by
  unfold insertSnapshot
  rw [converted, bound]
  rfl

/-- The second statement of a call. -/
theorem compareSnapshot_bound {revision : Int}
    (converted : i64TryFrom snapshot.revision = some revision) (s : SqliteStore) :
    compareSnapshot snapshot s =
      (if (s.policyRevision snapshot.tenantId revision).map SitePolicyRow.settingsSha256 =
          some snapshot.settingsSha256 then .ok .unchanged else .error .revisionConflict, s) := by
  unfold compareSnapshot
  rw [converted]
  rfl

/-- A call whose values cannot be bound asks the store for nothing. -/
theorem insertSnapshot_unbound {s t : SqliteStore} {result : Except SitePolicyRepositoryError Nat}
    (ran : insertSnapshot snapshot createdAt s = (result, t))
    (unbound : i64TryFrom snapshot.revision = none ∨
      ∃ error, boundWatermark snapshot.watermark = .error error) :
    t = s ∧ ∃ error, result = .error error := by
  unfold insertSnapshot at ran
  cases converted : i64TryFrom snapshot.revision with
  | none =>
      rw [converted] at ran
      cases ran
      exact ⟨rfl, _, rfl⟩
  | some revision =>
      obtain none | ⟨error, failed⟩ := unbound
      · rw [converted] at none
        cases none
      · rw [converted, failed] at ran
        cases ran
        exact ⟨rfl, _, rfl⟩

/-- A call whose values can be bound is the `INSERT` and its end. -/
theorem publishSitePolicy_bound {revision : Int} {watermark : Option WatermarkColumns}
    (converted : i64TryFrom snapshot.revision = some revision)
    (bound : boundWatermark snapshot.watermark = .ok watermark) (s : SqliteStore) :
    publishSitePolicy snapshot createdAt s =
      match SqliteStore.insertSitePolicy
          (snapshotRow snapshot revision createdAt.unixTimestamp watermark) s with
      | .error error => (.error (policyBackend error), s)
      | .ok (inserted, t) =>
          (if inserted = 1 then pure .published else compareSnapshot snapshot :
            Call SqliteStore SitePolicyRepositoryError PublishPolicyOutcome) t := by
  unfold publishSitePolicy
  rw [insertSnapshot_bound converted bound]
  cases ran : SqliteStore.insertSitePolicy
      (snapshotRow snapshot revision createdAt.unixTimestamp watermark) s with
  | ok led =>
      obtain ⟨inserted, t⟩ := led
      exact call_bind_of_ok (autocommit_eq_ok.2 ran)
  | error error =>
      refine call_bind_eq_error.2 (.inl ?_)
      unfold autocommit commit Tx.execute
      rw [ran]
      rfl

/-- **Undisturbed, the statements are the call.** -/
theorem publishStatements_ran {s t : SqliteStore}
    {result : Except SitePolicyRepositoryError PublishPolicyOutcome}
    (ran : publishSitePolicy snapshot createdAt s = (result, t)) :
    Ran Executes (publishStatements snapshot createdAt).attempt s result t := by
  cases converted : i64TryFrom snapshot.revision with
  | none =>
      unfold publishSitePolicy insertSnapshot at ran
      rw [converted] at ran
      cases ran
      unfold publishStatements
      rw [converted]
      exact .done
  | some revision =>
      cases bound : boundWatermark snapshot.watermark with
      | error error =>
          unfold publishSitePolicy insertSnapshot at ran
          rw [converted, bound] at ran
          cases ran
          unfold publishStatements
          rw [converted, bound]
          exact .done
      | ok watermark =>
          rw [publishStatements_asks converted bound]
          rw [publishSitePolicy_bound converted bound] at ran
          split at ran
          · cases ran
            exact .ask (.failed _) .done
          · rename_i inserted middle reached
            refine .ask (.inserted reached) ?_
            unfold afterInsert
            dsimp only
            by_cases one : inserted = 1
            · rw [if_pos one] at ran ⊢
              cases ran
              exact .done
            · rw [if_neg one] at ran ⊢
              rw [compareSnapshot_bound converted] at ran
              cases ran
              exact .ask .selected .done

end Statements

/-! ## The log of a tenant -/

/-- The stored revisions of a tenant, in the order they were published. -/
def policyLog (tenantId : String) (store : SqliteStore) : List SitePolicyRow :=
  store.sitePolicySnapshots.filter fun row => row.tenantId == tenantId

/-- The revisions 1, …, n. -/
def revisionsTo (n : Nat) : List Int := (List.range n).map fun (k : Nat) => (k : Int) + 1

theorem revisionsTo_succ (n : Nat) : revisionsTo (n + 1) = revisionsTo n ++ [(n : Int) + 1] := by
  unfold revisionsTo
  rw [List.range_succ, List.map_append, List.map_singleton]

theorem mem_revisionsTo {n : Nat} {revision : Int} :
    revision ∈ revisionsTo n ↔ 1 ≤ revision ∧ revision ≤ n := by
  unfold revisionsTo
  rw [List.mem_map]
  constructor
  · rintro ⟨k, within, rfl⟩
    rw [List.mem_range] at within
    omega
  · rintro ⟨lower, upper⟩
    refine ⟨(revision - 1).toNat, List.mem_range.2 ?_, ?_⟩
    · omega
    · omega

/-- A row as the store can hold it: its checks passed, and its numbers came from a snapshot. -/
structure Readable (row : SitePolicyRow) : Prop where
  checked : sitePolicyChecks row = true
  bounded : row.revision ≤ i64Max
  issued : minUnixTimestamp ≤ row.issuedAt ∧ row.issuedAt ≤ maxUnixTimestamp

/-- Every tenant's revisions are 1, …, n, and every row can be read back. -/
structure Logged (store : SqliteStore) : Prop where
  gapless : ∀ tenantId, (policyLog tenantId store).map SitePolicyRow.revision =
    revisionsTo (policyLog tenantId store).length
  readable : ∀ row ∈ store.sitePolicySnapshots, Readable row

section Log

variable {s t : SqliteStore}

theorem mem_policyLog {tenantId : String} {row : SitePolicyRow} :
    row ∈ policyLog tenantId s ↔ row ∈ s.sitePolicySnapshots ∧ row.tenantId = tenantId := by
  unfold policyLog
  rw [List.mem_filter, beq_iff_eq]

theorem policyLog_congr (same : t.sitePolicySnapshots = s.sitePolicySnapshots) (tenantId : String) :
    policyLog tenantId t = policyLog tenantId s := by
  unfold policyLog
  rw [same]

/-- The highest revision of a tenant is the length of its log. -/
theorem Logged.maxRevision (logged : Logged s) (tenantId : String) :
    s.maxRevision tenantId =
      if policyLog tenantId s = [] then none else some ((policyLog tenantId s).length : Int) := by
  have mapped : s.maxRevision tenantId =
      (revisionsTo (policyLog tenantId s).length).max? := by
    rw [← logged.gapless tenantId]
    rfl
  rw [mapped]
  split
  · rename_i empty
    rw [empty]
    rfl
  · rename_i nonempty
    have positive : 0 < (policyLog tenantId s).length := List.length_pos_iff.2 nonempty
    refine List.max?_eq_some_iff.2 ⟨mem_revisionsTo.2 ⟨by omega, le_refl _⟩, ?_⟩
    intro revision member
    exact (mem_revisionsTo.1 member).2

/-- The revision that can be published next is one more than the length of the log. -/
theorem Logged.nextRevision (logged : Logged s) (tenantId : String) :
    s.nextRevision tenantId = (policyLog tenantId s).length + 1 := by
  unfold SqliteStore.nextRevision
  rw [logged.maxRevision]
  split
  · rename_i empty
    rw [empty]
    rfl
  · rfl

/-- No row of a tenant carries a revision past the end of its log. -/
theorem Logged.unstored (logged : Logged s) {tenantId : String} {revision : Int}
    (past : (policyLog tenantId s).length < revision) :
    s.policyRevision tenantId revision = none := by
  unfold SqliteStore.policyRevision
  refine List.find?_eq_none.2 fun row member found => ?_
  rw [Bool.and_eq_true, beq_iff_eq, beq_iff_eq] at found
  have listed : row.revision ∈ (policyLog tenantId s).map SitePolicyRow.revision :=
    List.mem_map_of_mem (mem_policyLog.2 ⟨member, found.1⟩)
  rw [logged.gapless, mem_revisionsTo] at listed
  omega

/-- Every revision up to the end of the log is stored, once. -/
theorem Logged.stored (logged : Logged s) {tenantId : String} {revision : Int} (positive : 1 ≤ revision)
    (within : revision ≤ (policyLog tenantId s).length) :
    ∃ row ∈ policyLog tenantId s, row.revision = revision ∧
      s.policyRevision tenantId revision = some row := by
  have listed : revision ∈ (policyLog tenantId s).map SitePolicyRow.revision := by
    rw [logged.gapless]
    exact mem_revisionsTo.2 ⟨positive, within⟩
  obtain ⟨row, member, same⟩ := List.mem_map.1 listed
  obtain ⟨there, owned⟩ := mem_policyLog.1 member
  unfold SqliteStore.policyRevision
  cases found : s.sitePolicySnapshots.find? fun row =>
      row.tenantId == tenantId && row.revision == revision with
  | none => exact absurd (List.find?_eq_none.1 found row there) (by simp [owned, same])
  | some first =>
      have wanted := List.find?_some found
      rw [Bool.and_eq_true, beq_iff_eq, beq_iff_eq] at wanted
      exact ⟨first, mem_policyLog.2 ⟨List.mem_of_find?_eq_some found, wanted.1⟩, wanted.2, rfl⟩

theorem Logged.of_same (logged : Logged s) (same : t.sitePolicySnapshots = s.sitePolicySnapshots) :
    Logged t where
  gapless tenantId := by
    rw [policyLog_congr same]
    exact logged.gapless tenantId
  readable := by
    rw [same]
    exact logged.readable

/-- What the `INSERT` did, by the rows it reached. -/
theorem insertSitePolicy_cases {n : Nat} {row : SitePolicyRow}
    (ran : SqliteStore.insertSitePolicy row s = .ok (n, t)) :
    (n = 0 ∧ t = s ∧ (row.revision = s.nextRevision row.tenantId →
        settingsAt row.tenantId row.revision s ≠ none)) ∨
      (n = 1 ∧ row.revision = s.nextRevision row.tenantId ∧ sitePolicyChecks row = true ∧
        t = { s with sitePolicySnapshots := s.sitePolicySnapshots ++ [row] }) := by
  unfold SqliteStore.insertSitePolicy at ran
  split at ran
  · rename_i next
    simp only [except_bind_eq_ok, require_eq_ok] at ran
    obtain ⟨-, checked, ran⟩ := ran
    split at ran
    · rename_i taken
      cases ran
      refine .inl ⟨rfl, rfl, fun _ unset => ?_⟩
      obtain ⟨other, member, same⟩ := List.any_eq_true.1 taken
      exact List.find?_eq_none.1 (Option.map_eq_none_iff.1 unset) other member same
    · simp only [except_bind_eq_ok, require_eq_ok] at ran
      obtain ⟨-, -, result⟩ := ran
      cases result
      exact .inr ⟨rfl, next, checked, rfl⟩
  · rename_i other
    cases ran
    exact .inl ⟨rfl, rfl, fun next => absurd next other⟩

theorem policyLog_append (tenantId : String) (row : SitePolicyRow) :
    policyLog tenantId { s with sitePolicySnapshots := s.sitePolicySnapshots ++ [row] } =
      policyLog tenantId s ++ if row.tenantId = tenantId then [row] else [] := by
  unfold policyLog
  rw [List.filter_append, List.filter_singleton]
  by_cases owned : row.tenantId = tenantId
  · rw [if_pos owned, beq_iff_eq.2 owned]
    rfl
  · rw [if_neg owned, beq_eq_false_iff_ne.2 owned]
    rfl

/-- Publishing the next revision keeps the log without a gap. -/
theorem Logged.append (logged : Logged s) {row : SitePolicyRow}
    (next : row.revision = s.nextRevision row.tenantId) (readable : Readable row) :
    Logged { s with sitePolicySnapshots := s.sitePolicySnapshots ++ [row] } where
  gapless tenantId := by
    rw [policyLog_append]
    split
    · rename_i owned
      rw [logged.nextRevision, owned] at next
      rw [List.map_append, logged.gapless, List.length_append, List.map_singleton, next]
      exact (revisionsTo_succ _).symm
    · rw [List.append_nil]
      exact logged.gapless tenantId
  readable other member := by
    obtain old | new := List.mem_append.1 member
    · exact logged.readable other old
    · rw [List.mem_singleton.1 new]
      exact readable

/-- The appended row is the one found under its revision. -/
theorem policyRevision_appended (logged : Logged s) {row : SitePolicyRow}
    (next : row.revision = s.nextRevision row.tenantId) :
    SqliteStore.policyRevision row.tenantId row.revision
      { s with sitePolicySnapshots := s.sitePolicySnapshots ++ [row] } = some row := by
  have absent : s.policyRevision row.tenantId row.revision = none := by
    apply logged.unstored
    rw [next, logged.nextRevision]
    omega
  unfold SqliteStore.policyRevision
  rw [List.find?_append, show s.sitePolicySnapshots.find? _ = none from absent]
  simp

/-- The appended row is the active one. -/
theorem maxRevision_appended (logged : Logged s) {row : SitePolicyRow}
    (next : row.revision = s.nextRevision row.tenantId) (readable : Readable row) :
    SqliteStore.maxRevision row.tenantId
      { s with sitePolicySnapshots := s.sitePolicySnapshots ++ [row] } = some row.revision := by
  rw [(logged.append next readable).maxRevision, policyLog_append, if_pos rfl, if_neg (by simp),
    List.length_append, next, logged.nextRevision]
  rfl

theorem settingsAt_appended (logged : Logged s) {row : SitePolicyRow}
    (next : row.revision = s.nextRevision row.tenantId) :
    settingsAt row.tenantId row.revision
        { s with sitePolicySnapshots := s.sitePolicySnapshots ++ [row] } =
      some row.settingsSha256 := by
  unfold settingsAt
  rw [policyRevision_appended logged next]
  rfl

/-- A row that is stored stays stored. -/
theorem policyRevision_grown {tenantId : String} {revision : Int} {row : SitePolicyRow}
    (grown : s.sitePolicySnapshots <+: t.sitePolicySnapshots)
    (there : s.policyRevision tenantId revision = some row) :
    t.policyRevision tenantId revision = some row := by
  obtain ⟨more, grown⟩ := grown
  unfold SqliteStore.policyRevision at there ⊢
  rw [← grown, List.find?_append, there]
  rfl

/-- The `INSERT` of a call appends its snapshot as the next revision, or changes nothing. -/
theorem insertSnapshot_logs {snapshot : SitePolicySnapshot} {createdAt : OffsetDateTime}
    {result : Except SitePolicyRepositoryError Nat}
    (ran : insertSnapshot snapshot createdAt s = (result, t)) :
    (t = s ∧ result ≠ .ok 1) ∨
      ∃ columns, result = .ok 1 ∧ boundWatermark snapshot.watermark = .ok columns ∧
        (snapshot.revision : Int) = s.nextRevision snapshot.tenantId ∧
        Readable (snapshotRow snapshot snapshot.revision createdAt.unixTimestamp columns) ∧
        t = { s with sitePolicySnapshots := s.sitePolicySnapshots ++
          [snapshotRow snapshot snapshot.revision createdAt.unixTimestamp columns] } := by
  by_cases unbound : i64TryFrom snapshot.revision = none ∨
      ∃ error, boundWatermark snapshot.watermark = .error error
  · obtain ⟨same, error, rfl⟩ := insertSnapshot_unbound ran unbound
    exact .inl ⟨same, nofun⟩
  push Not at unbound
  obtain ⟨revision, converted⟩ := Option.ne_none_iff_exists'.1 unbound.1
  cases bound : boundWatermark snapshot.watermark with
  | error error => exact absurd bound (unbound.2 error)
  | ok columns =>
      rw [insertSnapshot_bound converted bound] at ran
      obtain ⟨rfl, bounded⟩ := i64TryFrom_eq_some.1 converted
      cases result with
      | error error => exact .inl ⟨autocommit_error ran, nofun⟩
      | ok n =>
          obtain ⟨rfl, rfl, -⟩ | ⟨rfl, next, checked, rfl⟩ :=
            insertSitePolicy_cases (autocommit_eq_ok.1 ran)
          · exact .inl ⟨rfl, nofun⟩
          · exact .inr ⟨columns, rfl, rfl, next,
              ⟨checked, bounded, snapshot.issuedAt.unixTimestamp_bounds⟩, rfl⟩

/-- An `INSERT` that reaches no row is of another revision than the next one. -/
theorem insertSnapshot_missed {snapshot : SitePolicySnapshot} {createdAt : OffsetDateTime} {n : Nat}
    (logged : Logged s) (ran : insertSnapshot snapshot createdAt s = (.ok n, t)) (missed : n ≠ 1) :
    (snapshot.revision : Int) ≠ s.nextRevision snapshot.tenantId := by
  simp only [insertSnapshot, call_bind_eq_ok, call_okOr_eq_ok, autocommit_eq_ok, call_readOr_eq,
    Prod.mk.injEq] at ran
  obtain ⟨revision, _, ⟨converted, rfl⟩, columns, _, ⟨bound, rfl⟩, inserts⟩ := ran
  obtain ⟨rfl, -⟩ := i64TryFrom_eq_some.1 converted
  obtain ⟨-, -, taken⟩ | ⟨rfl, -⟩ := insertSitePolicy_cases inserts
  · intro next
    refine taken next (Option.map_eq_none_iff.2 (logged.unstored ?_))
    have position := logged.nextRevision snapshot.tenantId
    have same : (snapshot.revision : Int) = s.nextRevision snapshot.tenantId := next
    show ((policyLog snapshot.tenantId s).length : Int) < snapshot.revision
    omega
  · exact absurd rfl missed

/-- The `SELECT` of a call accepts the row of its revision that carries its digest. -/
theorem compareSnapshot_accepts {snapshot : SitePolicySnapshot} {outcome : PublishPolicyOutcome}
    (ran : compareSnapshot snapshot s = (.ok outcome, t)) :
    outcome = .unchanged ∧ t = s ∧ ∃ row,
      s.policyRevision snapshot.tenantId snapshot.revision = some row ∧
      row.settingsSha256 = snapshot.settingsSha256 := by
  obtain ⟨revision, _, conversion, compared⟩ := call_bind_eq_ok.1 ran
  obtain ⟨converted, rfl⟩ := call_okOr_eq_ok.1 conversion
  obtain ⟨rfl, -⟩ := i64TryFrom_eq_some.1 converted
  rw [call_readOr_eq] at compared
  obtain ⟨answered, rfl⟩ := Prod.mk.inj compared
  split at answered
  · rename_i stored
    cases answered
    exact ⟨rfl, rfl, Option.map_eq_some_iff.1 stored⟩
  · cases answered

/-- The `INSERT` of a call keeps the log. -/
theorem insertSnapshot_keeps {snapshot : SitePolicySnapshot} {createdAt : OffsetDateTime}
    {result : Except SitePolicyRepositoryError Nat} (logged : Logged s)
    (ran : insertSnapshot snapshot createdAt s = (result, t)) :
    Logged t ∧ s.sitePolicySnapshots <+: t.sitePolicySnapshots := by
  obtain ⟨rfl, -⟩ | ⟨columns, -, -, next, readable, rfl⟩ := insertSnapshot_logs ran
  · exact ⟨logged, List.prefix_refl _⟩
  · exact ⟨logged.append next readable, List.prefix_append _ _⟩

/-- A call changes nothing, and is accepted only where its revision is stored with its digest; or
it appends its snapshot as the next revision. -/
theorem publishSitePolicy_logs {snapshot : SitePolicySnapshot} {createdAt : OffsetDateTime}
    {result : Except SitePolicyRepositoryError PublishPolicyOutcome}
    (ran : publishSitePolicy snapshot createdAt s = (result, t)) :
    (t = s ∧ ∀ outcome, result = .ok outcome → ∃ row,
        s.policyRevision snapshot.tenantId snapshot.revision = some row ∧
        row.settingsSha256 = snapshot.settingsSha256) ∨
      ∃ row, t = { s with sitePolicySnapshots := s.sitePolicySnapshots ++ [row] } ∧
        row.tenantId = snapshot.tenantId ∧ row.revision = snapshot.revision ∧
        row.revision = s.nextRevision row.tenantId ∧ Readable row ∧
        row.settingsSha256 = snapshot.settingsSha256 ∧
        boundWatermark snapshot.watermark = .ok row.watermark := by
  obtain ⟨error, failed, rfl⟩ | ⟨n, middle, inserts, ends⟩ :
      (∃ error, insertSnapshot snapshot createdAt s = (.error error, t) ∧ result = .error error) ∨
        ∃ n middle, insertSnapshot snapshot createdAt s = (.ok n, middle) ∧
          (if n = 1 then pure .published else compareSnapshot snapshot :
            Call SqliteStore SitePolicyRepositoryError PublishPolicyOutcome) middle =
              (result, t) := by
    cases result with
    | error error =>
        exact (call_bind_eq_error.1 ran).imp (fun failed => ⟨error, failed, rfl⟩) id
    | ok outcome => exact .inr (call_bind_eq_ok.1 ran)
  · obtain ⟨rfl, -⟩ | ⟨columns, one, -⟩ := insertSnapshot_logs failed
    · exact .inl ⟨rfl, nofun⟩
    · cases one
  · obtain ⟨rfl, other⟩ | ⟨columns, one, bound, next, readable, rfl⟩ := insertSnapshot_logs inserts
    · rw [if_neg fun same => other (congrArg Except.ok same)] at ends
      refine .inl ⟨compareSnapshot_same ends, fun outcome accepted => ?_⟩
      rw [accepted] at ends
      exact (compareSnapshot_accepts ends).2.2
    · rw [if_pos (Except.ok.inj one)] at ends
      cases ends
      exact .inr ⟨_, rfl, rfl, rfl, next, readable, rfl, bound⟩

/-- A call ran, or the store refused it. -/
theorem answers_ran {op : Op} {ok : Bool} (answers : Store.Answers op s ok t) :
    t = s ∨ t = (op.run s).2 := by
  cases answers with
  | ran => exact .inr rfl
  | refused => exact .inl rfl

/-- After a call that is accepted, its revision is stored with its digest: the row is the one
that was appended, or was there. -/
theorem publishSitePolicy_accepted {snapshot : SitePolicySnapshot} {createdAt : OffsetDateTime}
    {outcome : PublishPolicyOutcome} (logged : Logged s)
    (ran : publishSitePolicy snapshot createdAt s = (.ok outcome, t)) :
    ∃ row, t.policyRevision snapshot.tenantId snapshot.revision = some row ∧
      row.settingsSha256 = snapshot.settingsSha256 ∧
      (boundWatermark snapshot.watermark = .ok row.watermark ∨
        s.policyRevision snapshot.tenantId snapshot.revision = some row) := by
  obtain ⟨rfl, there⟩ | ⟨row, rfl, owned, revision, next, -, settings, bound⟩ :=
    publishSitePolicy_logs ran
  · obtain ⟨row, stored, settings⟩ := there outcome rfl
    exact ⟨row, stored, settings, .inr stored⟩
  · refine ⟨row, ?_, settings, .inl bound⟩
    rw [← owned, ← revision]
    exact policyRevision_appended logged next

/-- A call keeps the log. -/
theorem publishSitePolicy_keeps {snapshot : SitePolicySnapshot} {createdAt : OffsetDateTime}
    {result : Except SitePolicyRepositoryError PublishPolicyOutcome} (logged : Logged s)
    (ran : publishSitePolicy snapshot createdAt s = (result, t)) :
    Logged t ∧ s.sitePolicySnapshots <+: t.sitePolicySnapshots := by
  obtain ⟨rfl, -⟩ | ⟨row, rfl, -, -, next, readable, -, -⟩ := publishSitePolicy_logs ran
  · exact ⟨logged, List.prefix_refl _⟩
  · exact ⟨logged.append next readable, List.prefix_append _ _⟩

end Log

/-! ## Reading the active policy -/

/-- What `site_policy_from_row` takes from where. -/
theorem sitePolicyFromRow_fields {row : SitePolicyRow} {policy : SitePolicySnapshot}
    (read : sitePolicyFromRow row = .ok policy) :
    policy.tenantId = row.tenantId ∧ (policy.schemaVersion : Int) = row.schemaVersion ∧
      (policy.revision : Int) = row.revision ∧ policy.issuedAt.unixTimestamp = row.issuedAt ∧
      policy.settingsSha256 = row.settingsSha256 ∧
      storedWatermarkOption row.watermark = .ok policy.watermark := by
  unfold sitePolicyFromRow at read
  split at read
  · cases read
  · rename_i issuedAt issued
    obtain ⟨watermark, marked, read⟩ := except_bind_eq_ok.1 read
    split at read
    · cases read
    · rename_i schemaVersion version
      split at read
      · cases read
      · rename_i revision numbered
        cases read
        exact ⟨rfl, (u16TryFrom_eq_some.1 version).1.symm, (u64TryFrom_eq_some.1 numbered).1.symm,
          OffsetDateTime.fromUnixTimestamp_eq_some issued, rfl, marked⟩

theorem storedWatermarkOption_ok {row : SitePolicyRow} (checked : sitePolicyChecks row = true) :
    ∃ watermark, storedWatermarkOption row.watermark = .ok watermark := by
  cases marked : row.watermark with
  | none => exact ⟨none, rfl⟩
  | some mark =>
      simp only [sitePolicyChecks, marked, Option.all_some, Bool.and_eq_true, decide_eq_true_eq]
        at checked
      obtain ⟨-, ⟨⟨⟨byteLen, -⟩, margin⟩, width⟩, opacity⟩ := checked
      have length : u64TryFrom mark.byteLen = some mark.byteLen.toNat := if_pos (by omega)
      have marginPx : u32TryFrom mark.marginPx = some mark.marginPx.toNat := if_pos (by omega)
      have percent : u8TryFrom mark.maxWidthPercent = some mark.maxWidthPercent.toNat :=
        if_pos (by omega)
      have opaqueness : u8TryFrom mark.opacityPercent = some mark.opacityPercent.toNat :=
        if_pos (by omega)
      show ∃ watermark, (storedWatermark mark).map some = .ok watermark
      unfold storedWatermark
      rw [length, marginPx, percent, opaqueness]
      exact ⟨_, rfl⟩

/-- A readable row is read back with the revision, the digest and the watermark it was published
with. -/
theorem Readable.read {row : SitePolicyRow} (readable : Readable row) :
    ∃ policy, sitePolicyFromRow row = .ok policy ∧ policy.tenantId = row.tenantId ∧
      (policy.revision : Int) = row.revision ∧ policy.settingsSha256 = row.settingsSha256 ∧
      storedWatermarkOption row.watermark = .ok policy.watermark := by
  obtain ⟨issuedAt, issued, -⟩ :=
    OffsetDateTime.fromUnixTimestamp_of_within readable.issued.1 readable.issued.2
  obtain ⟨watermark, marked⟩ := storedWatermarkOption_ok readable.checked
  have checked := readable.checked
  simp only [sitePolicyChecks, Bool.and_eq_true, decide_eq_true_eq] at checked
  obtain ⟨⟨⟨⟨-, positive⟩, schema⟩, -⟩, -⟩ := checked
  have bounded := readable.bounded
  unfold i64Max at bounded
  have version : u16TryFrom row.schemaVersion = some row.schemaVersion.toNat := if_pos (by omega)
  have revision : u64TryFrom row.revision = some row.revision.toNat := if_pos (by omega)
  refine ⟨⟨row.tenantId, row.schemaVersion.toNat, row.revision.toNat, issuedAt,
    row.settingsSha256, watermark⟩, ?_, rfl, Int.toNat_of_nonneg (by omega), rfl, marked⟩
  unfold sitePolicyFromRow
  rw [issued]
  show (storedWatermarkOption row.watermark >>= _) = _
  rw [marked, version, revision]
  rfl

/-! ## Many publishers -/

/-- A call of `publish_site_policy`. -/
structure Publication where
  snapshot : SitePolicySnapshot
  createdAt : OffsetDateTime

/-- Any number of publications, statement by statement, between any other store operations. -/
def publishers : Machine Reply Publication Op SqliteStore where
  program publication :=
    (publishStatements publication.snapshot publication.createdAt).attempt.discard
  answers := Executes
  moves s op t := Kind.policies ∉ op.kinds ∧ ∃ ok, Store.Answers op s ok t

abbrev PublishersState := State Reply Publication SqliteStore

abbrev PublishersLabel := Label Reply Publication Op

/-- Call `i` has ended with the outcome. -/
def Ended (s : PublishersState) (i : Nat) (publication : Publication)
    (outcome : Except SitePolicyRepositoryError PublishPolicyOutcome) : Prop :=
  s.call i = some publication ∧
    At (publishStatements publication.snapshot publication.createdAt).attempt (s.past i)
      (.done outcome)

/-- The snapshot's revision is stored with its digest. -/
def Stored (snapshot : SitePolicySnapshot) (store : SqliteStore) : Prop :=
  settingsAt snapshot.tenantId snapshot.revision store = some snapshot.settingsSha256

/-- The stored revisions of the snapshot's tenant. -/
def revisions (snapshot : SitePolicySnapshot) (store : SqliteStore) : Nat :=
  (policyLog snapshot.tenantId store).length

/-- What a statement of a publication does to a store, and the outcome it ends the call with,
if it ends it. -/
inductive Publishes (snapshot : SitePolicySnapshot) (s t : SqliteStore) :
    Option (Except SitePolicyRepositoryError PublishPolicyOutcome) → Prop
  | waits (other : snapshot.revision ≠ revisions snapshot s + 1) (same : t = s) :
      Publishes snapshot s t none
  | published {row : SitePolicyRow} (next : snapshot.revision = revisions snapshot s + 1)
      (owned : row.tenantId = snapshot.tenantId) (revision : row.revision = snapshot.revision)
      (settings : row.settingsSha256 = snapshot.settingsSha256) (fresh : ¬ Stored snapshot s)
      (appended : t = { s with sitePolicySnapshots := s.sitePolicySnapshots ++ [row] }) :
      Publishes snapshot s t (some (.ok .published))
  | unchanged (stored : Stored snapshot s) (same : t = s) :
      Publishes snapshot s t (some (.ok .unchanged))
  | conflict (differs : ¬ Stored snapshot s) (same : t = s) :
      Publishes snapshot s t (some (.error .revisionConflict))
  | backend (fault : Fault) (same : t = s) : Publishes snapshot s t (some (.error (.backend fault)))

section Steps

variable {snapshot : SitePolicySnapshot} {s t : SqliteStore}

/-- What the `INSERT` of a publication does, and how the call goes on. -/
theorem publishes_insert {createdAt : OffsetDateTime} {revision : Int}
    {watermark : Option WatermarkColumns} {answer : Except SqlError Nat} (logged : Logged s)
    (converted : i64TryFrom snapshot.revision = some revision)
    (executes : Executes s
      (.insert (snapshotRow snapshot revision createdAt.unixTimestamp watermark)) answer t) :
    ∃ outcome, Publishes snapshot s t outcome ∧
      ∀ ended, afterInsert snapshot revision answer = .done ended ↔ outcome = some ended := by
  obtain ⟨rfl, bounded⟩ := i64TryFrom_eq_some.1 converted
  cases executes with
  | failed error =>
      refine ⟨_, .backend (.sqliteBackend error) rfl, fun ended => ?_⟩
      constructor
      · rintro ⟨⟩
        rfl
      · rintro ⟨⟩
        rfl
  | inserted ran =>
      obtain ⟨rfl, same, taken⟩ | ⟨rfl, next, checked, rfl⟩ := insertSitePolicy_cases ran
      · refine ⟨none, .waits (fun next => ?_) same, fun ended => ?_⟩
        · have due : ((snapshot.revision : Nat) : Int) = s.nextRevision snapshot.tenantId := by
            rw [logged.nextRevision, next]
            rfl
          refine taken due ?_
          unfold settingsAt
          rw [show s.policyRevision _ _ = none from logged.unstored ?_]
          · rfl
          · show _ < ((snapshot.revision : Nat) : Int)
            rw [due, logged.nextRevision]
            exact Int.lt_succ _
        · constructor
          · intro asks
            cases asks
          · rintro ⟨⟩
      · have due : ((snapshot.revision : Nat) : Int) = s.nextRevision snapshot.tenantId := next
        rw [logged.nextRevision] at due
        refine ⟨_, .published (by unfold revisions; omega) rfl rfl rfl ?_ rfl, fun ended => ?_⟩
        · intro stored
          unfold Stored settingsAt at stored
          rw [logged.unstored (by omega)] at stored
          cases stored
        · constructor
          · rintro ⟨⟩
            rfl
          · rintro ⟨⟩
            rfl

/-- What the `SELECT` of a publication answers. -/
theorem publishes_select {answer : Except SqlError (Option String)}
    (executes : Executes s (.selectSettings snapshot.tenantId snapshot.revision) answer t) :
    Publishes snapshot s t (some (replayOutcome snapshot answer)) := by
  cases executes with
  | failed error => exact .backend (.sqliteBackend error) rfl
  | selected =>
      unfold replayOutcome
      dsimp only
      split
      · rename_i stored
        exact .unchanged stored rfl
      · rename_i differs
        exact .conflict differs rfl

/-- Where a publication can stand when it asks. -/
inductive Standing (publication : Publication) : (statement : PolicyStatement) →
    (Reply statement → Program Reply (Except SitePolicyRepositoryError PublishPolicyOutcome)) → Prop
  | inserts {revision : Int} {watermark : Option WatermarkColumns}
      (converted : i64TryFrom publication.snapshot.revision = some revision) :
      Standing publication (.insert (snapshotRow publication.snapshot revision
        publication.createdAt.unixTimestamp watermark)) (afterInsert publication.snapshot revision)
  | selects : Standing publication
      (.selectSettings publication.snapshot.tenantId publication.snapshot.revision)
      fun existing => .done (replayOutcome publication.snapshot existing)

theorem standing {publication : Publication} {past : List (Exchange Reply)}
    {statement : PolicyStatement}
    {next : Reply statement → Program Reply (Except SitePolicyRepositoryError PublishPolicyOutcome)}
    (stands : At (publishStatements publication.snapshot publication.createdAt).attempt past
      (.ask statement next)) : Standing publication statement next := by
  obtain ⟨revision, watermark, converted, asks⟩ | ⟨error, ends, -⟩ :=
    publishStatements_cases publication.snapshot publication.createdAt
  · rw [asks, at_ask] at stands
    obtain ⟨-, first⟩ | ⟨answer, more, -, later⟩ := stands
    · cases first
      exact .inserts converted
    · obtain ⟨rfl, -⟩ := i64TryFrom_eq_some.1 converted
      unfold afterInsert at later
      split at later
      · cases (at_done.1 later).2
      · split at later
        · cases (at_done.1 later).2
        · rw [at_ask] at later
          obtain ⟨-, second⟩ | ⟨existing, more, -, ended⟩ := later
          · cases second
            exact .selects
          · cases (at_done.1 ended).2
  · rw [ends] at stands
    cases (at_done.1 stands).2

/-- What the next statement of a publication does, wherever the call stands. -/
theorem Standing.publishes {publication : Publication} {statement : PolicyStatement}
    {next : Reply statement → Program Reply (Except SitePolicyRepositoryError PublishPolicyOutcome)}
    {answer : Reply statement} (stands : Standing publication statement next) (logged : Logged s)
    (executes : Executes s statement answer t) :
    ∃ outcome, Publishes publication.snapshot s t outcome ∧
      ∀ ended, next answer = .done ended ↔ outcome = some ended := by
  cases stands with
  | inserts converted => exact publishes_insert logged converted executes
  | selects =>
      refine ⟨_, publishes_select executes, fun ended => ?_⟩
      constructor
      · rintro ⟨⟩
        rfl
      · rintro ⟨⟩
        rfl

/-- A statement of a publication keeps the log and the integrity of the store. -/
theorem Standing.keeps {publication : Publication} {statement : PolicyStatement}
    {next : Reply statement → Program Reply (Except SitePolicyRepositoryError PublishPolicyOutcome)}
    {answer : Reply statement} (stands : Standing publication statement next) (logged : Logged s)
    (integrity : s.Integrity) (executes : Executes s statement answer t) :
    Logged t ∧ t.Integrity := by
  cases stands with
  | selects => cases executes <;> exact ⟨logged, integrity⟩
  | inserts converted =>
      cases executes with
      | failed error => exact ⟨logged, integrity⟩
      | inserted ran =>
          obtain ⟨rfl, bounded⟩ := i64TryFrom_eq_some.1 converted
          refine ⟨?_, (Wrote.insertSitePolicy (K := [.policies]) (by simp) bounded ran).effect.integrity
            integrity⟩
          obtain ⟨-, same, -⟩ | ⟨-, following, checked, rfl⟩ := insertSitePolicy_cases ran
          · rw [same]
            exact logged
          · exact logged.append following
              ⟨checked, bounded, publication.snapshot.issuedAt.unixTimestamp_bounds⟩

/-- A call that has ended well has had a statement. -/
theorem ended_asked {publication : Publication} {past : List (Exchange Reply)}
    {outcome : PublishPolicyOutcome}
    (ended : At (publishStatements publication.snapshot publication.createdAt).attempt past
      (.done (.ok outcome))) : past ≠ [] := by
  rintro rfl
  obtain ⟨revision, watermark, -, asks⟩ | ⟨error, ends, -⟩ :=
    publishStatements_cases publication.snapshot publication.createdAt
  · rw [asks, at_ask] at ended
    obtain ⟨-, same⟩ | ⟨_, _, nonempty, -⟩ := ended
    · cases same
    · cases nonempty
  · rw [ends, at_done] at ended
    cases ended.2

/-- Rows are only added, at the end. -/
theorem Publishes.grows {outcome : Option (Except SitePolicyRepositoryError PublishPolicyOutcome)}
    (publishes : Publishes snapshot s t outcome) :
    s.sitePolicySnapshots <+: t.sitePolicySnapshots := by
  have unmoved : t = s → s.sitePolicySnapshots <+: t.sitePolicySnapshots := by
    rintro rfl
    exact List.prefix_refl _
  cases publishes with
  | published _ _ _ _ _ appended =>
      rw [appended]
      exact List.prefix_append _ _
  | waits _ same => exact unmoved same
  | unchanged _ same => exact unmoved same
  | conflict _ same => exact unmoved same
  | backend _ same => exact unmoved same

/-- A call that ends well leaves its revision stored. -/
theorem Publishes.stored {outcome : PublishPolicyOutcome} (logged : Logged s)
    (publishes : Publishes snapshot s t (some (.ok outcome))) : Stored snapshot t := by
  cases publishes with
  | unchanged stored same =>
      rw [same]
      exact stored
  | @published row next owned revision settings fresh appended =>
      unfold Stored
      rw [appended, ← owned, ← revision, ← settings]
      refine settingsAt_appended logged ?_
      rw [revision, owned, logged.nextRevision, next]
      rfl

theorem Stored.grown (stored : Stored snapshot s)
    (grown : s.sitePolicySnapshots <+: t.sitePolicySnapshots) : Stored snapshot t := by
  obtain ⟨row, found, same⟩ := Option.map_eq_some_iff.1 stored
  unfold Stored settingsAt
  rw [policyRevision_grown grown found]
  exact congrArg some same

end Steps

/-! ## Runs -/

section Runs

/-- What holds of every state of a run of publishers. -/
structure Reached (s : PublishersState) : Prop where
  integrity : s.shared.Integrity
  logged : Logged s.shared
  accepted : ∀ i publication outcome, Ended s i publication (.ok outcome) →
    Stored publication.snapshot s.shared

variable {s t : PublishersState} {label : PublishersLabel}

theorem reached_initial : Reached (.initial .migrated) where
  integrity := migrated_integrity
  logged := by
    constructor
    · intro tenantId
      rfl
    · intro row member
      cases member
  accepted i publication outcome ended := by cases ended.1

theorem publishers_stands {i : Nat} {exchange : Exchange Reply} {publication : Publication}
    (step : publishers.Step s (.asked i exchange) t) (called : s.call i = some publication) :
    ∃ next, At (publishStatements publication.snapshot publication.createdAt).attempt (s.past i)
        (.ask exchange.1 next) ∧
      At (publishStatements publication.snapshot publication.createdAt).attempt (t.past i)
        (next exchange.2) ∧ Executes s.shared exchange.1 exchange.2 t.shared := by
  obtain ⟨call, following, asked⟩ := step.asked_cases
  obtain rfl := Option.some.inj (asked.call.symm.trans called)
  obtain ⟨before, reached, same⟩ := asked.stands.of_discard
  cases before with
  | done result => cases same
  | ask request next =>
      have named : request = exchange.1 := by
        cases same
        rfl
      subst named
      refine ⟨next, reached, ?_, asked.answered⟩
      rw [step.past, Label.heard, if_pos rfl]
      exact .heard reached exchange.2

/-- What a publication's step does, and the outcome it ends the call with. -/
theorem answered_step {i : Nat} {exchange : Exchange Reply} {publication : Publication}
    (logged : Logged s.shared) (step : publishers.Step s (.asked i exchange) t)
    (called : s.call i = some publication) :
    ∃ outcome, Publishes publication.snapshot s.shared t.shared outcome ∧
      ∀ ended, Ended t i publication ended ↔ outcome = some ended := by
  obtain ⟨next, before, after, executes⟩ := publishers_stands step called
  obtain ⟨outcome, publishes, ends⟩ := (standing before).publishes logged executes
  refine ⟨outcome, publishes, fun ended => ?_⟩
  rw [← ends]
  constructor
  · intro finished
    exact after.unique finished.2
  · intro finished
    rw [finished] at after
    exact ⟨step.call called, after⟩

/-- Rows are only added, at the end, and by publications. -/
theorem log_step (reached : Reached s) (step : publishers.Step s label t) :
    s.shared.sitePolicySnapshots <+: t.shared.sitePolicySnapshots ∧
      ((∀ i, label.heard i = []) → t.shared.sitePolicySnapshots = s.shared.sitePolicySnapshots) := by
  obtain ⟨i, exchange, rfl, -⟩ | ⟨op, rfl, quiet, ok, answers⟩ | ⟨same, -⟩ := step.shared_cases
  · obtain ⟨publication, next, asked⟩ := step.asked_cases
    obtain ⟨outcome, publishes, -⟩ := answered_step reached.logged step asked.call
    refine ⟨publishes.grows, fun unheard => ?_⟩
    have heard := unheard i
    rw [Label.heard, if_pos rfl] at heard
    cases heard
  · have same := (answers.effect reached.integrity).policies_same quiet
    rw [same]
    exact ⟨List.prefix_refl _, fun _ => rfl⟩
  · rw [same]
    exact ⟨List.prefix_refl _, fun _ => rfl⟩

theorem reached_step (reached : Reached s) (step : publishers.Step s label t) : Reached t := by
  have grown := (log_step reached step).1
  have stored : Logged t.shared ∧ t.shared.Integrity := by
    obtain ⟨i, exchange, rfl, -⟩ | ⟨op, rfl, quiet, ok, answers⟩ | ⟨same, -⟩ := step.shared_cases
    · obtain ⟨publication, _, asked⟩ := step.asked_cases
      obtain ⟨next, before, -, executes⟩ := publishers_stands step asked.call
      exact (standing before).keeps reached.logged reached.integrity executes
    · exact ⟨reached.logged.of_same ((answers.effect reached.integrity).policies_same quiet),
        answers.integrity reached.integrity⟩
    · rw [same]
      exact ⟨reached.logged, reached.integrity⟩
  refine ⟨stored.2, stored.1, fun i publication outcome ended => ?_⟩
  have asked := ended_asked ended.2
  obtain old | ⟨rfl, fresh⟩ := step.call_cases ended.1
  · obtain quiet | ⟨exchange, rfl⟩ := label.heard_eq i
    · have past := step.past i
      rw [quiet, List.append_nil] at past
      have before : Ended s i publication (.ok outcome) := ⟨old, past ▸ ended.2⟩
      exact (reached.accepted i publication outcome before).grown grown
    · obtain ⟨result, publishes, ends⟩ := answered_step reached.logged step old
      obtain rfl := (ends _).1 ended
      exact publishes.stored reached.logged
  · have past := step.past i
    rw [fresh] at past
    exact absurd past asked

/-- The active policy of a tenant is the last one of its log. -/
def ActiveIsLast (tenantId : String) (store : SqliteStore) : Prop :=
  (policyLog tenantId store = [] ∧ findActiveSitePolicy tenantId store = (.ok none, store)) ∨
    ∃ row ∈ policyLog tenantId store, ∃ policy, row.revision = (policyLog tenantId store).length ∧
      findActiveSitePolicy tenantId store = (.ok (some policy), store) ∧
      policy.tenantId = tenantId ∧ (policy.revision : Int) = row.revision ∧
      policy.settingsSha256 = row.settingsSha256

theorem Logged.active {s : SqliteStore} (logged : Logged s) (tenantId : String) :
    ActiveIsLast tenantId s := by
  unfold ActiveIsLast findActiveSitePolicy
  rw [call_readOr_eq, logged.maxRevision]
  by_cases empty : policyLog tenantId s = []
  · rw [if_pos empty]
    exact .inl ⟨empty, rfl⟩
  · rw [if_neg empty]
    have positive : 0 < (policyLog tenantId s).length := List.length_pos_iff.2 empty
    have last : ((policyLog tenantId s).length : Int) ≤ (policyLog tenantId s).length := le_refl _
    obtain ⟨row, member, last, found⟩ := logged.stored (by omega) last
    obtain ⟨there, owned⟩ := mem_policyLog.1 member
    obtain ⟨policy, read, tenant, revision, settings, -⟩ := (logged.readable row there).read
    refine .inr ⟨row, member, policy, last, ?_, tenant.trans owned, revision, settings⟩
    rw [Option.bind_some, found]
    show ((sitePolicyFromRow row).map some, s) = _
    rw [read]
    rfl

/-- What the log of a state is worth, and what the next step can do to it. -/
structure SitePolicyLog (s : PublishersState) : Prop where
  gapless : ∀ tenantId, (policyLog tenantId s.shared).map SitePolicyRow.revision =
    revisionsTo (policyLog tenantId s.shared).length
  active : ∀ tenantId, ActiveIsLast tenantId s.shared
  grows : ∀ label t, publishers.Step s label t →
    s.shared.sitePolicySnapshots <+: t.shared.sitePolicySnapshots ∧
      ((∀ i, label.heard i = []) → t.shared.sitePolicySnapshots = s.shared.sitePolicySnapshots)
  answered : ∀ i exchange publication t, publishers.Step s (.asked i exchange) t →
    s.call i = some publication →
      ∃ outcome, Publishes publication.snapshot s.shared t.shared outcome ∧
        ∀ ended, Ended t i publication ended ↔ outcome = some ended
  unasked : ∀ i publication ended, Ended s i publication ended → s.past i = [] →
    (ended = .error .revisionConflict ∧ i64TryFrom publication.snapshot.revision = none) ∨
      ∃ fault, ended = .error (.backend fault)
  accepted : ∀ i publication outcome, Ended s i publication (.ok outcome) →
    Stored publication.snapshot s.shared
  agree : ∀ i j publication other outcome outcome', Ended s i publication (.ok outcome) →
    Ended s j other (.ok outcome') → publication.snapshot.tenantId = other.snapshot.tenantId →
      publication.snapshot.revision = other.snapshot.revision →
        publication.snapshot.settingsSha256 = other.snapshot.settingsSha256

/-- **The site policy log**, in every run of publications and other store operations, statement
by statement: each tenant's revisions are 1, …, n, they only grow at the end, and the active
policy is revision n; a publication appends revision n + 1, is `Unchanged` where its revision is
stored with its digest, or fails, and only the append writes; what was accepted stays stored, so
two accepted publications of one revision have one digest. -/
theorem site_policy_log {labels : List PublishersLabel} {s : PublishersState}
    (run : Trace publishers.Step (.initial .migrated) labels s) : SitePolicyLog s := by
  have reached : Reached s :=
    run.keeps (fun _ _ _ step reached => reached_step reached step) reached_initial
  refine ⟨reached.logged.gapless, reached.logged.active, fun label t step => log_step reached step,
    fun i exchange publication t step called => answered_step reached.logged step called, ?_,
    reached.accepted, ?_⟩
  · intro i publication ended finished empty
    have stands := finished.2
    rw [empty] at stands
    obtain ⟨revision, watermark, -, asks⟩ | ⟨error, ends, why⟩ :=
      publishStatements_cases publication.snapshot publication.createdAt
    · rw [asks] at stands
      cases stands.unique .start
    · rw [ends] at stands
      cases stands.unique .start
      obtain ⟨rfl, unbound⟩ | ⟨fault, rfl⟩ := why
      · exact .inl ⟨rfl, unbound⟩
      · exact .inr ⟨fault, rfl⟩
  · intro i j publication other outcome outcome' first second tenant revision
    have stored := reached.accepted i publication outcome first
    have stored' := reached.accepted j other outcome' second
    unfold Stored at stored stored'
    rw [tenant, revision, stored'] at stored
    exact (Option.some.inj stored).symm

end Runs

/-! ## Two tenants, and a publication the store refuses -/

/-- The answer of a store whose statements do not fail for reasons of their own. -/
def publishersRespond (store : SqliteStore) :
    (statement : PolicyStatement) → Option (Reply statement × SqliteStore)
  | .insert row =>
      match SqliteStore.insertSitePolicy row store with
      | .ok (inserted, stored) => some (.ok inserted, stored)
      | .error error => some (.error error, store)
  | .selectSettings tenantId revision => some (.ok (settingsAt tenantId revision store), store)

/-- The responder of publishers that are alone with their store. -/
def publishersResponder : Responder publishers where
  respond := publishersRespond
  allowed := by
    rintro s statement answer t responded
    cases statement with
    | insert row =>
        rw [publishersRespond] at responded
        split at responded
        · rename_i inserted stored ran
          cases responded
          exact .inserted ran
        · rename_i error ran
          cases responded
          exact .failed error
    | selectSettings tenantId revision =>
        cases responded
        exact .selected
  occur := fun _ _ => none
  moves := fun _ _ _ occurred => by cases occurred

/-- A revision without a watermark. -/
def sampleSnapshot (tenantId : String) (revision : Nat) (settingsSha256 : String) :
    SitePolicySnapshot where
  tenantId := tenantId
  schemaVersion := 1
  revision := revision
  issuedAt := sampleTime 0
  settingsSha256 := settingsSha256
  watermark := none

def firstDigest : String := "aaaaaaaaaaaaaaaaaaaaaaaaaaaaaaaaaaaaaaaaaaaaaaaaaaaaaaaaaaaaaaaa"

def secondDigest : String := "bbbbbbbbbbbbbbbbbbbbbbbbbbbbbbbbbbbbbbbbbbbbbbbbbbbbbbbbbbbbbbbb"

def lateDigest : String := "cccccccccccccccccccccccccccccccccccccccccccccccccccccccccccccccc"

/-- Two tenants publish.  Two publications of one revision meet at the second of the first tenant,
and its first is published once more. -/
def publicationTurns : List (Command Publication Op) :=
  [.start ⟨sampleSnapshot "g5" 1 firstDigest, sampleTime 0⟩, .run 0 1,
    .start ⟨sampleSnapshot "g7" 1 firstDigest, sampleTime 1⟩,
    .start ⟨sampleSnapshot "g5" 2 lateDigest, sampleTime 2⟩,
    .start ⟨sampleSnapshot "g5" 2 secondDigest, sampleTime 3⟩, .run 3 1, .run 2 1, .run 1 1, .run 2 1,
    .start ⟨sampleSnapshot "g5" 1 firstDigest, sampleTime 4⟩, .run 4 2]

/-- Whether both logs are there, without the publication that came late. -/
def published (s : PublishersState) : Bool :=
  (policyLog "g5" s.shared).map SitePolicyRow.settingsSha256 == [firstDigest, secondDigest] &&
    (policyLog "g7" s.shared).map SitePolicyRow.settingsSha256 == [firstDigest]

/-- Five publications of two tenants come to three revisions. -/
theorem site_policy_log_sample : ∃ labels, ∃ s : PublishersState,
    Trace publishers.Step (.initial .migrated) labels s ∧ SitePolicyLog s ∧ s.threads.length = 5 ∧
      (policyLog "g5" s.shared).map SitePolicyRow.settingsSha256 = [firstDigest, secondDigest] ∧
      (policyLog "g7" s.shared).map SitePolicyRow.settingsSha256 = [firstDigest] := by
  have played : (publishersResponder.play (fun _ _ => true) .migrated publicationTurns).any
      (fun s => s.threads.length == 5 && published s) = true := by
    decide +kernel
  obtain ⟨s, led, holds⟩ := (Option.any_eq_true _ _).1 played
  obtain ⟨labels, run⟩ := Responder.play_runs led
  simp only [published, Bool.and_eq_true, beq_iff_eq] at holds
  exact ⟨labels, s, run.unguarded, site_policy_log run.unguarded, holds⟩

/-- The same revision with a watermark whose asset is not there any more. -/
def orphanedSnapshot : SitePolicySnapshot where
  tenantId := "g5"
  schemaVersion := 1
  revision := 1
  issuedAt := sampleTime 0
  settingsSha256 := "bbbbbbbbbbbbbbbbbbbbbbbbbbbbbbbbbbbbbbbbbbbbbbbbbbbbbbbbbbbbbbbb"
  watermark := some ⟨sampleUploadId, sampleRow.objectKey, 100,
    "aaaaaaaaaaaaaaaaaaaaaaaaaaaaaaaaaaaaaaaaaaaaaaaaaaaaaaaaaaaaaaaa", .center, 10, 20, 50⟩

/-- Its row. -/
def orphanedRow : SitePolicyRow :=
  snapshotRow orphanedSnapshot 1 (sampleTime 0).unixTimestamp
    (orphanedSnapshot.watermark.map fun mark => watermarkColumns mark 100)

theorem orphanedRow_refused :
    SqliteStore.insertSitePolicy orphanedRow .migrated = .error .foreignKeyViolation := by
  have checked : sitePolicyChecks orphanedRow = true := by decide +kernel
  have next : orphanedRow.revision =
      ((SqliteStore.migrated.maxRevision orphanedRow.tenantId).map (· + 1)).getD 1 := rfl
  unfold SqliteStore.insertSitePolicy
  rw [if_pos next, checked]
  rfl

/-- **A publication can fail in the store's own terms.**  The snapshot carries revision n + 1 and
its asset is gone: it is not appended, not `Unchanged`, and the answer is no conflict. -/
theorem publication_backend :
    (orphanedSnapshot.revision : Int) =
        SqliteStore.migrated.nextRevision orphanedSnapshot.tenantId ∧
      publishSitePolicy orphanedSnapshot (sampleTime 0) .migrated =
        (.error (.backend (.sqliteBackend .foreignKeyViolation)), .migrated) := by
  refine ⟨rfl, ?_⟩
  have converted : i64TryFrom orphanedSnapshot.revision = some 1 := rfl
  have bound : boundWatermark orphanedSnapshot.watermark =
      .ok (orphanedSnapshot.watermark.map fun mark => watermarkColumns mark 100) := rfl
  have refused : SqliteStore.insertSitePolicy (snapshotRow orphanedSnapshot 1
      (sampleTime 0).unixTimestamp (orphanedSnapshot.watermark.map fun mark =>
        watermarkColumns mark 100)) .migrated = .error .foreignKeyViolation := orphanedRow_refused
  rw [publishSitePolicy_bound converted bound, refused]
  rfl

end MediaBooster.Policies
