/-
# Backups.Command -- what a backup has behind it when it asks

Every request of `database_backup` stands in a relation to the requests before it and to their
answers: `Rule` says which.  It reads back only what it has just copied, it writes the manifest of
what it has read, hashed and measured, it links a snapshot only when the copy passed the
verification, and it removes its own snapshot only when something has gone wrong
(`follows_databaseBackup`).
-/
import MediaBooster.Backups.Directory

namespace MediaBooster.Backups

set_option autoImplicit false

open MediaBooster.Quota MediaBooster.Theory.Threads

variable {past more : History} {n : Nat}

/-! ## What a backup has behind it -/

/-- The backup has drawn this stamp. -/
def Drew (past : History) (nanos : Nat) : Prop := (⟨.now, nanos⟩ : Exchange Answer) ∈ past

/-- The backup has got this answer. -/
def Heard (past : History) (request : FileRequest) (answer : Except Failure request.Output) : Prop :=
  (⟨.file request, answer⟩ : Exchange Answer) ∈ past

/-- Something has gone wrong. -/
def Failed (past : History) : Prop :=
  (∃ request failure, Heard past request (.error failure)) ∨
    ∃ content error, verifyPool content = .error error ∧
      (Heard past .readLive (.ok content) ∨ ∃ name, Heard past (.readDatabase name) (.ok content))

/-- A manifest tells what was read back, hashed and measured. -/
def Describes (past : History) (nanos : Nat) (manifest : Manifest) : Prop :=
  manifest.snapshotFile = fileName .snapshot nanos ∧ ∃ db,
    Heard past (.readDatabase (fileName .unfinishedSnapshot nanos)) (.ok db) ∧
    verifyPool db = .ok manifest.verification ∧
    Heard past (.sha256 (fileName .unfinishedSnapshot nanos)) (.ok manifest.sha256) ∧
    Heard past (.length (fileName .unfinishedSnapshot nanos)) (.ok manifest.bytes)

/-- A removal of one's own files, of the snapshot only in case of failure, or of what a listing
shows to be expired. -/
def MayRemove (retain : Nat) (past : History) (name : String) : Prop :=
  (∃ n role, Drew past n ∧ name = fileName role n ∧ (role = .snapshot → Failed past)) ∨
    ∃ names snapshot, Heard past .list (.ok names) ∧ snapshot ∈ expired retain names ∧
      (name = snapshot ∨ name = manifestOf snapshot)

/-- What every request of a backup has behind it. -/
def Rule (retain : Nat) (past : History) : Ask → Prop
  | .now => ∀ n, ¬Drew past n
  | .file (.vacuumInto name) => ∃ n, Drew past n ∧ name = fileName .unfinishedSnapshot n ∧
      ∀ db, ¬Heard past (.readDatabase name) (.ok db)
  | .file (.readDatabase name) => ∃ n, Drew past n ∧ name = fileName .unfinishedSnapshot n ∧
      (∀ db, ¬Heard past (.readDatabase name) (.ok db)) ∧
      (∀ sha256, ¬Heard past (.sha256 name) (.ok sha256)) ∧
      ∀ bytes, ¬Heard past (.length name) (.ok bytes)
  | .file (.writeNew name manifest) => ∃ n, Drew past n ∧ name = fileName .unfinishedManifest n ∧
      Describes past n manifest ∧ ∀ other, ¬Heard past (.writeNew name other) (.ok ())
  | .file (.link source destination) => ∃ n, Drew past n ∧
      ((source = fileName .unfinishedSnapshot n ∧ destination = fileName .snapshot n ∧
          ∃ db verification, Heard past (.readDatabase source) (.ok db) ∧
            verifyPool db = .ok verification) ∨
        (source = fileName .unfinishedManifest n ∧ destination = fileName .manifest n ∧
          ∃ manifest, Heard past (.writeNew source manifest) (.ok ())))
  | .file (.remove name) => MayRemove retain past name
  | _ => True

theorem Drew.append (drew : Drew past n) : Drew (past ++ more) n := List.mem_append_left _ drew

theorem Heard.append {request : FileRequest} {answer : Except Failure request.Output}
    (heard : Heard past request answer) : Heard (past ++ more) request answer :=
  List.mem_append_left _ heard

theorem heard_last {request : FileRequest} {answer : Except Failure request.Output} :
    Heard (past ++ [⟨.file request, answer⟩]) request answer :=
  List.mem_append_right _ List.mem_cons_self

theorem Failed.append (failed : Failed past) : Failed (past ++ more) := by
  obtain ⟨request, failure, heard⟩ | ⟨content, error, refused, heard | ⟨name, heard⟩⟩ := failed
  · exact .inl ⟨request, failure, heard.append⟩
  · exact .inr ⟨content, error, refused, .inl heard.append⟩
  · exact .inr ⟨content, error, refused, .inr ⟨name, heard.append⟩⟩

theorem failed_last {request : FileRequest} {failure : Failure} :
    Failed (past ++ [⟨.file request, .error failure⟩]) := .inl ⟨request, failure, heard_last⟩

section Following

variable {α : Type} {retain : Nat} {post : History → Except BackupError α → Prop}

/-- Ask for something, and go on or stop. -/
theorem follows_perform {context : String} {request : FileRequest}
    {next : request.Output → Action α}
    (fails : ∀ past error, Drew past n → Failed past → post past (.error error))
    (drew : Drew past n) (rule : Rule retain past (.file request))
    (rest : ∀ output, Drew (past ++ [⟨.file request, .ok output⟩]) n →
      (next output).Follows (Rule retain) post (past ++ [⟨.file request, .ok output⟩])) :
    (perform context request >>= next).Follows (Rule retain) post past := by
  refine ⟨rule, fun answer => ?_⟩
  cases answer with
  | ok output => exact rest output drew.append
  | error failure => exact fails _ _ drew.append failed_last

/-- Verify what was read, and go on or stop. -/
theorem follows_verify {content : DatabaseContent} {next : DatabaseVerification → Action α}
    (rest : ∀ verification, verifyPool content = .ok verification →
      (next verification).Follows (Rule retain) post past)
    (fails : ∀ error, verifyPool content = .error error → post past (.error (.snapshot error))) :
    (verify content >>= next).Follows (Rule retain) post past := by
  unfold verify
  cases verified : verifyPool content with
  | ok verification => exact rest verification verified
  | error error => exact fails error verified

end Following

/-! ## The command follows the rule -/

section Command

variable {retain : Nat}

/-- The past of a backup that has drawn its stamp and connected. -/
def opening (n : Nat) : History :=
  [⟨.file .createDirectory, .ok ()⟩, ⟨.file .inspectDirectory, .ok true⟩, ⟨.now, n⟩,
    ⟨.file .connect, .ok ()⟩]

/-- The past of a backup that has read its copy. -/
def copied (n : Nat) (live copy : DatabaseContent) : History :=
  opening n ++ [⟨.file .readLive, .ok live⟩, ⟨.file .checkpoint, .ok ()⟩,
    ⟨.file (.vacuumInto (fileName .unfinishedSnapshot n)), .ok ()⟩,
    ⟨.file (.readDatabase (fileName .unfinishedSnapshot n)), .ok copy⟩]

/-- A backup that ends with an error has failed. -/
def Ended {α : Type} (n : Nat) (past : History) (result : Except BackupError α) : Prop :=
  Drew past n ∧ ∀ error, result = .error error → Failed past

theorem drew_opening : Drew (opening n) n := by simp [Drew, opening]

theorem ended_of_failed {α : Type} (past : History) (error : BackupError) (drew : Drew past n)
    (failed : Failed past) : Ended n past (.error error : Except BackupError α) :=
  ⟨drew, fun _ _ => failed⟩

/-- What `backup_to` ends with. -/
def BackedUp (n : Nat) (past : History) (result : Except BackupError DatabaseVerification) : Prop :=
  Ended n past result ∧ ∀ verification, result = .ok verification →
    ∃ live copy, past = copied n live copy ∧ verifyPool copy = .ok verification

theorem backedUp_of_failed (past : History) (error : BackupError) (drew : Drew past n)
    (failed : Failed past) : BackedUp n past (.error error) :=
  ⟨ended_of_failed past error drew failed, fun _ same => by cases same⟩

theorem follows_backupTo : (backupTo (fileName .unfinishedSnapshot n)).Follows (Rule retain)
    (BackedUp n) (opening n) := by
  refine follows_perform backedUp_of_failed drew_opening trivial fun live drew => ?_
  refine follows_verify (fun checked _ => ?_) fun error refused =>
    backedUp_of_failed _ _ drew (.inr ⟨live, error, refused, .inl heard_last⟩)
  refine follows_perform backedUp_of_failed drew trivial fun _ drew => ?_
  refine follows_perform backedUp_of_failed drew ⟨n, drew, rfl, ?_⟩ fun _ drew => ?_
  · simp [Heard, opening]
  refine follows_perform backedUp_of_failed drew ⟨n, drew, rfl, ?_, ?_, ?_⟩ fun copy drew => ?_
  · simp [Heard, opening]
  · simp [Heard, opening]
  · simp [Heard, opening]
  unfold verify
  cases verified : verifyPool copy with
  | ok verification =>
      refine ⟨⟨drew, fun _ same => by cases same⟩, fun _ same => ?_⟩
      cases same
      exact ⟨live, copy, rfl, verified⟩
  | error error =>
      exact backedUp_of_failed _ _ drew (.inr ⟨copy, error, verified, .inr ⟨_, heard_last⟩⟩)

theorem follows_finalize : (finalize n).Follows (Rule retain) (Ended n) (opening n) := by
  refine Attempt.follows_bind follows_backupTo ?_ fun past error ended =>
    ⟨ended.1.1, fun _ _ => ended.1.2 error rfl⟩
  rintro past verification ⟨⟨drew, -⟩, made⟩
  obtain ⟨live, copy, rfl, verified⟩ := made verification rfl
  have read : Heard (copied n live copy)
      (.readDatabase (fileName .unfinishedSnapshot n)) (.ok copy) :=
    List.mem_append_right _ (by simp)
  refine follows_perform ended_of_failed drew trivial fun _ drew => ?_
  refine follows_perform ended_of_failed drew trivial fun sha256 drew => ?_
  refine follows_perform ended_of_failed drew trivial fun bytes drew => ?_
  refine follows_perform ended_of_failed drew ⟨n, drew, rfl,
    ⟨rfl, copy, read.append.append.append, verified, heard_last.append, heard_last⟩, ?_⟩ fun _ drew => ?_
  · simp [Heard, copied, opening]
  refine follows_perform ended_of_failed drew
    ⟨n, drew, .inl ⟨rfl, rfl, copy, verification, read.append.append.append.append, verified⟩⟩
    fun _ drew => ?_
  refine follows_perform ended_of_failed drew ⟨n, drew, .inr ⟨rfl, rfl, _, heard_last.append⟩⟩
    fun _ drew => ?_
  refine follows_perform ended_of_failed drew
    (.inl ⟨n, .unfinishedSnapshot, drew, rfl, fun same => by cases same⟩) fun _ drew => ?_
  refine ⟨.inl ⟨n, .unfinishedManifest, drew, rfl, fun same => by cases same⟩, fun answer => ?_⟩
  cases answer with
  | ok => exact ⟨drew.append, fun _ same => by cases same⟩
  | error failure => exact ended_of_failed _ _ drew.append failed_last

theorem follows_removeIfPresent {role : Role} (drew : Drew past n) (failed : Failed past) :
    (removeIfPresent (fileName role n)).Follows (Rule retain)
      (fun past _ => Drew past n ∧ Failed past) past :=
  ⟨.inl ⟨n, role, drew, rfl, fun _ => failed⟩, fun _ => ⟨drew.append, failed.append⟩⟩

theorem follows_removeAll {names snapshots : List String} (listed : Heard past .list (.ok names))
    (old : ∀ snapshot ∈ snapshots, snapshot ∈ expired retain names) :
    (removeAll snapshots).Follows (Rule retain) (fun _ _ => True) past := by
  induction snapshots generalizing past with
  | nil => trivial
  | cons snapshot rest ih =>
      have due := old snapshot List.mem_cons_self
      have later := fun other member => old other (List.mem_cons_of_mem snapshot member)
      refine Attempt.follows_bind (Q := fun past _ => Heard past .list (.ok names)) ?_
        (fun past _ listed => ih listed later) fun _ _ _ => trivial
      refine ⟨.inr ⟨names, snapshot, listed, due, .inl rfl⟩, fun answer => ?_⟩
      cases answer with
      | error failure => exact listed.append
      | ok =>
          refine ⟨.inr ⟨names, snapshot, listed.append, due, .inr rfl⟩, fun removed => ?_⟩
          cases removed with
          | ok => exact listed.append.append
          | error failure => cases failure <;> exact listed.append.append

theorem follows_rotateBackups :
    (rotateBackups retain).Follows (Rule retain) (fun _ _ => True) past := by
  refine ⟨trivial, fun answer => ?_⟩
  cases answer with
  | error failure => trivial
  | ok names => exact follows_removeAll heard_last fun _ member => member

theorem follows_conclude {result : Except BackupError Unit} (ended : Ended n past result) :
    (conclude retain n result).Follows (Rule retain) (fun _ _ => True) past := by
  cases result with
  | ok => exact follows_rotateBackups
  | error error =>
      refine Attempt.follows_bind (follows_removeIfPresent ended.1 (ended.2 error rfl))
        (fun past _ own => ?_) fun _ _ _ => trivial
      refine Attempt.follows_bind (follows_removeIfPresent own.1 own.2)
        (fun past _ own => ?_) fun _ _ _ => trivial
      refine Attempt.follows_bind (follows_removeIfPresent own.1 own.2)
        (fun past _ own => ?_) fun _ _ _ => trivial
      exact Attempt.follows_bind (follows_removeIfPresent own.1 own.2) (fun _ _ _ => trivial)
        fun _ _ _ => trivial

/-- **The command keeps to its rule.** -/
theorem follows_databaseBackup :
    (databaseBackup retain).Follows (Rule retain) (fun _ _ => True) [] := by
  refine ⟨trivial, fun answer => ?_⟩
  cases answer with
  | error failure => trivial
  | ok =>
      refine ⟨trivial, fun answer => ?_⟩
      cases answer with
      | error failure => trivial
      | ok real =>
          cases real with
          | false => trivial
          | true =>
              refine ⟨fun n drew => by simp [Drew] at drew, fun n => ⟨trivial, fun answer => ?_⟩⟩
              cases answer with
              | error failure => trivial
              | ok =>
                  exact Attempt.follows_lifted (follows_finalize (n := n))
                    fun past result ended => follows_conclude ended

end Command

end MediaBooster.Backups
