/-
# Backups.Directory -- the database backup command over its directory

`database backup` writes a verified snapshot and its manifest under unfinished names, publishes
both by hard links, and lets go of the oldest snapshots.  Everything it does is a request to
the file system or to the database, and each may fail; where one fails, the command removes
what it wrote and ends with the error.

The directory lists its files by name.  The names of a backup are made of the nanoseconds of
its start; the clock may be set back, but it never shows the same nanosecond twice, and it shows
nineteen digits of them, as it does until the year 2286.  Reading the directory is one step here.
-/
import Mathlib.Data.List.Sort
import MediaBooster.Quota.Backup
import MediaBooster.Theory.Decimal
import MediaBooster.Theory.Threads

namespace MediaBooster.Backups

set_option autoImplicit false

open MediaBooster.Domain MediaBooster.Quota MediaBooster.Theory.Decimal MediaBooster.Theory.Threads

/-! ## Names -/

/-- The four files of a backup. -/
inductive Role
  | snapshot
  | manifest
  | unfinishedSnapshot
  | unfinishedManifest
deriving DecidableEq

/-- The end of a name. -/
def Role.suffix : Role → String
  | .snapshot => ".db"
  | .manifest => ".db.manifest.json"
  | .unfinishedSnapshot => ".db.partial"
  | .unfinishedManifest => ".db.manifest.json.partial"

/-- The name of a file of the backup that was started at `nanos`. -/
def fileName (role : Role) (nanos : Nat) : String := "g7mb-" ++ toString nanos ++ role.suffix

/-- `starts_with("g7mb-")` and `ends_with(".db")`. -/
def isSnapshotName (name : String) : Bool :=
  "g7mb-".toList.isPrefixOf name.toList && ".db".toList.isSuffixOf name.toList

/-- `with_extension("db.manifest.json")` of a name that ends in `.db`. -/
def manifestOf (name : String) : String := name ++ ".manifest.json"

/-- The readings of a clock with nineteen digits of nanoseconds. -/
def InEra (nanos : Nat) : Prop := 10 ^ 18 ≤ nanos ∧ nanos < 10 ^ 19

section Names

variable {role role' : Role} {n m : Nat}

theorem toList_fileName : (fileName role n).toList =
    "g7mb-".toList ++ (Nat.toDigits 10 n ++ role.suffix.toList) := by
  unfold fileName
  rw [String.toList_append, String.toList_append, List.append_assoc]
  exact congrArg (fun digits => "g7mb-".toList ++ (digits ++ _)) Nat.toList_repr

/-- **A name tells the file and the backup.** -/
theorem fileName_inj (same : fileName role n = fileName role' m) : role = role' ∧ n = m := by
  have text := congrArg String.toList same
  rw [toList_fileName, toList_fileName, List.append_cancel_left_eq] at text
  have split : ∀ (role : Role) (n : Nat),
      (Nat.toDigits 10 n ++ role.suffix.toList).takeWhile Char.isDigit = Nat.toDigits 10 n ∧
        (Nat.toDigits 10 n ++ role.suffix.toList).dropWhile Char.isDigit = role.suffix.toList := by
    intro role n
    have digits : ∀ c ∈ Nat.toDigits 10 n, c.isDigit = true := fun c member =>
      Nat.isDigit_of_mem_toDigits (by decide) (by decide) member
    rw [List.takeWhile_append_of_pos digits, List.dropWhile_append_of_pos digits]
    cases role <;> simp [Role.suffix]
  have numbers := (split role n).1.symm.trans ((congrArg _ text).trans (split role' m).1)
  have ends := (split role n).2.symm.trans ((congrArg _ text).trans (split role' m).2)
  refine ⟨?_, ?_⟩
  · revert ends
    cases role <;> cases role' <;> decide
  · rw [← Nat.ofDigitChars_ten_toDigits (n := n), numbers, Nat.ofDigitChars_ten_toDigits]

/-- Only snapshots have names of snapshots. -/
theorem isSnapshotName_fileName : isSnapshotName (fileName role n) = true ↔ role = .snapshot := by
  have ends : ∀ front : List Char, ".db".toList <:+ front ++ role.suffix.toList ↔
      role = .snapshot := by
    intro front
    rw [← List.reverse_prefix, List.reverse_append]
    cases role <;> simp [Role.suffix]
  unfold isSnapshotName
  rw [Bool.and_eq_true, List.isPrefixOf_iff_prefix, List.isSuffixOf_iff_suffix, toList_fileName,
    and_iff_right (List.prefix_append ..), ← List.append_assoc]
  exact ends _

theorem manifestOf_snapshot : manifestOf (fileName .snapshot n) = fileName .manifest n := by
  unfold manifestOf fileName
  rw [String.append_assoc]
  rfl

/-- **Snapshots are listed in the order of their backups.** -/
theorem lt_of_fileName_lt (era : InEra n) (era' : InEra m)
    (before : fileName .snapshot n < fileName .snapshot m) : n < m := by
  have width : ∀ k, InEra k → (Nat.toDigits 10 k).length = 19 := by
    rintro k ⟨lower, upper⟩
    have most := (Nat.length_toDigits_le_iff (by decide) (by decide)).2 upper
    have least := mt (Nat.length_toDigits_le_iff (b := 10) (n := k) (k := 18) (by decide) (by decide)).1
      (Nat.not_lt.2 lower)
    omega
  have ordered : ∀ a b, InEra a → InEra b → a < b → fileName .snapshot a < fileName .snapshot b := by
    intro a b within within' less
    have digits : ∀ k : Nat, ∀ c ∈ Nat.toDigits 10 k, c.isDigit = true := fun _ _ member =>
      Nat.isDigit_of_mem_toDigits (by decide) (by decide) member
    have number : ∀ k : Nat, value (Nat.toDigits 10 k) = k := fun _ => Nat.ofDigitChars_ten_toDigits
    rw [String.lt_iff_toList_lt, toList_fileName, toList_fileName]
    refine List.append_left_lt (append_lt_append _ _ (digits a) (digits b) ?_ ?_)
    · rw [width a within, width b within']
    · rw [number, number]
      exact less
  obtain less | rfl | more := Nat.lt_trichotomy n m
  · exact less
  · exact absurd before (lt_irrefl _)
  · exact absurd before (lt_asymm (ordered m n era' era more))

end Names

/-! ## Files -/

/-- The manifest of a snapshot. -/
structure Manifest where
  createdAtUnix : Nat
  snapshotFile : String
  sha256 : String
  bytes : Nat
  verification : DatabaseVerification
deriving DecidableEq

/-- What is in a file. -/
inductive File
  | database (content : DatabaseContent)
  | manifest (manifest : Manifest)
  | torn

/-- How a request to the operating system fails. -/
inductive Failure
  | notFound
  | other
deriving DecidableEq

/-- `anyhow::Error`: a context, or the verification that failed. -/
inductive BackupError
  | io (context : String)
  | snapshot (error : DatabaseBackupError)
deriving DecidableEq

/-- What a backup asks the operating system and the database for. -/
inductive FileRequest
  | createDirectory
  | inspectDirectory
  | connect
  | readLive
  | checkpoint
  | vacuumInto (name : String)
  | readDatabase (name : String)
  | secure (name : String)
  | sha256 (name : String)
  | length (name : String)
  | writeNew (name : String) (manifest : Manifest)
  | link (source destination : String)
  | remove (name : String)
  | list
deriving DecidableEq

/-- What it is answered when it succeeds. -/
abbrev FileRequest.Output : FileRequest → Type
  | .inspectDirectory => Bool
  | .readLive | .readDatabase _ => DatabaseContent
  | .sha256 _ => String
  | .length _ => Nat
  | .list => List String
  | .createDirectory | .connect | .checkpoint | .vacuumInto _ | .secure _ | .writeNew .. | .link ..
  | .remove _ => Unit

/-- A request, or a look at the clock. -/
inductive Ask
  | now
  | file (request : FileRequest)

abbrev Answer : Ask → Type
  | .now => Nat
  | .file request => Except Failure request.Output

/-- What a process has heard. -/
abbrev History := List (Exchange Answer)

/-- An action of the command. -/
abbrev Action := Attempt Answer BackupError

/-! ## The command -/

/-- Ask for something that has to succeed. -/
def perform (context : String) (request : FileRequest) : Action request.Output := do
  let answer ← Attempt.lift (Program.request (Ask.file request))
  Attempt.ofExcept (answer.mapError fun _ => .io context)

/-- `verify_pool` of what was read. -/
def verify (content : DatabaseContent) : Action DatabaseVerification :=
  Attempt.ofExcept ((verifyPool content).mapError .snapshot)

/-- `backup_to`, with `verify_database_file` at its end. -/
def backupTo (name : String) : Action DatabaseVerification := do
  let live ← perform "failed to create verified SQLite snapshot" .readLive
  let _ ← verify live
  perform "failed to create verified SQLite snapshot" .checkpoint
  perform "failed to create verified SQLite snapshot" (.vacuumInto name)
  let copy ← perform "failed to create verified SQLite snapshot" (.readDatabase name)
  verify copy

/-- The `async` block of `database_backup`: snapshot and manifest, written and published. -/
def finalize (nanos : Nat) : Action Unit := do
  let verification ← backupTo (fileName .unfinishedSnapshot nanos)
  perform "failed to restrict backup file permissions" (.secure (fileName .unfinishedSnapshot nanos))
  let sha256 ← perform "failed to hash file" (.sha256 (fileName .unfinishedSnapshot nanos))
  let bytes ← perform "" (.length (fileName .unfinishedSnapshot nanos))
  perform "failed to create backup manifest" (.writeNew (fileName .unfinishedManifest nanos)
    ⟨nanos / 1000000000, fileName .snapshot nanos, sha256, bytes, verification⟩)
  perform "failed to publish create-new backup snapshot"
    (.link (fileName .unfinishedSnapshot nanos) (fileName .snapshot nanos))
  perform "failed to publish create-new backup manifest"
    (.link (fileName .unfinishedManifest nanos) (fileName .manifest nanos))
  perform "" (.remove (fileName .unfinishedSnapshot nanos))
  perform "" (.remove (fileName .unfinishedManifest nanos))

/-- `remove_if_present`. -/
def removeIfPresent (name : String) : Action Unit := do
  let _ ← Attempt.lift (Program.request (Ask.file (.remove name)))

/-- The snapshots beyond the newest `retain`, by the order of their names. -/
def expired (retain : Nat) (names : List String) : List String :=
  let snapshots := (names.filter isSnapshotName).insertionSort (· ≤ ·)
  snapshots.take (snapshots.length - retain)

/-- Remove an expired snapshot, and its manifest if it has one. -/
def removeExpired (snapshot : String) : Action Unit := do
  perform "failed to remove expired local snapshot" (.remove snapshot)
  let removed ← Attempt.lift (Program.request (Ask.file (.remove (manifestOf snapshot))))
  match removed with
  | .ok () | .error .notFound => pure ()
  | .error .other => Attempt.fail (.io "failed to remove expired backup manifest")

/-- Remove one after the other. -/
def removeAll : List String → Action Unit
  | [] => pure ()
  | snapshot :: rest => do
      removeExpired snapshot
      removeAll rest

/-- `rotate_backups`. -/
def rotateBackups (retain : Nat) : Action Unit := do
  let names ← perform "failed to enumerate backup retention directory" .list
  removeAll (expired retain names)

/-- The end of `database_backup`: rotate, or remove what was written. -/
def conclude (retain nanos : Nat) : Except BackupError Unit → Action Unit
  | .ok () => rotateBackups retain
  | .error error => do
      removeIfPresent (fileName .unfinishedSnapshot nanos)
      removeIfPresent (fileName .unfinishedManifest nanos)
      removeIfPresent (fileName .snapshot nanos)
      removeIfPresent (fileName .manifest nanos)
      Attempt.fail error

/-- `database_backup`. -/
def databaseBackup (retain : Nat) : Action Unit := do
  perform "failed to create backup directory" .createDirectory
  let real ← perform "failed to inspect backup directory" .inspectDirectory
  Attempt.ensure real (.io "backup directory must be a real directory, not a symlink")
  let nanos ← Attempt.lift (Program.request Ask.now)
  perform "failed to initialize SQLite" .connect
  let finalized ← Attempt.lift (finalize nanos).attempt
  conclude retain nanos finalized

/-! ## Processes over a directory -/

/-- What the processes share: the directory, the live database and what the clock has shown. -/
structure Shared where
  directory : List (String × File)
  live : DatabaseContent
  shown : List Nat

namespace Shared

variable (s : Shared)

/-- The file of a name. -/
def find (name : String) : Option File := (s.directory.find? fun entry => entry.1 == name).map Prod.snd

/-- A new file. -/
def add (name : String) (file : File) : Shared := { s with directory := s.directory ++ [(name, file)] }

/-- Without a file. -/
def drop (name : String) : Shared :=
  { s with directory := s.directory.filter fun entry => entry.1 != name }

end Shared

section Files

variable (digest : DatabaseContent → String) (size : DatabaseContent → Nat)

/-- What a request does to the files and what it is answered; a request that fails may leave an
unfinished file behind when it was to write a new one. -/
inductive Carries (s : Shared) : (request : FileRequest) → Except Failure request.Output → Shared → Prop
  | failed (request : FileRequest) (failure : Failure)
      (present : ∀ name, request = .remove name → failure = .notFound → s.find name = none) :
      Carries s request (.error failure) s
  | created : Carries s .createDirectory (.ok ()) s
  | inspected (real : Bool) : Carries s .inspectDirectory (.ok real) s
  | connected : Carries s .connect (.ok ()) s
  | readLive : Carries s .readLive (.ok s.live) s
  | checkpointed : Carries s .checkpoint (.ok ()) s
  | vacuumed {name : String} (fresh : s.find name = none) :
      Carries s (.vacuumInto name) (.ok ()) (s.add name (.database s.live))
  | tore {name : String} (failure : Failure) (fresh : s.find name = none) :
      Carries s (.vacuumInto name) (.error failure) (s.add name .torn)
  | read {name : String} {content : DatabaseContent} (there : s.find name = some (.database content)) :
      Carries s (.readDatabase name) (.ok content) s
  | secured {name : String} : Carries s (.secure name) (.ok ()) s
  | hashed {name : String} {content : DatabaseContent}
      (there : s.find name = some (.database content)) :
      Carries s (.sha256 name) (.ok (digest content)) s
  | measured {name : String} {content : DatabaseContent}
      (there : s.find name = some (.database content)) :
      Carries s (.length name) (.ok (size content)) s
  | written {name : String} {manifest : Manifest} (fresh : s.find name = none) :
      Carries s (.writeNew name manifest) (.ok ()) (s.add name (.manifest manifest))
  | unwritten {name : String} {manifest : Manifest} (failure : Failure) (file : File)
      (fresh : s.find name = none) (left : file = .torn ∨ file = .manifest manifest) :
      Carries s (.writeNew name manifest) (.error failure) (s.add name file)
  | linked {source destination : String} {file : File} (there : s.find source = some file)
      (fresh : s.find destination = none) :
      Carries s (.link source destination) (.ok ()) (s.add destination file)
  | removed {name : String} {file : File} (there : s.find name = some file) :
      Carries s (.remove name) (.ok ()) (s.drop name)
  | listed : Carries s .list (.ok (s.directory.map Prod.fst)) s

/-- What a process hears. -/
inductive Answers (s : Shared) : (ask : Ask) → Answer ask → Shared → Prop
  | ticked {nanos : Nat} (unused : nanos ∉ s.shown) (era : InEra nanos) :
      Answers s .now nanos { s with shown := nanos :: s.shown }
  | carried {request : FileRequest} {answer : Except Failure request.Output} {t : Shared}
      (carries : Carries digest size s request answer t) : Answers s (.file request) answer t

/-- What happens beside the backups: the live database goes on. -/
inductive Event
  | wrote (live : DatabaseContent)

/-- Backups that keep so many, one beside the other or one after the other. -/
def machine : Machine Answer Nat Event Shared where
  program retain := (databaseBackup retain).attempt.discard
  answers := Answers digest size
  moves s event t := match event with | .wrote live => t = { s with live := live }

/-- A state of the backups. -/
abbrev System := State Answer Nat Shared

/-- A label of the backups. -/
abbrev Happening := Label Answer Nat Event

/-- An empty directory. -/
def empty (live : DatabaseContent) : System := .initial ⟨[], live, []⟩

end Files

end MediaBooster.Backups
