/-
# Backups.Rehearsal -- backups over a disk without failures

`responder` answers what a disk without failures answers, so that schedules of backups can be
computed.
-/
import MediaBooster.Backups.Directory
import MediaBooster.Theory.Schedules

namespace MediaBooster.Backups

set_option autoImplicit false

open MediaBooster.Quota MediaBooster.Store MediaBooster.Theory.Run MediaBooster.Theory.Threads

/-! ## A disk without failures -/

variable (digest : DatabaseContent → String) (size : DatabaseContent → Nat)

/-- A new file, unless the name is taken. -/
def create (s : Shared) (name : String) (file : File) : Except Failure Unit × Shared :=
  match s.find name with
  | none => (.ok (), s.add name file)
  | some _ => (.error .other, s)

/-- What a disk without failures does. -/
def carryOut (s : Shared) : (request : FileRequest) → Except Failure request.Output × Shared
  | .createDirectory => (.ok (), s)
  | .inspectDirectory => (.ok true, s)
  | .connect => (.ok (), s)
  | .readLive => (.ok s.live, s)
  | .checkpoint => (.ok (), s)
  | .vacuumInto name => create s name (.database s.live)
  | .readDatabase name =>
      match s.find name with
      | some (.database content) => (.ok content, s)
      | _ => (.error .other, s)
  | .secure _ => (.ok (), s)
  | .sha256 name =>
      match s.find name with
      | some (.database content) => (.ok (digest content), s)
      | _ => (.error .other, s)
  | .length name =>
      match s.find name with
      | some (.database content) => (.ok (size content), s)
      | _ => (.error .other, s)
  | .writeNew name manifest => create s name (.manifest manifest)
  | .link source destination =>
      match s.find source with
      | some file => create s destination file
      | none => (.error .notFound, s)
  | .remove name =>
      match s.find name with
      | some _ => (.ok (), s.drop name)
      | none => (.error .notFound, s)
  | .list => (.ok (s.directory.map Prod.fst), s)

/-- Its answers, and those of a clock that ticks when it is looked at. -/
def respond (s : Shared) : (ask : Ask) → Option (Answer ask × Shared)
  | .now =>
      let nanos := 10 ^ 18 + s.shown.length
      if nanos ∉ s.shown ∧ nanos < 10 ^ 19 then
        some (nanos, { s with shown := nanos :: s.shown })
      else none
  | .file request => some (carryOut digest size s request)

variable {digest} {size}

theorem refuses (s : Shared) {request : FileRequest} (other : ∀ name, request ≠ .remove name) :
    Carries digest size s request (.error .other) s :=
  .failed request .other fun name same => absurd same (other name)

theorem carries_carryOut (s : Shared) (request : FileRequest) :
    Carries digest size s request (carryOut digest size s request).1
      (carryOut digest size s request).2 := by
  cases request with
  | createDirectory => exact .created
  | inspectDirectory => exact .inspected true
  | connect => exact .connected
  | readLive => exact .readLive
  | checkpoint => exact .checkpointed
  | secure => exact .secured
  | list => exact .listed
  | vacuumInto name =>
      rw [carryOut, create]
      split
      · rename_i fresh
        exact .vacuumed fresh
      · exact refuses s fun _ same => by cases same
  | readDatabase name =>
      rw [carryOut]
      split
      · rename_i content there
        exact .read there
      · exact refuses s fun _ same => by cases same
  | sha256 name =>
      rw [carryOut]
      split
      · rename_i content there
        exact .hashed there
      · exact refuses s fun _ same => by cases same
  | length name =>
      rw [carryOut]
      split
      · rename_i content there
        exact .measured there
      · exact refuses s fun _ same => by cases same
  | writeNew name manifest =>
      rw [carryOut, create]
      split
      · rename_i fresh
        exact .written fresh
      · exact refuses s fun _ same => by cases same
  | link source destination =>
      rw [carryOut]
      split
      · rename_i file there
        rw [create]
        split
        · rename_i fresh
          exact .linked there fresh
        · exact refuses s fun _ same => by cases same
      · exact .failed _ .notFound fun _ same => by cases same
  | remove name =>
      rw [carryOut]
      split
      · rename_i file there
        exact .removed there
      · rename_i missing
        refine .failed _ .notFound fun other same _ => ?_
        cases same
        exact missing

theorem respond_allowed (s : Shared) (ask : Ask) (answer : Answer ask) (t : Shared)
    (responded : respond digest size s ask = some (answer, t)) :
    (machine digest size).answers s ask answer t := by
  cases ask with
  | now =>
      rw [respond] at responded
      split at responded
      · rename_i possible
        cases responded
        exact .ticked possible.1 ⟨Nat.le_add_right _ _, possible.2⟩
      · cases responded
  | file request =>
      have carries := @carries_carryOut digest size s request
      rw [Option.some.inj responded] at carries
      exact .carried carries

/-- What a disk without failures answers, as a responder. -/
def responder (digest : DatabaseContent → String) (size : DatabaseContent → Nat) :
    Responder (machine digest size) where
  respond := respond digest size
  allowed := respond_allowed
  occur _ _ := none
  moves _ _ _ moved := by cases moved

/-- A migrated database. -/
def migratedDatabase : DatabaseContent where
  quickCheck := ["ok"]
  foreignKeyCheck := []
  migrations := [⟨latestSchemaVersion, true⟩]
  hasGlobalUsage := true
  hasOperationalCounters := true
  tables := SqliteStore.migrated

def sampleDigest (_ : DatabaseContent) : String := "digest"

def sampleSize (_ : DatabaseContent) : Nat := 4096

def sampleDisk : Responder (machine sampleDigest sampleSize) := responder sampleDigest sampleSize

/-- Two backups, one after the other, of which one is to be kept; the second is about to rotate. -/
def twoBackups : Option (Stage Answer Nat Shared) :=
  sampleDisk.performAll (fun _ _ => true)
    [.start 1, .run 0 17, .start 1, .run 1 17] ⟨empty migratedDatabase, []⟩

/-- The first snapshot is there, with its manifest, and goes with the next exchange. -/
theorem twoBackups_rotate : twoBackups.any (fun stage =>
    (stage.state.shared.find (fileName .manifest (10 ^ 18))).isSome &&
      (stage.state.shared.find (fileName .snapshot (10 ^ 18))).isSome &&
        (sampleDisk.exchange (fun _ _ => true) 1 stage).any fun next =>
          (next.state.shared.find (fileName .snapshot (10 ^ 18))).isNone) = true := by
  decide +kernel

/-- The run of the two backups, and the step that rotates. -/
theorem rotation_reached : ∃ labels label, ∃ s t : System,
    Trace (machine sampleDigest sampleSize).Step (empty migratedDatabase) labels s ∧
      (machine sampleDigest sampleSize).Step s label t ∧
      (∃ file, s.shared.find (fileName .manifest (10 ^ 18)) = some file) ∧
      (∃ file, s.shared.find (fileName .snapshot (10 ^ 18)) = some file) ∧
      t.shared.find (fileName .snapshot (10 ^ 18)) = none := by
  obtain ⟨stage, led, more⟩ := (Option.any_eq_true _ _).1 twoBackups_rotate
  rw [Bool.and_eq_true, Bool.and_eq_true] at more
  obtain ⟨⟨manifest, snapshot⟩, rotated⟩ := more
  obtain ⟨next, exchanged, gone⟩ := (Option.any_eq_true _ _).1 rotated
  obtain ⟨stands, labels, run⟩ := Responder.performAll_runs
    ⟨rfl, fun _ _ _ there => by simp [empty, State.initial] at there⟩ led
  obtain ⟨-, label, step⟩ := Responder.exchange_runs stands exchanged
  exact ⟨labels, label, stage.state, next.state, run.unguarded, step.1, Option.isSome_iff_exists.1 manifest,
    Option.isSome_iff_exists.1 snapshot, Option.isNone_iff_eq_none.1 gone⟩

end MediaBooster.Backups
