/-
# Backups.Safety -- what the backup directory shows, and what leaves it

Backups run one beside the other over one directory; each may fail, and may be cut off between any
two of its requests, while the live database goes on.  What keeps the directory in order is that
the names of a backup are its own: no two draw the same nanosecond, so what a backup has read back
from its unfinished snapshot stays there until it links it.

* `backups_verified`: in every run, every snapshot the directory shows is a database that passed
  the verification, and every manifest names its snapshot with the digest, the size and the
  verification of just that database.
* `backups_kept`: a snapshot goes only when its own backup has failed, or when a rotation has
  listed as many later ones as are kept, each of them verified.
-/
import MediaBooster.Backups.Command
import MediaBooster.Backups.Rehearsal

namespace MediaBooster.Backups

set_option autoImplicit false

open MediaBooster.Quota MediaBooster.Theory.Run MediaBooster.Theory.Threads

variable {n : Nat}

/-! ## What a step does to the files -/

namespace Shared

variable {s : Shared} {name other : String} {file : File}

theorem find_add_self (fresh : s.find name = none) : (s.add name file).find name = some file := by
  unfold find at fresh
  unfold find add
  rw [List.find?_append, Option.map_eq_none_iff.1 fresh]
  simp

theorem find_add_of_ne (ne : name ≠ other) : (s.add name file).find other = s.find other := by
  unfold find add
  rw [List.find?_append]
  simp [ne]

theorem find_drop_self : (s.drop name).find name = none := by
  unfold find drop
  simp

theorem find_drop_of_ne (ne : name ≠ other) : (s.drop name).find other = s.find other := by
  unfold find drop
  rw [List.find?_filter]
  congr 2
  funext entry
  by_cases same : entry.1 = other
  · simp [same, ne.symm]
  · simp [same]

/-- A listed name has a file. -/
theorem find_of_listed (listed : name ∈ s.directory.map Prod.fst) :
    ∃ file, s.find name = some file := by
  obtain ⟨entry, member, rfl⟩ := List.mem_map.1 listed
  cases there : s.find entry.1 with
  | some file => exact ⟨file, rfl⟩
  | none =>
      exact absurd (beq_self_eq_true entry.1)
        (List.find?_eq_none.1 (Option.map_eq_none_iff.1 there) entry member)

theorem not_listed (fresh : s.find name = none) : name ∉ s.directory.map Prod.fst := by
  intro listed
  obtain ⟨file, there⟩ := find_of_listed listed
  rw [fresh] at there
  cases there

end Shared

variable {digest : DatabaseContent → String} {size : DatabaseContent → Nat}

/-- The requests that make a file. -/
inductive Makes (s : Shared) : FileRequest → String → File → Prop
  | copied {name : String} (file : File) : Makes s (.vacuumInto name) name file
  | written {name : String} {manifest : Manifest} (file : File) :
      Makes s (.writeNew name manifest) name file
  | linked {source name : String} {file : File} (there : s.find source = some file) :
      Makes s (.link source name) name file

theorem find_added {s t : Shared} {request : FileRequest} {made : String} {file : File}
    (after : t = s.add made file) (fresh : s.find made = none) (makes : Makes s request made file)
    (name : String) :
    t.find name = s.find name ∨
      (s.find name = none ∧ ∃ file, t.find name = some file ∧ Makes s request name file) := by
  subst after
  by_cases same : made = name
  · subst same
    exact .inr ⟨fresh, file, Shared.find_add_self fresh, makes⟩
  · exact .inl (Shared.find_add_of_ne same)

/-- What a request does to a name. -/
theorem Carries.find_cases {s t : Shared} {request : FileRequest}
    {answer : Except Failure request.Output} (carries : Carries digest size s request answer t)
    (name : String) :
    t.find name = s.find name ∨
      (t.find name = none ∧
        (⟨.file request, answer⟩ : Exchange Answer) = ⟨.file (.remove name), .ok ()⟩) ∨
      (s.find name = none ∧ ∃ file, t.find name = some file ∧ Makes s request name file) := by
  cases carries with
  | vacuumed fresh => exact (find_added rfl fresh (.copied _) name).imp_right .inr
  | tore failure fresh => exact (find_added rfl fresh (.copied _) name).imp_right .inr
  | written fresh => exact (find_added rfl fresh (.written _) name).imp_right .inr
  | unwritten failure file fresh => exact (find_added rfl fresh (.written _) name).imp_right .inr
  | linked there fresh => exact (find_added rfl fresh (.linked there) name).imp_right .inr
  | @removed gone file there =>
      by_cases same : gone = name
      · subst same
        exact .inr (.inl ⟨Shared.find_drop_self, rfl⟩)
      · exact .inl (Shared.find_drop_of_ne same)
  | failed | created | inspected | connected | readLive | checkpointed | read | secured | hashed
  | measured | listed => exact .inl rfl

/-- What backup `i` has behind it when it makes a file of the stamp. -/
def MayCreate (s : System) (i nanos : Nat) (file : File) : Role → Prop
  | .unfinishedSnapshot =>
      ∀ db, ¬Heard (s.past i) (.readDatabase (fileName .unfinishedSnapshot nanos)) (.ok db)
  | .unfinishedManifest => ∀ manifest,
      ¬Heard (s.past i) (.writeNew (fileName .unfinishedManifest nanos) manifest) (.ok ())
  | .snapshot => s.shared.find (fileName .unfinishedSnapshot nanos) = some file ∧
      ∃ db verification,
        Heard (s.past i) (.readDatabase (fileName .unfinishedSnapshot nanos)) (.ok db) ∧
          verifyPool db = .ok verification
  | .manifest => s.shared.find (fileName .unfinishedManifest nanos) = some file ∧
      ∃ manifest, Heard (s.past i) (.writeNew (fileName .unfinishedManifest nanos) manifest) (.ok ())

variable {s t : System} {label : Happening} {i j : Nat}

theorem Makes.creates {retain : Nat} {request : FileRequest} {name : String} {file : File}
    (makes : Makes s.shared request name file) (rule : Rule retain (s.past i) (.file request)) :
    ∃ n role, name = fileName role n ∧ Drew (s.past i) n ∧ MayCreate s i n file role := by
  cases makes with
  | copied =>
      obtain ⟨n, drew, rfl, unread⟩ := rule
      exact ⟨n, .unfinishedSnapshot, rfl, drew, unread⟩
  | written =>
      obtain ⟨n, drew, rfl, -, unwritten⟩ := rule
      exact ⟨n, .unfinishedManifest, rfl, drew, unwritten⟩
  | linked there =>
      obtain ⟨n, drew, ⟨rfl, rfl, made⟩ | ⟨rfl, rfl, made⟩⟩ := rule
      · exact ⟨n, .snapshot, rfl, drew, there, made⟩
      · exact ⟨n, .manifest, rfl, drew, there, made⟩

theorem follows_machine (retain : Nat) :
    Follows (Rule retain) (fun _ _ => True) [] ((machine digest size).program retain) :=
  follows_discard follows_databaseBackup

/-- What stands behind a request of a backup. -/
theorem asked_cases {exchange : Exchange Answer}
    (step : (machine digest size).Step s (.asked i exchange) t) :
    ∃ retain, s.call i = some retain ∧ Rule retain (s.past i) exchange.1 ∧
      Answers digest size s.shared exchange.1 exchange.2 t.shared := by
  obtain ⟨retain, called, rule⟩ := step.obeys follows_machine
  obtain ⟨_, _, asked⟩ := step.asked_cases
  exact ⟨retain, called, rule, asked.answered⟩

/-- **What a step does to a name**: nothing, it removes the file, or it makes one. -/
theorem find_step (step : (machine digest size).Step s label t) (name : String) :
    t.shared.find name = s.shared.find name ∨
      (t.shared.find name = none ∧ ∃ i retain, label = .asked i ⟨.file (.remove name), .ok ()⟩ ∧
        s.call i = some retain ∧ MayRemove retain (s.past i) name) ∨
      (s.shared.find name = none ∧ ∃ i n role file, name = fileName role n ∧ Drew (s.past i) n ∧
        t.shared.find name = some file ∧ MayCreate s i n file role) := by
  obtain ⟨i, ⟨ask, answer⟩, rfl, -⟩ | ⟨⟨live⟩, rfl, moves⟩ | ⟨same, -⟩ := step.shared_cases
  · obtain ⟨retain, called, rule, answers⟩ := asked_cases step
    generalize t.shared = after at answers ⊢
    cases answers with
    | ticked => exact .inl rfl
    | carried carries =>
        obtain same | ⟨gone, exchange⟩ | ⟨fresh, file, there, makes⟩ := carries.find_cases name
        · exact .inl same
        · cases exchange
          exact .inr (.inl ⟨gone, i, retain, rfl, called, rule⟩)
        · obtain ⟨n, role, named, drew, may⟩ := makes.creates rule
          exact .inr (.inr ⟨fresh, i, n, role, file, named, drew, there, may⟩)
  · exact .inl (by rw [moves]; rfl)
  · exact .inl (by rw [same])

/-! ## A sound directory -/

/-- What holds of the directory and of what the backups have heard. -/
structure Sound (digest : DatabaseContent → String) (size : DatabaseContent → Nat) (s : System) :
    Prop where
  drawn : ∀ i n, Drew (s.past i) n → InEra n ∧ n ∈ s.shared.shown
  apart : ∀ i j n, Drew (s.past i) n → Drew (s.past j) n → i = j
  nodup : (s.shared.directory.map Prod.fst).Nodup
  named : ∀ name file, s.shared.find name = some file →
    ∃ role n i, Drew (s.past i) n ∧ name = fileName role n
  reads : ∀ i name db, Heard (s.past i) (.readDatabase name) (.ok db) →
    (∃ n, Drew (s.past i) n ∧ name = fileName .unfinishedSnapshot n) ∧
      (s.shared.find name = none ∨ s.shared.find name = some (.database db))
  readOnce : ∀ i name db db', Heard (s.past i) (.readDatabase name) (.ok db) →
    Heard (s.past i) (.readDatabase name) (.ok db') → db = db'
  digests : ∀ i name db sha256, Heard (s.past i) (.readDatabase name) (.ok db) →
    Heard (s.past i) (.sha256 name) (.ok sha256) → sha256 = digest db
  sizes : ∀ i name db bytes, Heard (s.past i) (.readDatabase name) (.ok db) →
    Heard (s.past i) (.length name) (.ok bytes) → bytes = size db
  writes : ∀ i name manifest, Heard (s.past i) (.writeNew name manifest) (.ok ()) →
    (∃ n, Drew (s.past i) n ∧ name = fileName .unfinishedManifest n ∧
      Describes (s.past i) n manifest) ∧
      (s.shared.find name = none ∨ s.shared.find name = some (.manifest manifest))
  snapshots : ∀ n file, s.shared.find (fileName .snapshot n) = some file → ∃ i db verification,
    Heard (s.past i) (.readDatabase (fileName .unfinishedSnapshot n)) (.ok db) ∧
      verifyPool db = .ok verification ∧ file = .database db
  manifests : ∀ n file, s.shared.find (fileName .manifest n) = some file → ∃ i manifest,
    Heard (s.past i) (.writeNew (fileName .unfinishedManifest n) manifest) (.ok ()) ∧
      file = .manifest manifest

section Steps

theorem drew_step (step : (machine digest size).Step s label t) (drew : Drew (t.past i) n) :
    Drew (s.past i) n ∨ label = .asked i ⟨.now, n⟩ := step.heard_cases drew

theorem heard_step (step : (machine digest size).Step s label t) {request : FileRequest}
    {answer : Except Failure request.Output} (heard : Heard (t.past i) request answer) :
    Heard (s.past i) request answer ∨ label = .asked i ⟨.file request, answer⟩ :=
  step.heard_cases heard

theorem Drew.later (drew : Drew (s.past i) n) (step : (machine digest size).Step s label t) :
    Drew (t.past i) n := step.heard drew

theorem Heard.later {request : FileRequest} {answer : Except Failure request.Output}
    (heard : Heard (s.past i) request answer) (step : (machine digest size).Step s label t) :
    Heard (t.past i) request answer := step.heard heard

theorem Describes.later {manifest : Manifest} (describes : Describes (s.past i) n manifest)
    (step : (machine digest size).Step s label t) : Describes (t.past i) n manifest := by
  obtain ⟨named, db, read, verified, hashed, measured⟩ := describes
  exact ⟨named, db, read.later step, verified, hashed.later step, measured.later step⟩

/-- A stamp is none of those before it. -/
theorem ticked_step (step : (machine digest size).Step s (.asked i ⟨.now, n⟩) t) :
    n ∉ s.shared.shown ∧ InEra n ∧ n ∈ t.shared.shown := by
  obtain ⟨retain, -, -, answers⟩ := asked_cases step
  generalize t.shared = after at answers ⊢
  cases answers with
  | ticked unused era => exact ⟨unused, era, List.mem_cons_self⟩

theorem Carries.shown {s t : Shared} {request : FileRequest}
    {answer : Except Failure request.Output} (carries : Carries digest size s request answer t) :
    t.shown = s.shown := by
  cases carries <;> rfl

theorem Carries.nodup {s t : Shared} {request : FileRequest}
    {answer : Except Failure request.Output} (carries : Carries digest size s request answer t)
    (nodup : (s.directory.map Prod.fst).Nodup) : (t.directory.map Prod.fst).Nodup := by
  have added : ∀ {name : String} (file : File), s.find name = none →
      ((s.add name file).directory.map Prod.fst).Nodup := by
    intro name file fresh
    unfold Shared.add
    rw [List.map_append, List.nodup_append]
    refine ⟨nodup, by simp, fun other listed single member => ?_⟩
    rw [List.map_singleton, List.mem_singleton] at member
    subst member
    rintro rfl
    exact Shared.not_listed fresh listed
  cases carries with
  | vacuumed fresh => exact added _ fresh
  | tore failure fresh => exact added _ fresh
  | written fresh => exact added _ fresh
  | unwritten failure file fresh => exact added _ fresh
  | linked there fresh => exact added _ fresh
  | removed there => exact nodup.sublist (List.filter_sublist.map _)
  | failed | created | inspected | connected | readLive | checkpointed | read | secured | hashed
  | measured | listed => exact nodup

theorem directory_step (step : (machine digest size).Step s label t) :
    s.shared.shown ⊆ t.shared.shown ∧
      ((s.shared.directory.map Prod.fst).Nodup → (t.shared.directory.map Prod.fst).Nodup) := by
  obtain ⟨i, ⟨ask, answer⟩, rfl, -⟩ | ⟨⟨live⟩, rfl, moves⟩ | ⟨same, -⟩ := step.shared_cases
  · obtain ⟨retain, -, -, answers⟩ := asked_cases step
    generalize t.shared = after at answers ⊢
    cases answers with
    | ticked unused => exact ⟨List.subset_cons_self _ _, id⟩
    | carried carries =>
        rw [carries.shown]
        exact ⟨List.Subset.refl _, carries.nodup⟩
  · rw [moves]
    exact ⟨List.Subset.refl _, id⟩
  · rw [same]
    exact ⟨List.Subset.refl _, id⟩

/-- What a read, a hash and a length tell of the file that is there. -/
theorem read_step {name : String} {db : DatabaseContent}
    (step : (machine digest size).Step s (.asked i ⟨.file (.readDatabase name), .ok db⟩) t) :
    (∃ n, Drew (s.past i) n ∧ name = fileName .unfinishedSnapshot n) ∧
      (∀ db, ¬Heard (s.past i) (.readDatabase name) (.ok db)) ∧
      (∀ sha256, ¬Heard (s.past i) (.sha256 name) (.ok sha256)) ∧
      (∀ bytes, ¬Heard (s.past i) (.length name) (.ok bytes)) ∧
      t.shared.find name = some (.database db) := by
  obtain ⟨retain, -, ⟨n, drew, named, unread, unhashed, unmeasured⟩, answers⟩ := asked_cases step
  refine ⟨⟨n, drew, named⟩, unread, unhashed, unmeasured, ?_⟩
  generalize t.shared = after at answers ⊢
  cases answers with
  | carried carries => cases carries with | read there => exact there

theorem hash_step {name sha256 : String}
    (step : (machine digest size).Step s (.asked i ⟨.file (.sha256 name), .ok sha256⟩) t) :
    ∃ db, s.shared.find name = some (.database db) ∧ sha256 = digest db := by
  obtain ⟨retain, -, -, answers⟩ := asked_cases step
  generalize t.shared = after at answers
  cases answers with
  | carried carries => cases carries with | hashed there => exact ⟨_, there, rfl⟩

theorem length_step {name : String} {bytes : Nat}
    (step : (machine digest size).Step s (.asked i ⟨.file (.length name), .ok bytes⟩) t) :
    ∃ db, s.shared.find name = some (.database db) ∧ bytes = size db := by
  obtain ⟨retain, -, -, answers⟩ := asked_cases step
  generalize t.shared = after at answers
  cases answers with
  | carried carries => cases carries with | measured there => exact ⟨_, there, rfl⟩

theorem write_step {name : String} {manifest : Manifest}
    (step : (machine digest size).Step s (.asked i ⟨.file (.writeNew name manifest), .ok ()⟩) t) :
    (∃ n, Drew (s.past i) n ∧ name = fileName .unfinishedManifest n ∧
        Describes (s.past i) n manifest) ∧ t.shared.find name = some (.manifest manifest) := by
  obtain ⟨retain, -, ⟨n, drew, named, describes, -⟩, answers⟩ := asked_cases step
  refine ⟨⟨n, drew, named, describes⟩, ?_⟩
  generalize t.shared = after at answers ⊢
  cases answers with
  | carried carries => cases carries with | written fresh => exact Shared.find_add_self fresh

variable (sound : Sound digest size s) (step : (machine digest size).Step s label t)

include sound step

theorem Sound.drawn_step (i n : Nat) (drew : Drew (t.past i) n) :
    InEra n ∧ n ∈ t.shared.shown := by
  obtain old | rfl := drew_step step drew
  · exact ⟨(sound.drawn i n old).1, (directory_step step).1 (sound.drawn i n old).2⟩
  · exact (ticked_step step).2

theorem Sound.apart_step (i j n : Nat) (drew : Drew (t.past i) n) (drew' : Drew (t.past j) n) :
    i = j := by
  obtain old | rfl := drew_step step drew
  · obtain old' | rfl := drew_step step drew'
    · exact sound.apart i j n old old'
    · exact absurd (sound.drawn i n old).2 (ticked_step step).1
  · obtain old' | same := drew_step step drew'
    · exact absurd (sound.drawn j n old').2 (ticked_step step).1
    · cases same
      rfl

theorem Sound.named_step (name : String) (file : File) (there : t.shared.find name = some file) :
    ∃ role n i, Drew (t.past i) n ∧ name = fileName role n := by
  obtain same | ⟨gone, -⟩ | ⟨-, i, n, role, -, rfl, drew, -⟩ := find_step step name
  · obtain ⟨role, n, i, drew, named⟩ := sound.named name file (same.symm.trans there)
    exact ⟨role, n, i, drew.later step, named⟩
  · rw [gone] at there
    cases there
  · exact ⟨role, n, i, drew.later step, rfl⟩

/-- **What was read back stays** until the backup that read it removes it. -/
theorem Sound.reads_step (i : Nat) (name : String) (db : DatabaseContent)
    (heard : Heard (t.past i) (.readDatabase name) (.ok db)) :
    (∃ n, Drew (t.past i) n ∧ name = fileName .unfinishedSnapshot n) ∧
      (t.shared.find name = none ∨ t.shared.find name = some (.database db)) := by
  obtain old | rfl := heard_step step heard
  · obtain ⟨⟨n, drew, rfl⟩, kept⟩ := sound.reads i name db old
    refine ⟨⟨n, drew.later step, rfl⟩, ?_⟩
    obtain same | ⟨gone, -⟩ | ⟨-, j, m, role, file, named, drew', -, may⟩ :=
      find_step step (fileName .unfinishedSnapshot n)
    · rw [same]
      exact kept
    · exact .inl gone
    · obtain ⟨rfl, rfl⟩ := fileName_inj named
      obtain rfl := sound.apart i j n drew drew'
      exact absurd old (may db)
  · obtain ⟨⟨n, drew, named⟩, -, -, -, there⟩ := read_step step
    exact ⟨⟨n, drew.later step, named⟩, .inr there⟩

theorem Sound.readOnce_step (i : Nat) (name : String) (db db' : DatabaseContent)
    (heard : Heard (t.past i) (.readDatabase name) (.ok db))
    (heard' : Heard (t.past i) (.readDatabase name) (.ok db')) : db = db' := by
  obtain old | rfl := heard_step step heard
  · obtain old' | rfl := heard_step step heard'
    · exact sound.readOnce i name db db' old old'
    · exact absurd old ((read_step step).2.1 db)
  · obtain old' | same := heard_step step heard'
    · exact absurd old' ((read_step step).2.1 db')
    · cases same
      rfl

theorem Sound.digests_step (i : Nat) (name : String) (db : DatabaseContent) (sha256 : String)
    (read : Heard (t.past i) (.readDatabase name) (.ok db))
    (hashed : Heard (t.past i) (.sha256 name) (.ok sha256)) : sha256 = digest db := by
  obtain old | rfl := heard_step step read
  · obtain old' | rfl := heard_step step hashed
    · exact sound.digests i name db sha256 old old'
    · obtain ⟨content, there, rfl⟩ := hash_step step
      obtain ⟨-, gone | kept⟩ := sound.reads i name db old
      · cases gone.symm.trans there
      · cases kept.symm.trans there
        rfl
  · obtain old' | same := heard_step step hashed
    · exact absurd old' ((read_step step).2.2.1 sha256)
    · cases same

theorem Sound.sizes_step (i : Nat) (name : String) (db : DatabaseContent) (bytes : Nat)
    (read : Heard (t.past i) (.readDatabase name) (.ok db))
    (measured : Heard (t.past i) (.length name) (.ok bytes)) : bytes = size db := by
  obtain old | rfl := heard_step step read
  · obtain old' | rfl := heard_step step measured
    · exact sound.sizes i name db bytes old old'
    · obtain ⟨content, there, rfl⟩ := length_step step
      obtain ⟨-, gone | kept⟩ := sound.reads i name db old
      · cases gone.symm.trans there
      · cases kept.symm.trans there
        rfl
  · obtain old' | same := heard_step step measured
    · exact absurd old' ((read_step step).2.2.2.1 bytes)
    · cases same

/-- **A manifest that was written stays** until its backup removes it. -/
theorem Sound.writes_step (i : Nat) (name : String) (manifest : Manifest)
    (heard : Heard (t.past i) (.writeNew name manifest) (.ok ())) :
    (∃ n, Drew (t.past i) n ∧ name = fileName .unfinishedManifest n ∧
        Describes (t.past i) n manifest) ∧
      (t.shared.find name = none ∨ t.shared.find name = some (.manifest manifest)) := by
  obtain old | rfl := heard_step step heard
  · obtain ⟨⟨n, drew, rfl, describes⟩, kept⟩ := sound.writes i name manifest old
    refine ⟨⟨n, drew.later step, rfl, describes.later step⟩, ?_⟩
    obtain same | ⟨gone, -⟩ | ⟨-, j, m, role, file, named, drew', -, may⟩ :=
      find_step step (fileName .unfinishedManifest n)
    · rw [same]
      exact kept
    · exact .inl gone
    · obtain ⟨rfl, rfl⟩ := fileName_inj named
      obtain rfl := sound.apart i j n drew drew'
      exact absurd old (may manifest)
  · obtain ⟨⟨n, drew, named, describes⟩, there⟩ := write_step step
    exact ⟨⟨n, drew.later step, named, describes.later step⟩, .inr there⟩

/-- **What is linked is what was verified.** -/
theorem Sound.snapshots_step (n : Nat) (file : File)
    (there : t.shared.find (fileName .snapshot n) = some file) : ∃ i db verification,
      Heard (t.past i) (.readDatabase (fileName .unfinishedSnapshot n)) (.ok db) ∧
        verifyPool db = .ok verification ∧ file = .database db := by
  obtain same | ⟨gone, -⟩ | ⟨-, i, m, role, made, named, drew, found, may⟩ :=
    find_step step (fileName .snapshot n)
  · obtain ⟨i, db, verification, read, verified, holds⟩ :=
      sound.snapshots n file (same.symm.trans there)
    exact ⟨i, db, verification, read.later step, verified, holds⟩
  · cases gone.symm.trans there
  · obtain ⟨rfl, rfl⟩ := fileName_inj named
    obtain ⟨source, db, verification, read, verified⟩ := may
    obtain rfl := Option.some.inj (found.symm.trans there)
    refine ⟨i, db, verification, read.later step, verified, ?_⟩
    obtain ⟨-, missing | kept⟩ := sound.reads i _ db read
    · cases missing.symm.trans source
    · exact Option.some.inj (source.symm.trans kept)

theorem Sound.manifests_step (n : Nat) (file : File)
    (there : t.shared.find (fileName .manifest n) = some file) : ∃ i manifest,
      Heard (t.past i) (.writeNew (fileName .unfinishedManifest n) manifest) (.ok ()) ∧
        file = .manifest manifest := by
  obtain same | ⟨gone, -⟩ | ⟨-, i, m, role, made, named, drew, found, may⟩ :=
    find_step step (fileName .manifest n)
  · obtain ⟨i, manifest, written, holds⟩ := sound.manifests n file (same.symm.trans there)
    exact ⟨i, manifest, written.later step, holds⟩
  · cases gone.symm.trans there
  · obtain ⟨rfl, rfl⟩ := fileName_inj named
    obtain ⟨source, manifest, written⟩ := may
    obtain rfl := Option.some.inj (found.symm.trans there)
    refine ⟨i, manifest, written.later step, ?_⟩
    obtain ⟨-, missing | kept⟩ := sound.writes i _ manifest written
    · cases missing.symm.trans source
    · exact Option.some.inj (source.symm.trans kept)

/-- **Every step keeps the directory sound.** -/
theorem Sound.kept : Sound digest size t where
  drawn := sound.drawn_step step
  apart := sound.apart_step step
  nodup := (directory_step step).2 sound.nodup
  named := sound.named_step step
  reads := sound.reads_step step
  readOnce := sound.readOnce_step step
  digests := sound.digests_step step
  sizes := sound.sizes_step step
  writes := sound.writes_step step
  snapshots := sound.snapshots_step step
  manifests := sound.manifests_step step

end Steps

theorem sound_empty (live : DatabaseContent) : Sound digest size (empty live) where
  drawn := fun _ _ heard => by cases heard
  apart := fun _ _ _ heard => by cases heard
  nodup := List.nodup_nil
  named := fun _ _ there => by cases there
  reads := fun _ _ _ heard => by cases heard
  readOnce := fun _ _ _ _ heard => by cases heard
  digests := fun _ _ _ _ heard => by cases heard
  sizes := fun _ _ _ _ heard => by cases heard
  writes := fun _ _ _ heard => by cases heard
  snapshots := fun _ _ there => by cases there
  manifests := fun _ _ there => by cases there

/-- A name of a snapshot that is shown has a stamp. -/
theorem Sound.stamped {name : String} {file : File} (sound : Sound digest size s)
    (there : s.shared.find name = some file) (snapshot : isSnapshotName name = true) :
    ∃ n, fileName .snapshot n = name := by
  obtain ⟨role, n, i, -, rfl⟩ := sound.named name file there
  obtain rfl := isSnapshotName_fileName.1 snapshot
  exact ⟨n, rfl⟩

/-- **In every run the directory is sound.** -/
theorem run_sound {live : DatabaseContent} {labels : List Happening}
    (run : Trace (machine digest size).Step (empty live) labels s) : Sound digest size s :=
  run.keeps (fun _ _ _ step sound => sound.kept step) (sound_empty live)

/-- **Backups are verified.**  In every run, with backups beside each other, cut off or failing
anywhere, every file the directory shows under the name of a snapshot is a database that passes
the verification; and every manifest names its snapshot, with the digest, the length and the
verification of one database that passes it, which is the one in the snapshot while it is there. -/
theorem backups_verified {live : DatabaseContent} {labels : List Happening}
    (run : Trace (machine digest size).Step (empty live) labels s) :
    (∀ name file, s.shared.find name = some file → isSnapshotName name = true →
      ∃ db verification, file = .database db ∧ verifyPool db = .ok verification) ∧
    ∀ n file, s.shared.find (fileName .manifest n) = some file → ∃ manifest db,
      file = .manifest manifest ∧ manifest.snapshotFile = fileName .snapshot n ∧
        manifest.sha256 = digest db ∧ manifest.bytes = size db ∧
        verifyPool db = .ok manifest.verification ∧
        ∀ other, s.shared.find (fileName .snapshot n) = some other → other = .database db := by
  have sound := run_sound run
  constructor
  · intro name file there snapshot
    obtain ⟨n, rfl⟩ := sound.stamped there snapshot
    obtain ⟨-, db, verification, -, verified, rfl⟩ := sound.snapshots n file there
    exact ⟨db, verification, rfl, verified⟩
  · intro n file there
    obtain ⟨i, manifest, written, rfl⟩ := sound.manifests n file there
    obtain ⟨⟨m, drew, named, describes⟩, -⟩ := sound.writes i _ manifest written
    obtain ⟨-, rfl⟩ := fileName_inj named
    obtain ⟨snapshot, db, read, verified, hashed, measured⟩ := describes
    refine ⟨manifest, db, rfl, snapshot, sound.digests i _ db _ read hashed,
      sound.sizes i _ db _ read measured, verified, fun other shown => ?_⟩
    obtain ⟨j, db', -, read', -, rfl⟩ := sound.snapshots n other shown
    obtain ⟨⟨m, drew', same⟩, -⟩ := sound.reads j _ db' read'
    obtain ⟨-, rfl⟩ := fileName_inj same
    obtain rfl := sound.apart i j n drew drew'
    rw [sound.readOnce i _ db db' read read']

/-- The manifest of the first backup describes the snapshot that is there. -/
theorem backups_verified_sample : ∃ s : System, ∃ manifest db,
    s.shared.find (fileName .manifest (10 ^ 18)) = some (.manifest manifest) ∧
      s.shared.find (fileName .snapshot (10 ^ 18)) = some (.database db) ∧
      manifest.sha256 = sampleDigest db ∧ verifyPool db = .ok manifest.verification := by
  obtain ⟨labels, label, s, t, run, -, ⟨file, there⟩, ⟨copy, shown⟩, -⟩ := rotation_reached
  obtain ⟨manifest, db, rfl, -, hashed, -, verified, same⟩ :=
    (backups_verified run).2 (10 ^ 18) file there
  obtain rfl := same copy shown
  exact ⟨s, manifest, db, there, shown, hashed, verified⟩

/-! ## What rotation removes -/

theorem mem_of_expired {retain : Nat} {names : List String} {name : String}
    (due : name ∈ expired retain names) : name ∈ names ∧ isSnapshotName name = true := by
  have listed := List.mem_of_mem_take due
  rwa [List.mem_insertionSort, List.mem_filter] at listed

/-- **An expired name** has as many later ones as are kept, all of them listed. -/
theorem later_of_expired {retain : Nat} {names : List String} {name : String}
    (distinct : names.Nodup) (due : name ∈ expired retain names) :
    ∃ newer : List String, newer.Nodup ∧ newer.length = retain ∧
      ∀ other ∈ newer, other ∈ names ∧ isSnapshotName other = true ∧ name < other := by
  unfold expired at due
  simp only at due
  generalize arranged : (names.filter isSnapshotName).insertionSort (· ≤ ·) = snapshots at due
  have sorted : snapshots.Pairwise (· ≤ ·) := arranged ▸ List.pairwise_insertionSort (· ≤ ·) _
  have permuted : snapshots.Perm (names.filter isSnapshotName) :=
    arranged ▸ List.perm_insertionSort (· ≤ ·) _
  have single : snapshots.Nodup := permuted.nodup_iff.2 (distinct.filter _)
  have split := List.take_append_drop (snapshots.length - retain) snapshots
  refine ⟨snapshots.drop (snapshots.length - retain), single.sublist (List.drop_sublist _ _), ?_, ?_⟩
  · have some_ := List.length_pos_of_mem due
    rw [List.length_take] at some_
    rw [List.length_drop]
    omega
  · intro other kept
    have listed := List.mem_filter.1 (permuted.mem_iff.1 (List.mem_of_mem_drop kept))
    refine ⟨listed.1, listed.2, lt_of_le_of_ne ?_ ?_⟩
    · rw [← split] at sorted
      exact (List.pairwise_append.1 sorted).2.2 name due other kept
    · rw [← split] at single
      rintro rfl
      exact (List.nodup_append.1 single).2.2 name due name kept rfl

theorem list_step {names : List String}
    (step : (machine digest size).Step s (.asked i ⟨.file .list, .ok names⟩) t) :
    names = s.shared.directory.map Prod.fst := by
  obtain ⟨retain, -, -, answers⟩ := asked_cases step
  generalize t.shared = after at answers
  cases answers with
  | carried carries => cases carries with | listed => rfl

/-- The stamp of a file that is shown is one of the clock. -/
theorem Sound.era {role : Role} {file : File} (sound : Sound digest size s)
    (shown : s.shared.find (fileName role n) = some file) : InEra n := by
  obtain ⟨role', m, i, drew, same⟩ := sound.named _ file shown
  obtain ⟨-, rfl⟩ := fileName_inj same
  exact (sound.drawn i n drew).1

/-- **What a listing shows to be expired** has as many later snapshots as are kept, which were
verified when they were listed. -/
theorem Sound.expired {retain : Nat} {names : List String} (sound : Sound digest size s)
    (listed : names = s.shared.directory.map Prod.fst) (era : InEra n)
    (due : fileName .snapshot n ∈ expired retain names) :
    ∃ newer : List Nat, newer.Nodup ∧ newer.length = retain ∧ ∀ m ∈ newer, n < m ∧
      ∃ db verification, s.shared.find (fileName .snapshot m) = some (.database db) ∧
        verifyPool db = .ok verification := by
  obtain ⟨later, distinct, kept, newer⟩ := later_of_expired (listed ▸ sound.nodup) due
  have stamped : ∀ name ∈ later, ∃ m, fileName .snapshot m = name := by
    intro name member
    obtain ⟨shown, snapshot, -⟩ := newer name member
    obtain ⟨file, there⟩ := Shared.find_of_listed (listed ▸ shown)
    exact sound.stamped there snapshot
  obtain ⟨stamps, rfl⟩ : ∃ stamps : List Nat, stamps.map (fileName .snapshot) = later := by
    have image : later ∈ Set.range (List.map (fileName .snapshot)) := by
      rw [Set.range_list_map]
      exact stamped
    exact image
  refine ⟨stamps, distinct.of_map _, by rw [← kept, List.length_map], fun m member => ?_⟩
  obtain ⟨shown, -, after⟩ := newer _ (List.mem_map_of_mem member)
  obtain ⟨file, there⟩ := Shared.find_of_listed (listed ▸ shown)
  obtain ⟨-, db, verification, -, verified, rfl⟩ := sound.snapshots m file there
  exact ⟨lt_of_fileName_lt era (sound.era there) after, db, verification, there, verified⟩

/-- At some point of the run, a rotation of backup `i` has found as many snapshots later than
`nanos` as it keeps, every one of them verified. -/
def Superseded (digest : DatabaseContent → String) (size : DatabaseContent → Nat)
    (live : DatabaseContent) (labels : List Happening) (s : System) (i nanos : Nat) : Prop :=
  ∃ retain earlier later before, s.call i = some retain ∧ labels = earlier ++ later ∧
    Trace (machine digest size).Step (empty live) earlier before ∧
    Trace (machine digest size).Step before later s ∧
    ∃ newer : List Nat, newer.Nodup ∧ newer.length = retain ∧ ∀ m ∈ newer, nanos < m ∧
      ∃ db verification, before.shared.find (fileName .snapshot m) = some (.database db) ∧
        verifyPool db = .ok verification

/-- **Backups are kept.**  In every run, a step that takes a snapshot from the directory is one of
the backup that made it, after something has gone wrong for it, or one of a rotation that has found
as many later snapshots as are to be kept, every one of them verified. -/
theorem backups_kept {live : DatabaseContent} {labels : List Happening} {file : File}
    (run : Trace (machine digest size).Step (empty live) labels s)
    (step : (machine digest size).Step s label t)
    (shown : s.shared.find (fileName .snapshot n) = some file)
    (gone : t.shared.find (fileName .snapshot n) = none) :
    ∃ i, label = .asked i ⟨.file (.remove (fileName .snapshot n)), .ok ()⟩ ∧
      ((Drew (s.past i) n ∧ Failed (s.past i)) ∨
        Superseded digest size live labels s i n) := by
  have sound := run_sound run
  obtain same | ⟨-, i, retain, rfl, called, may⟩ | ⟨fresh, -⟩ := find_step step (fileName .snapshot n)
  · cases gone.symm.trans (same.trans shown)
  · refine ⟨i, rfl, ?_⟩
    obtain ⟨m, role, drew, same, fails⟩ | ⟨names, snapshot, heard, due, named⟩ := may
    · obtain ⟨rfl, rfl⟩ := fileName_inj same
      exact .inl ⟨drew, fails rfl⟩
    · right
      obtain known | ⟨earlier, later, before, after, rfl, first, listing, rest⟩ :=
        heard_in_run run heard
      · cases known
      have sound' := run_sound first
      have listed := list_step listing
      have current : snapshot = fileName .snapshot n := by
        obtain rfl | manifest := named
        · rfl
        · obtain ⟨there, snapshots⟩ := mem_of_expired due
          obtain ⟨file, there⟩ := Shared.find_of_listed (listed ▸ there)
          obtain ⟨m, rfl⟩ := sound'.stamped there snapshots
          rw [manifestOf_snapshot] at manifest
          cases (fileName_inj manifest).1
      subst current
      refine ⟨retain, earlier, _, before, called, rfl, first, .cons listing rest, ?_⟩
      exact sound'.expired listed (sound.era shown) due
  · cases fresh.symm.trans shown

/-- The first snapshot goes by the rotation of the second backup. -/
theorem backups_kept_sample : ∃ labels label, ∃ s t : System,
    Trace (machine sampleDigest sampleSize).Step (empty migratedDatabase) labels s ∧
      (machine sampleDigest sampleSize).Step s label t ∧ ∃ i,
        label = .asked i ⟨.file (.remove (fileName .snapshot (10 ^ 18))), .ok ()⟩ ∧
          ((Drew (s.past i) (10 ^ 18) ∧ Failed (s.past i)) ∨
            Superseded sampleDigest sampleSize migratedDatabase labels s i (10 ^ 18)) := by
  obtain ⟨labels, label, s, t, run, step, -, ⟨file, shown⟩, gone⟩ := rotation_reached
  exact ⟨labels, label, s, t, run, step, backups_kept run step shown gone⟩

end MediaBooster.Backups
